import Bindery.Proofs.ArgumentTexts
import Bindery.Proofs.CheckedArguments
import Bindery.Proofs.LoneFiles
import Bindery.Proofs.PrintedLines

/- On how many lines a problem of a body is told. Its place, the identifiers and the keys in it are on one
   line. Only two texts are shown as they are: the external name of a key that is bound already, which a
   literal may give, and the printed form of an argument, in which the text in a field of formatted text is
   not escaped. So a problem is told on more than one line exactly if one of these has a line break. -/
namespace Bindery

open Text

/-! ### Places -/

theorem oneLine_integer (n : Int) : OneLine (toString n) := by
  cases n with
  | ofNat m => exact .number m
  | negSucc m =>
    have sign : OneLine "-" := by decide
    exact oneLine_append.mpr ⟨sign, .number (m + 1)⟩

theorem Span.location_oneLine {s : Span} (single : ∀ p ∈ s.path, OneLine p) : OneLine s.location := by
  have colon : OneLine ":" := by decide
  unfold location
  extract_lets file
  have known : OneLine file := by
    cases path : s.path with
    | none => simp only [file, path]; decide
    | some p =>
      simp only [file, path]
      split
      · decide
      · exact single p path
  split <;> simp only [oneLine_append, known, colon, oneLine_integer, and_self]

theorem Diagnostic.mem_render_iff {x : Diagnostic} {c : Char} (single : ∀ p ∈ x.span.path, OneLine p)
    (ends : c ∈ lineBreaks) : c ∈ x.render.toList ↔ c ∈ x.message.toList := by
  have mark : OneLine ": error: " := by decide
  simp only [render, String.toList_append, List.mem_append, location,
    x.span.location_oneLine single c ends, mark c ends, false_or]

theorem Diagnostic.mem_render_of_message (x : Diagnostic) {c : Char} (within : c ∈ x.message.toList) :
    c ∈ x.render.toList := by
  rw [render, String.toList_append]
  exact List.mem_append_right _ within

/-! ### Messages -/

theorem Binding.name_oneLine (b : Binding) : OneLine b.name := by
  cases b <;> decide

theorem Directive.assignedMessage_oneLine (b : Binding) : OneLine (assignedMessage b.name) := by
  have mark : OneLine "@" := .ofList (by decide)
  have wrong : OneLine " := \"...\" cannot be a name/value, you probably meant @" := .ofList (by decide)
  have right : OneLine "(name=\"...\")" := .ofList (by decide)
  exact (((mark.append b.name_oneLine).append wrong).append b.name_oneLine).append right

theorem Declaration.unreadableMessage_oneLine : OneLine unreadableMessage := .ofList (by decide)

/-- The text of the argument, where the message shows it. -/
def ArgumentFault.source? : ArgumentFault → Option String
  | .positional source => some source
  | .notText _ source => some source
  | _ => none

theorem Argument.breaks_of_refused {x : Argument} {allowed : List String} {fault : ArgumentFault}
    (refused : x.check allowed = .error fault) : x.Breaks allowed fault := by
  rcases x.check_cases allowed with ⟨fault', refused', breaks, -⟩ | ⟨e, accepted, -⟩
  · rwa [Except.error.inj (refused.symm.trans refused')]
  · rw [accepted] at refused
    cases refused

theorem Argument.Breaks.source_eq {x : Argument} {allowed : List String} {fault : ArgumentFault}
    {text : String} (breaks : x.Breaks allowed fault) (shown : fault.source? = some text) :
    x.source = text := by
  cases breaks <;> cases shown <;> rfl

theorem ArgumentFault.mem_message {fault : ArgumentFault} {directive text : String} {c : Char}
    (shown : fault.source? = some text) (member : c ∈ text.toList) :
    c ∈ (fault.message directive).toList := by
  cases fault <;> cases shown <;> rw [message, String.toList_append] <;>
    exact List.mem_append_right _ member

/-- Of an argument a fault shows the text as it is, or none of it, and everything else is on one line. -/
theorem Argument.Breaks.message_brokenBy {b : Binding} {x : Argument} {fault : ArgumentFault}
    (breaks : x.Breaks b.allowed fault) (named : NormalNames x.key) :
    BrokenBy fault.source?.toList (fault.message b.name) := by
  have mark : OneLine "@" := .ofList (by decide)
  have begins : OneLine ("@" ++ b.name) := mark.append b.name_oneLine
  have argument : OneLine " argument '" := .ofList (by decide)
  have known : ∀ key, x.key = some key → OneLine key := fun key own => (named key own).oneLine
  cases breaks with
  | positional =>
    have middle : OneLine " does not accept positional arguments, got " := .ofList (by decide)
    exact .behind (begins.append middle) (.of_mem (List.mem_singleton_self _))
  | unrecognized keyed =>
    have middle : OneLine " got unrecognized argument '" := .ofList (by decide)
    have expected : OneLine "', expected one of: " := .ofList (by decide)
    have listed : OneLine (", ".intercalate b.allowed) := by cases b <;> decide +kernel
    exact .of_oneLine ((((begins.append middle).append (known _ keyed)).append expected).append listed)
  | notText keyed =>
    have wrong : OneLine "' must be a string literal, got " := .ofList (by decide)
    exact .behind (((begins.append argument).append (known _ keyed)).append wrong)
      (.of_mem (List.mem_singleton_self _))
  | empty keyed =>
    have wrong : OneLine "' must not be empty" := .ofList (by decide)
    exact .of_oneLine (((begins.append argument).append (known _ keyed)).append wrong)

namespace Registry

variable {first later : Item}

theorem mem_duplicateMessage {c : Char} (member : c ∈ first.name.toList) :
    c ∈ (duplicateMessage first later).toList := by
  have front : ∀ {s t : String}, c ∈ s.toList → c ∈ (s ++ t).toList := fun {s t} within =>
    String.toList_append (s := s) (t := t) ▸ List.mem_append_left _ within
  have back : ∀ {s t : String}, c ∈ t.toList → c ∈ (s ++ t).toList := fun {s t} within =>
    String.toList_append (s := s) (t := t) ▸ List.mem_append_right _ within
  exact front (front (front (front (front (back member)))))

theorem duplicateMessage_brokenBy (bound : OneLine first.ident) (rebound : OneLine later.ident) :
    BrokenBy [first.name] (duplicateMessage first later) := by
  have front : OneLine "Duplicate @py* annotation on pymodule: " := .ofList (by decide)
  have known : OneLine " (already bound to '" := .ofList (by decide)
  have again : OneLine "', rebound by '" := .ofList (by decide)
  have back : OneLine "')" := .ofList (by decide)
  have named : BrokenBy [first.name] ("Duplicate @py* annotation on pymodule: " ++ first.name) :=
    .behind front (.of_mem (List.mem_singleton_self _))
  exact ((((named.before known).before bound).before again).before rebound).before back

end Registry

/-! ### External names -/

/-- An argument gives a name by a literal. -/
def Argument.Names (x : Argument) (name : String) : Prop :=
  x.key = some "name" ∧ x.value = some (.text name)

/-- What is accepted is named by the identifier or by an argument. -/
theorem Arguments.name_cases {directive ident : String} {allowed : List String} {span : Option Span}
    {args : List Argument} {checked : Arguments}
    (accepted : ofList directive ident args allowed span = .ok checked) :
    checked.name = ident ∨ ∃ x ∈ args, x.Names checked.name := by
  rcases ofList_cases directive ident allowed span args with
    ⟨batch, refused, -, -⟩ | ⟨es, found, -, gives⟩
  · rw [refused] at accepted
    cases accepted
  · rw [found] at accepted
    cases accepted
    rw [name, get?, ModuleName.resolve]
    cases given : (gathered es).lookup "name" with
    | none => exact .inl rfl
    | some text =>
      obtain ⟨before, after, parts, -⟩ := List.lookup_eq_some_iff.mp given
      obtain ⟨x, among, its⟩ := (gathered_keeps gives).given ("name", text) (by simp [parts])
      exact .inr ⟨x, among, its.key, its.text⟩

namespace Declaration

/-- An argument of an annotation of a body. -/
structure Carries (ds : List Declaration) (a : Annotation) (b : Binding) (x : Argument) : Prop where
  binds : ∃ d, Binds ds d a b
  given : ∃ path args span, a.directive = some (.applied path args span) ∧ x ∈ args

/-- How a character comes into a problem of a body from a text that is shown as it is. -/
inductive Spreads (ds : List Declaration) (c : Char) : Diagnostic → Prop
  | name {a : Annotation} {b : Binding} {x : Argument} {first later : Item} {place : Span}
      (carries : Carries ds a b x) (names : x.Names first.name) (within : c ∈ first.name.toList) :
      Spreads ds c ⟨Registry.duplicateMessage first later, place⟩
  | argument {a : Annotation} {b : Binding} {x : Argument} {e : Expr} {fault : ArgumentFault} {place : Span}
      (carries : Carries ds a b x) (refused : x.check b.allowed = .error fault)
      (shown : fault.source? = some x.source) (written : x.Written e)
      (field : ∃ text ∈ e.fieldTexts false, c ∈ text.toList) (within : c ∈ x.source.toList) :
      Spreads ds c ⟨fault.message b.name, place⟩

variable {source : String} {path : Option String} {ds : List Declaration} {d : Declaration}
  {a : Annotation} {b : Binding} {x : Diagnostic} {item : Item} {c : Char}

/-- An item has the identifier of its declaration, and that name too if no argument gives another. -/
theorem item_cases (binds : Binds ds d a b) (offers : a.verdict? d.ident = some (.ok item)) :
    item.ident = d.ident ∧
      (item.name = d.ident ∨ ∃ b x, Carries ds a b x ∧ x.Names item.name) := by
  obtain ⟨b, form, binds, directive, classified⟩ := binds_of_verdict binds.inBody binds.on offers
  obtain ⟨args, listed, classified⟩ := bind_eq_ok_iff.mp classified
  obtain ⟨checked, accepted, same⟩ := bind_eq_ok_iff.mp classified
  cases same
  refine ⟨rfl, (Arguments.name_cases accepted).imp id ?_⟩
  rintro ⟨x, among, names⟩
  cases form <;> cases listed
  · cases among
  · exact ⟨b, x, ⟨⟨d, binds⟩, _, _, _, directive, among⟩, names⟩

section
variable (read : ofSource source path = .ok ds)
include read

theorem ident_oneLine (inBody : d ∈ ds) : OneLine d.ident := .of_continues (ident_word read inBody)

theorem Reported.span_path (reported : Reported ds x) : x.span.path = path := by
  cases reported with
  | @argument d a b name args span x fault binds list given refused =>
    change (x.placeOr (some a.span)).path = path
    unfold Argument.placeOr
    split
    · exact (arguments_written read binds.inBody binds.on list x given).1
    · exact annotation_path read binds.inBody binds.on
  | assigned binds form => exact assigned_path read binds.inBody binds.on form
  | duplicate binds => exact annotation_path read binds.inBody binds.on

/-- A line break in a problem of a body is one of a text that is shown as it is. -/
theorem Reported.spreads (reported : Reported ds x) (ends : c ∈ lineBreaks)
    (member : c ∈ x.message.toList) : Spreads ds c x := by
  cases reported with
  | @argument d a b name args span x fault binds list given refused =>
    obtain ⟨-, e, written⟩ := arguments_written read binds.inBody binds.on list x given
    have breaks := Argument.breaks_of_refused refused
    obtain ⟨text, among, within⟩ := breaks.message_brokenBy written.key c ends member
    have shown := Option.mem_toList.mp among
    obtain rfl := breaks.source_eq shown
    exact .argument ⟨⟨d, binds⟩, _, _, _, list, given⟩ refused shown written
      (Expr.text_brokenBy written.sound _ written.text c ends within) within
  | @assigned _ _ b => exact absurd member (Directive.assignedMessage_oneLine b c ends)
  | @duplicate _ _ _ _ _ _ first later binds offers binds' offers' =>
    obtain ⟨rebound, -⟩ := item_cases binds offers
    obtain ⟨bound, named⟩ := item_cases binds' offers'
    have single := ident_oneLine read binds'.inBody
    obtain ⟨text, among, within⟩ := Registry.duplicateMessage_brokenBy (bound ▸ single)
      (rebound ▸ ident_oneLine read binds.inBody) c ends member
    obtain rfl := List.mem_singleton.mp among
    rcases named with own | ⟨b, x, carries, names⟩
    · exact absurd (own ▸ within) (single c ends)
    · exact .name carries names within

omit read in
theorem Spreads.mem_message (spreads : Spreads ds c x) : c ∈ x.message.toList := by
  cases spreads with
  | name _ _ within => exact Registry.mem_duplicateMessage within
  | argument _ _ shown _ _ within => exact ArgumentFault.mem_message shown within

end

/-! ### Bodies -/

/-- A body has a problem: it cannot be read, or a walk over it comes to its end and reports the problem. -/
def Told (source : String) (path : Option String) (x : Diagnostic) : Prop :=
  ofSource source path = .error (.unreadable x) ∨
    ∃ ds w, ofSource source path = .ok ds ∧ Walk.ofDeclarations ds = .ok w ∧ x ∈ w.diagnostics

theorem unreadable_cases (refused : ofSource source path = .error (.unreadable x)) :
    x.message = unreadableMessage ∧ x.span.path = path := by
  unfold ofSource at refused
  split at refused
  · cases refused
    exact ⟨rfl, rfl⟩
  · obtain ⟨fault, -, ⟨⟩⟩ := mapError_eq_error_iff.mp refused

/-- When no line ends in the path of a body, a character that ends a line is in a rendered problem of it
    exactly if it comes from a text that is shown as it is: from a name that a literal gives and that is bound
    twice, or from the text of a refused argument, and then from some text in a field of it. The problem of a
    body that cannot be read is on one line. -/
theorem Told.mem_render_iff (told : Told source path x) (single : ∀ p ∈ path, OneLine p)
    (ends : c ∈ lineBreaks) :
    c ∈ x.render.toList ↔ ∃ ds, ofSource source path = .ok ds ∧ Spreads ds c x := by
  rcases told with unreadable | ⟨ds, w, read, walked, member⟩
  · obtain ⟨message, here⟩ := unreadable_cases unreadable
    rw [Diagnostic.mem_render_iff (here ▸ single) ends, message]
    refine iff_of_false (unreadableMessage_oneLine c ends) ?_
    rintro ⟨ds, read, -⟩
    rw [read] at unreadable
    cases unreadable
  · have reported := (Walk.ofDeclarations_told ds).1 w walked x member
    rw [Diagnostic.mem_render_iff (reported.span_path read ▸ single) ends]
    constructor
    · exact fun within => ⟨ds, read, reported.spreads read ends within⟩
    · rintro ⟨ds', -, spreads⟩
      exact spreads.mem_message

/-- A name with a line feed that is bound twice. -/
def reboundBody : String :=
  "@pyfunction(name=\"a\\nb\")\ndef f(): pass\n@pyfunction(name=\"a\\nb\")\ndef g(): pass\n"

theorem reboundBody_told : ∃ ds, ofSource reboundBody none = .ok ds ∧
    ∃ w, Walk.ofDeclarations ds = .ok w ∧ w.diagnostics.map Diagnostic.render =
      ["<source>:3:1: error: Duplicate @py* annotation on pymodule: a\nb" ++
        " (already bound to 'f', rebound by 'g')"] := by
  decide +kernel

/-- Two arguments by position: one has the line feed of its text escaped, the other one, in a field, not. -/
def fieldBody : String :=
  "@pyfunction('''a\nb''', f'''\x7b\"\"\"a\nb\"\"\"\x7d''')\ndef f(): pass\n"

theorem fieldBody_told : ∃ ds, ofSource fieldBody none = .ok ds ∧
    ∃ w, Walk.ofDeclarations ds = .ok w ∧ w.diagnostics.map Diagnostic.message =
      ["@pyfunction does not accept positional arguments, got 'a\\nb'",
        "@pyfunction does not accept positional arguments, got f'''\x7b\"\"\"a\nb\"\"\"\x7d'''"] := by
  decide +kernel

end Declaration

namespace Expansion

variable {source : String} {path moduleName : Option String} {batch : Diagnostic.Batch}

theorem ofDeclarations_problems {ds : List Declaration}
    (refused : (ofDeclarations source path moduleName ds).1 = .error (.problems batch)) :
    ∃ w, Walk.ofDeclarations ds = .ok w ∧ w.diagnostics = batch.toList := by
  unfold ofDeclarations at refused
  split at refused
  · cases refused
  · next w walked =>
    refine ⟨w, walked, ?_⟩
    split at refused
    · next found =>
      cases refused
      exact (Diagnostic.Batch.ofList?_eq_some_iff.mp found).symm
    · dsimp only at refused
      split at refused <;> cases refused

/-- What keeps a body from being expanded are its problems. -/
theorem problems_told (refused : ofSource source path moduleName = .error (.problems batch)) :
    ∀ x ∈ batch.toList, Declaration.Told source path x := by
  rcases ofSource_cases source path moduleName with
    ⟨d, unreadable, found⟩ | ⟨f, -, found⟩ | ⟨ds, read, found⟩ <;> rw [found] at refused
  · cases refused
    intro x member
    exact .inl (List.mem_singleton.mp member ▸ unreadable)
  · cases refused
  · obtain ⟨w, walked, told⟩ := ofDeclarations_problems refused
    exact fun x member => .inr ⟨ds, w, read, walked, told ▸ member⟩

end Expansion
end Bindery

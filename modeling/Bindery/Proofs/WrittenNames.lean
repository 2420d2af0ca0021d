import Bindery.Generation
import Bindery.Proofs.Body.Statements
import Bindery.Proofs.Walks
import Bindery.Proofs.WordTexts

/- The name of a directive is the normal form of a word of its source: the reader takes it from the
   word at the front of the expression. The source of a directive stands in the body, and so does that
   word; in a body of ASCII characters it is the name itself. -/
namespace Bindery

/-- The name that an expression begins with, where it is all of a directive's path. -/
def Expr.head? : Expr → Option String
  | .name id => some id
  | .call (.name id) _ _ => some id
  | .named target _ => some target
  | _ => none

namespace Reader

/-- The head of an expression is the normal form of one of these words. -/
def HeadFrom (ts : List Lexeme) (e : Expr) : Prop :=
  ∀ id, e.head? = some id → ∃ t ∈ ts, ∃ w, t.token = .word w ∧ Text.normalForm w = id

namespace HeadFrom

variable {ts : List Lexeme} {e : Expr}

theorem headless (none : e.head? = none) : HeadFrom ts e := by
  intro id some
  rw [none] at some
  contradiction

theorem weaken {t : Lexeme} (own : HeadFrom ts e) : HeadFrom (t :: ts) e := by
  intro id head
  obtain ⟨u, member, found⟩ := own id head
  exact ⟨u, List.mem_cons_of_mem t member, found⟩

/-- Only a call of a name has a head, that of the name. -/
theorem call (own : HeadFrom ts e) (args : List Expr) (keywords : List Keyword) :
    HeadFrom ts (.call e args keywords) := by
  cases e with
  | name id => exact own
  | _ => exact headless rfl

end HeadFrom

theorem name?_from (ts : List Lexeme) :
    Whenever (fun r => ∃ t ∈ ts, ∃ w, t.token = .word w ∧ Text.normalForm w = r.1) (name? ts) := by
  unfold name?
  split
  · exact .ite .none (.some ⟨_, List.mem_cons_self .., _, rfl, rfl⟩)
  · exact .none

/-- Reading gives an expression whose head is one of the words read. -/
def Heads (read : List Lexeme → Option (Phrase × List Lexeme)) : Prop :=
  ∀ ts, Whenever (fun r => HeadFrom ts r.1.expr) (read ts)

/-! ### Atoms without a head -/

/-- A reading that gives no name, no call and no assignment. -/
def Headless (read : Option (Phrase × List Lexeme)) : Prop :=
  Whenever (fun r => r.1.expr.head? = none) read

theorem textLiteral_headless (fuel : Nat) (written : List TextLiteral.Written) :
    Whenever (fun e => e.head? = none) (textLiteral fuel written) := by
  cases fuel with
  | zero => exact .none
  | succ fuel =>
    rw [textLiteral]
    dsimp only
    refine .ite (.ite ?_ .none) ?_
    · exact (Whenever.trivial _).map fun _ _ => rfl
    · exact (Whenever.trivial _).bind fun pieces _ => .ite (.some rfl) (.some rfl)

theorem bracketed_headless (fuel : Nat) (start : Place) (ts : List Lexeme) :
    Headless (bracketed fuel start ts) := by
  cases fuel with
  | zero => exact .none
  | succ fuel =>
    rw [bracketed]
    split
    · exact .some rfl
    · refine (Whenever.trivial _).bind fun _ _ => .ite ?_ ?_
      · exact (Whenever.trivial _).bind fun _ _ => (Whenever.trivial _).bind fun _ _ => .some rfl
      · exact (Whenever.trivial _).bind fun _ _ => .some rfl

theorem braced_headless (fuel : Nat) (start : Place) (ts : List Lexeme) :
    Headless (braced fuel start ts) := by
  cases fuel with
  | zero => exact .none
  | succ fuel =>
    rw [braced]
    split
    · exact .some rfl
    · refine .ite ((Whenever.trivial _).bind fun _ _ => .some rfl) ?_
      refine (Whenever.trivial _).bind fun _ _ => .ite ?_ (.ite ?_ ?_)
      · refine (Whenever.trivial _).bind fun _ _ => (Whenever.trivial _).bind fun _ _ => .ite ?_ ?_
        · exact (Whenever.trivial _).bind fun _ _ => (Whenever.trivial _).bind fun _ _ => .some rfl
        · exact (Whenever.trivial _).bind fun _ _ => .some rfl
      · exact (Whenever.trivial _).bind fun _ _ => (Whenever.trivial _).bind fun _ _ => .some rfl
      · exact (Whenever.trivial _).bind fun _ _ => .some rfl

theorem yielded_headless (fuel : Nat) (ts : List Lexeme) :
    Whenever (fun r => r.1.head? = none) (yielded fuel ts) := by
  cases fuel with
  | zero => exact .none
  | succ fuel =>
    rw [yielded]
    split
    · exact (Whenever.trivial _).map fun _ _ => rfl
    · exact .ite (.some rfl) ((Whenever.trivial _).map fun _ _ => rfl)

/-! ### The front of an expression -/

/-- What the functions at the front of an expression give with this much fuel. -/
structure ReadsHeads (fuel : Nat) : Prop where
  named : Heads (named fuel)
  expression : Heads (expression fuel)
  disjunction : Heads (disjunction fuel)
  conjunction : Heads (conjunction fuel)
  inversion : Heads (inversion fuel)
  binary : ∀ levels, Heads (binary fuel levels)
  binaryTail : ∀ ops levels (left : Phrase) start ts rest, HeadFrom ts left.expr →
    Whenever (fun r => HeadFrom ts r.1.expr) (binaryTail fuel ops levels left start rest)
  factor : Heads (factor fuel)
  awaited : Heads (awaited fuel)
  primary : Heads (primary fuel)
  trailers : ∀ (base : Phrase) start ts rest, HeadFrom ts base.expr →
    Whenever (fun r => HeadFrom ts r.1.expr) (trailers fuel base start rest)
  atom : Heads (atom fuel)
  element : Heads (element fuel)
  parenthesized : ∀ start, Heads (parenthesized fuel start)

section
variable {fuel : Nat} (ih : ReadsHeads fuel)
include ih

theorem named_heads : Heads (named (fuel + 1)) := by
  intro ts
  rw [named]
  split
  · rename_i target rest found
    refine (Whenever.trivial _).bind fun value _ => .some ?_
    rintro id ⟨⟩
    unfold nameBefore? at found
    obtain ⟨r, read, marked⟩ := Option.bind_eq_some_iff.mp found
    obtain ⟨_, _, ⟨⟩⟩ := Option.bind_eq_some_iff.mp marked
    exact name?_from ts r read
  · exact (ih.expression ts).bind fun r own => .ite .none (.some own)

theorem expression_heads : Heads (expression (fuel + 1)) := by
  intro ts
  rw [expression]
  split
  · refine (Whenever.trivial _).bind fun _ _ => (Whenever.trivial _).bind fun _ _ => ?_
    exact (Whenever.trivial _).bind fun _ _ => (Whenever.trivial _).bind fun _ _ =>
      .some (.headless rfl)
  · refine (ih.disjunction ts).bind fun r own => ?_
    dsimp only
    split
    · exact .some own
    · refine (Whenever.trivial _).bind fun _ _ => (Whenever.trivial _).bind fun _ _ => ?_
      exact (Whenever.trivial _).bind fun _ _ => .some (.headless rfl)

theorem disjunction_heads : Heads (disjunction (fuel + 1)) := by
  intro ts
  rw [disjunction]
  refine (ih.conjunction ts).bind fun r own => .ite ?_ (.some own)
  exact (Whenever.trivial _).bind fun _ _ => .some (.headless rfl)

theorem conjunction_heads : Heads (conjunction (fuel + 1)) := by
  intro ts
  rw [conjunction]
  refine (ih.inversion ts).bind fun r own => .ite ?_ (.some own)
  exact (Whenever.trivial _).bind fun _ _ => .some (.headless rfl)

theorem inversion_heads : Heads (inversion (fuel + 1)) := by
  intro ts
  rw [inversion]
  split
  · exact (Whenever.trivial _).bind fun _ _ => .some (.headless rfl)
  · refine (ih.binary _ ts).bind fun r own => .ite ?_ (.some own)
    exact (Whenever.trivial _).bind fun _ _ => .some (.headless rfl)

theorem binary_heads (levels : List (List (String × BinaryOp))) :
    Heads (binary (fuel + 1) levels) := by
  intro ts
  cases levels with
  | nil =>
    rw [binary]
    exact ih.factor ts
  | cons ops levels =>
    rw [binary]
    exact (ih.binary levels ts).bind fun r own => ih.binaryTail ops levels r.1 _ ts r.2 own

theorem binaryTail_heads (ops : List (String × BinaryOp)) (levels : List (List (String × BinaryOp)))
    (left : Phrase) (start : Place) (ts rest : List Lexeme) (own : HeadFrom ts left.expr) :
    Whenever (fun r => HeadFrom ts r.1.expr) (binaryTail (fuel + 1) ops levels left start rest) := by
  rw [binaryTail]
  split
  · exact .some own
  · exact (Whenever.trivial _).bind fun right _ => ih.binaryTail _ _ _ _ ts _ (.headless rfl)

theorem factor_heads : Heads (factor (fuel + 1)) := by
  intro ts
  rw [factor]
  split
  · exact (Whenever.trivial _).bind fun _ _ => .some (.headless rfl)
  · refine (ih.awaited ts).bind fun r own => ?_
    dsimp only
    split
    · exact .some own
    · exact (Whenever.trivial _).bind fun _ _ => .some (.headless rfl)

theorem awaited_heads : Heads (awaited (fuel + 1)) := by
  intro ts
  rw [awaited]
  split
  · exact (Whenever.trivial _).bind fun _ _ => .some (.headless rfl)
  · exact ih.primary ts

theorem primary_heads : Heads (primary (fuel + 1)) := by
  intro ts
  rw [primary]
  exact (ih.atom ts).bind fun r own => ih.trailers r.1 _ ts r.2 own

theorem trailers_heads (base : Phrase) (start : Place) (ts rest : List Lexeme)
    (own : HeadFrom ts base.expr) :
    Whenever (fun r => HeadFrom ts r.1.expr) (trailers (fuel + 1) base start rest) := by
  rw [trailers]
  split
  · exact (Whenever.trivial _).bind fun _ _ => ih.trailers _ _ ts _ (.headless rfl)
  split
  · refine (Whenever.trivial _).bind fun _ _ => (Whenever.trivial _).bind fun _ _ => ?_
    exact ih.trailers _ _ ts _ (own.call _ _)
  split
  · refine (Whenever.trivial _).bind fun _ _ => (Whenever.trivial _).bind fun _ _ => ?_
    exact ih.trailers _ _ ts _ (.headless rfl)
  · exact .some own

theorem atom_heads : Heads (atom (fuel + 1)) := by
  intro ts
  unfold atom
  dsimp only
  split
  · exact .some (.headless rfl)
  · exact .some (.headless rfl)
  · exact .some (.headless rfl)
  · refine (name?_from _).map ?_
    rintro r word _ ⟨⟩
    exact word
  · exact .some (.headless rfl)
  · exact (textLiteral_headless _ _).bind fun e none => .some (.headless none)
  · exact .some (.headless rfl)
  · exact fun r read => (ih.parenthesized _ _ r read).weaken
  · exact fun r read => .headless (bracketed_headless _ _ _ r read)
  · exact fun r read => .headless (braced_headless _ _ _ r read)
  · exact .none

theorem element_heads : Heads (element (fuel + 1)) := by
  intro ts
  rw [element]
  split
  · exact (Whenever.trivial _).bind fun _ _ => .some (.headless rfl)
  · exact ih.named ts

theorem parenthesized_heads (start : Place) : Heads (parenthesized (fuel + 1) start) := by
  intro ts
  rw [parenthesized]
  split
  · exact .some (.headless rfl)
  split
  · exact (yielded_headless _ _).bind fun r none =>
      (Whenever.trivial _).bind fun _ _ => .some (.headless none)
  · refine (ih.element ts).bind fun r own => .ite ?_ (.guarded (.ite ?_ ?_))
    · exact (Whenever.trivial _).bind fun _ _ => .some (.headless rfl)
    · exact (Whenever.trivial _).bind fun _ _ => (Whenever.trivial _).bind fun _ _ =>
        .some (.headless rfl)
    · exact (Whenever.trivial _).bind fun _ _ => .some own

end

theorem readsHeads_zero : ReadsHeads 0 := by
  constructor <;> intros <;> first | exact Whenever.none | exact fun _ => Whenever.none

/-- By induction on the fuel, as for sound trees. -/
theorem readsHeads (fuel : Nat) : ReadsHeads fuel := by
  induction fuel with
  | zero => exact readsHeads_zero
  | succ fuel ih =>
    exact {
      named := named_heads ih
      expression := expression_heads ih
      disjunction := disjunction_heads ih
      conjunction := conjunction_heads ih
      inversion := inversion_heads ih
      binary := binary_heads ih
      binaryTail := binaryTail_heads ih
      factor := factor_heads ih
      awaited := awaited_heads ih
      primary := primary_heads ih
      trailers := trailers_heads ih
      atom := atom_heads ih
      element := element_heads ih
      parenthesized := parenthesized_heads ih }

/-- The head of bracketed text is the normal form of a word between the brackets. -/
theorem phrase?_head (s : List Char) : Whenever
    (fun p => ∀ id, p.expr.head? = some id →
      ∃ w, Token.WordIn s w.toList ∧ Text.normalForm w = id) (phrase? ('(' :: s ++ [')'])) := by
  unfold phrase?
  refine (Token.scanAll_bracketed s).bind fun ts stand => ?_
  refine ((readsHeads _).expression ts).bind fun r own => .ite ?_ (.ite (.some ?_) .none)
  · exact (Whenever.trivial _).bind fun _ _ => .ite (.some (by simp [Expr.head?])) .none
  · intro id head
    obtain ⟨t, member, w, word, normal⟩ := own id head
    exact ⟨w, stand t member w word, normal⟩

end Reader

/-! ### Directives -/

/-- A dotted path without a point is a name. -/
theorem Expr.eq_name_of_dottedName? {e : Expr} {path : String} (dotted : e.dottedName? = some path)
    (single : '.' ∉ path.toList) : e = .name path := by
  unfold dottedName? at dotted
  split at dotted
  · cases dotted
    rfl
  · obtain ⟨front, _, rfl⟩ := Option.map_eq_some_iff.mp dotted
    simp at single
  · contradiction

/-- Some stretch of a text is a spelling of a name. -/
def Text.Spells (s : List Char) (name : String) : Prop :=
  ∃ w : String, w.toList <:+: s ∧ normalForm w = name

namespace Directive

theorem path_of_ident? {d : Directive} {id : String} (named : d.ident? = some id) :
    '.' ∉ d.path.toList ∧ d.path = id := by
  unfold ident? at named
  split at named
  · contradiction
  · rename_i single
    cases named
    exact ⟨by simpa using single, rfl⟩

/-- The name of a directive is the head of its expression. -/
theorem ofPhrase_head (phrase : Reader.Phrase) (span : Span) :
    Gives (ofPhrase phrase span) fun found => ∀ id, found.bind ident? = some id →
      phrase.expr.head? = some id := by
  unfold ofPhrase
  split
  · rename_i target value whole
    refine .andThen (fun _ _ => trivial) fun _ _ => .andThen (fun _ _ => trivial) fun _ _ => .ok ?_
    intro id named
    rw [whole]
    exact congrArg some (path_of_ident? named).2
  · rename_i callee args keywords whole
    split
    · rename_i path found dotted _
      refine .andThen (fun _ _ => trivial) fun _ _ => .ok fun id named => ?_
      obtain ⟨single, own⟩ := path_of_ident? named
      rw [whole, Expr.eq_name_of_dottedName? dotted single]
      exact congrArg some own
    · exact .ok fun id named => by simp at named
  · refine .ok fun id named => ?_
    obtain ⟨d, bare, named⟩ := Option.bind_eq_some_iff.mp named
    obtain ⟨path, dotted, rfl⟩ := Option.map_eq_some_iff.mp bare
    obtain ⟨single, own⟩ := path_of_ident? named
    rw [Expr.eq_name_of_dottedName? dotted single]
    exact congrArg some own

/-- The source of a directive spells its name. -/
theorem read_spells (source : String) (span : Span) :
    Gives (read source span) fun found => ∀ id, found.bind ident? = some id →
      Text.Spells source.toList id := by
  unfold read
  refine .andThen (P := fun found => ∀ p, found = some p → ∀ id, p.expr.head? = some id →
    Text.Spells source.toList id) ?_ fun found heads => ?_
  · unfold bracketedPhrase?
    refine .ite .error (.ok fun p read id head => ?_)
    obtain ⟨w, stands, normal⟩ := Reader.phrase?_head source.toList p read id head
    exact ⟨w, stands.inside, normal⟩
  · split
    · exact .ok fun id named => by simp at named
    · rename_i phrase
      exact fun found outcome id named =>
        heads phrase rfl id (ofPhrase_head phrase span found outcome id named)

end Directive

/-! ### Declarations -/

namespace Declaration

section
variable {path : Option String} {Q : String → Prop}

theorem annotationsOf_sources {decorators : List Body.Decorator}
    (each : ∀ x ∈ decorators, Q x.source) :
    Gives (annotationsOf path decorators) fun as => ∀ a ∈ as, Q a.source := by
  induction decorators with
  | nil => exact .ok (by simp)
  | cons d ds ih =>
    obtain ⟨own, rest⟩ := List.forall_mem_cons.mp each
    refine .andThen (P := fun a => Q a.source) ?_ fun a here => .andThen (ih rest) fun as there =>
      .ok (List.forall_mem_cons.mpr ⟨here, there⟩)
    exact .andThen (fun _ _ => trivial) fun _ _ => .ok own

theorem ofStatements_sources {found : List Body.Statement}
    (each : ∀ x ∈ found, x.Decorated fun d => Q d.source) :
    Gives (ofStatements path found) fun ds => ∀ d ∈ ds, ∀ a ∈ d.annotations, Q a.source := by
  induction found with
  | nil => exact .ok (by simp)
  | cons statement rest ih =>
    obtain ⟨own, more⟩ := List.forall_mem_cons.mp each
    cases statement with
    | other => exact ih more
    | definition decorators definition =>
      refine .andThen (P := fun d => ∀ a ∈ d.annotations, Q a.source) ?_ fun d here =>
        .andThen (ih more) fun ds there => .ok (List.forall_mem_cons.mpr ⟨here, there⟩)
      exact .andThen (annotationsOf_sources own) fun as sources => .ok sources

end

/-- The source of every annotation stands in the body. -/
theorem ofSource_sources (source : String) (path : Option String) :
    Gives (ofSource source path) fun ds => ∀ d ∈ ds, ∀ a ∈ d.annotations,
      a.source.toList <:+: source.toList := by
  unfold ofSource
  split
  · exact .error
  · rename_i found statements
    intro ds read
    exact ofStatements_sources (Q := fun text => text.toList <:+: source.toList)
      (Body.decorators_infix source found statements) ds (mapError_eq_ok_iff.mp read)

/-- A body spells the names of all its annotations. -/
theorem ofSource_spells (source : String) (path : Option String) :
    Gives (ofSource source path) fun ds => ∀ d ∈ ds, ∀ a ∈ d.annotations, ∀ name,
      a.name = some name → Text.Spells source.toList name := by
  intro ds read d declared a member name named
  have within := ofSource_sources source path ds read d declared a member
  obtain ⟨⟨span, directive⟩, own⟩ := ofSource_isRead read d declared a member
  obtain ⟨w, inside, normal⟩ := Directive.read_spells a.source span a.directive directive name
    (own ▸ named)
  exact ⟨w, inside.trans within, normal⟩

end Declaration

/-! ### Texts that are not read -/

theorem Text.occursIn_iff {w s : List Char} : Text.occursIn w s = true ↔ w <:+: s := by
  induction s with
  | nil => simp [occursIn]
  | cons c cs ih => simp [occursIn, ih, List.infix_cons_iff]

/-- A text without other characters spells a name only as it is. -/
theorem Text.Spells.occursIn {s : List Char} {name : String} (spells : Spells s name)
    (ascii : s.all (·.toNat < 128) = true) : Text.occursIn name.toList s = true := by
  obtain ⟨w, inside, rfl⟩ := spells
  have plain : w.toList.all (·.toNat < 128) = true :=
    List.all_eq_true.mpr fun c member => List.all_eq_true.mp ascii c (inside.subset member)
  rw [normalForm, if_pos plain]
  exact occursIn_iff.mpr inside

theorem Annotation.name_of_isBinding {a : Annotation} (binds : a.isBinding = true) :
    ∃ b : Binding, a.name = some b.name := by
  unfold isBinding binding? at binds
  split at binds
  · obtain ⟨b, found⟩ := Option.isSome_iff_exists.mp binds
    obtain ⟨name, own, found⟩ := Option.bind_eq_some_iff.mp found
    have same : b.name = name := by simpa using List.find?_some found
    exact ⟨b, own.trans (congrArg some same.symm)⟩
  · simp at binds

namespace Generation

/-- A body that binds something spells the name of a binding directive. -/
theorem hasBindings_spells {source : String} {path : Option String} {ds : List Declaration}
    (read : Declaration.ofSource source path = .ok ds) (binds : hasBindings ds = true) :
    ∃ b : Binding, Text.Spells source.toList b.name := by
  simp only [hasBindings, List.any_eq_true] at binds
  obtain ⟨d, declared, a, member, binds⟩ := binds
  obtain ⟨b, named⟩ := Annotation.name_of_isBinding binds
  exact ⟨b, Declaration.ofSource_spells source path ds read d declared a member b.name named⟩

/-- In ASCII text no directive that binds is overlooked. -/
theorem mentionsBinding_of_hasBindings {source : String} {path : Option String}
    {ds : List Declaration} (ascii : source.toList.all (·.toNat < 128) = true)
    (read : Declaration.ofSource source path = .ok ds) (binds : hasBindings ds = true) :
    mentionsBinding source = true := by
  obtain ⟨b, spells⟩ := hasBindings_spells read binds
  refine List.any_eq_true.mpr ⟨b.name, ?_, spells.occursIn ascii⟩
  cases b <;> decide

/-- An ASCII file that has declarations is expanded exactly when one of them binds, whether or not
    its text is looked at first. -/
theorem examine_of_ascii {t : FileTree} {s : Surroundings} {root p : Path} (settings : Settings)
    {source : String} {ds : List Declaration}
    (text : readSource t s (root.join p) = .ok source)
    (ascii : source.toList.all (·.toNat < 128) = true)
    (read : Declaration.ofSource source (some p.text) = .ok ds) :
    examine t s root settings p =
      if hasBindings ds then expand settings p.text source ds else (.ok .plain, []) := by
  simp only [examine, text, read]
  cases mentions : mentionsBinding source with
  | true => simp
  | false =>
    have none : hasBindings ds = false := by
      cases binds : hasBindings ds with
      | false => rfl
      | true => simp [mentionsBinding_of_hasBindings ascii read binds] at mentions
    simp [none]

end Generation
end Bindery

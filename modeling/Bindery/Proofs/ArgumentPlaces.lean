import Bindery.Proofs.DirectiveForms
import Bindery.Proofs.Stripping
import Bindery.Proofs.WalkReports
import Bindery.Proofs.WordPlaces

/- The places of arguments. A decorator stands in the file, the words of its arguments begin in its text, and
   the span of an argument is the place of the byte at which its node begins: of the key, or of the expression
   without the brackets that are not part of it. So all that a walk reports lies within the file. -/
namespace Bindery

open Reader Text.Utf8
open Body (Tile White)

/-! ### Decorators in the file -/

/-- An annotation begins behind some characters of a file, and its directive is read from where its source
    stands behind the mark and white text. -/
structure Annotation.Stands (path : Option String) (a : Annotation) (before text : List Char) : Prop where
  span : a.span = Span.ofPlace path (Place.origin.afterAll before)
  source : a.directive = none ∨ ∃ w, White w ∧ text = '@' :: (w ++ a.source.toList) ∧
    Directive.read a.source (Span.ofPlace path (Place.origin.afterAll (before ++ '@' :: w))) =
      .ok a.directive

/-- The decorators among the passages of a body stand where their tiles do. -/
def Passage.Stands (path : Option String) (t : Tile (Option Passage)) : Prop :=
  match t.part with
  | some (.decorator a) => a.Stands path t.before t.text
  | _ => True

theorem Becomes.stands {path : Option String} {p : Body.Part} {q : Option Passage}
    (becomes : Becomes path p q) (before text : List Char)
    (stands : Body.Part.Stands ⟨p, before, text⟩) : Passage.Stands path ⟨q, before, text⟩ := by
  cases becomes with
  | @decorator d a found =>
    have stands : d.Stands ⟨.decorator d, before, text⟩ := stands
    obtain ⟨directive, read, same⟩ := bind_eq_ok_iff.mp found
    cases same
    refine ⟨by rw [stands.start], ?_⟩
    rcases stands.source with join | join | ⟨w, white, text, place⟩
    · rw [Directive.read_join (.inl join)] at read
      exact .inl (Except.ok.inj read).symm
    · rw [Directive.read_join (.inr join)] at read
      exact .inl (Except.ok.inj read).symm
    · exact .inr ⟨w, white, text, by rw [← place, read]⟩
  | declaration | other => trivial

/-- Every annotation of a source stands in it. -/
theorem Declaration.annotations_stand {source : String} {path : Option String} {ds : List Declaration}
    (read : ofSource source path = .ok ds) {d : Declaration} {a : Annotation} (inBody : d ∈ ds)
    (on : a ∈ d.annotations) :
    ∃ before text after, source.toList = before ++ text ++ after ∧ a.Stands path before text := by
  unfold ofSource at read
  split at read
  · cases read
  · next found statements =>
    obtain ⟨ts, parts, covered, w, tiled, whole, -⟩ := Body.standing_of_read statements
    obtain ⟨qs, becomes, passages⟩ := ofStatements_becomes (mapError_eq_ok_iff.mp read)
    obtain ⟨ts', rfl, tiled'⟩ : ∃ ts', ts'.map Tile.part = qs ∧ Body.Tiled (Passage.Stands path) ts' covered :=
      tiled.relabel (parts ▸ becomes.imp fun p q own => Becomes.stands own)
    have member : some (.decorator a) ∈ ts'.map Tile.part := by
      have among : Passage.decorator a ∈ ds.flatMap Declaration.passages :=
        List.mem_flatMap.mpr ⟨d, inBody, List.mem_append_left _ (List.mem_map_of_mem on)⟩
      rw [← passages] at among
      simpa using among
    obtain ⟨⟨part, before, text⟩, inTiles, own⟩ := List.mem_map.mp member
    obtain ⟨after, within, -⟩ := tiled'.ends _ inTiles
    have stands := tiled'.fit _ inTiles
    cases own
    exact ⟨before, text, after ++ w, by rw [whole, within, List.append_assoc], stands⟩

/-! ### The nodes of arguments -/

namespace Reader

/-- Words in brackets that are not part of what they are read as. -/
inductive Wrapped (own : List Lexeme) : List Lexeme → Prop
  | bare : Wrapped own own
  | bracketed {part : List Lexeme} {o c : Lexeme} (opens : o.token = .mark "(") (closes : c.token = .mark ")")
      (inner : Wrapped own part) : Wrapped own (o :: (part ++ [c]))

/-- An argument with the word that its node begins with. -/
structure Node where
  given : Given
  first : Lexeme

def Node.entry (n : Node) : Entry := ⟨n.given, n.first.start⟩

/-- The words of an argument without stars and its node: the key and what is assigned to it, or an expression
    behind the brackets that are not part of it. A generator without brackets of its own has those of the
    call. -/
inductive Begins (opening : Lexeme) : List Lexeme → Node → Prop
  | positional {part own : List Lexeme} {t : Lexeme} {p : Phrase} (wrapped : Wrapped (t :: own) part)
      (lone : Lone (t :: own) p.expr) (read : TakesAll named part p) :
      Begins opening part ⟨.positional p.expr, t⟩
  | generator {part more : List Lexeme} {p : Phrase} {gs : List Generator} (read : TakesAll named part p)
      (readMore : TakesAll generators more gs) :
      Begins opening (part ++ more) ⟨.positional (.generatorExp p.expr gs), opening⟩
  | keyword {part : List Lexeme} {t u : Lexeme} {key : String} {p : Phrase}
      (name : name? [t] = some (key, [])) (equals : u.token = .mark "=")
      (read : TakesAll expression part p) :
      Begins opening (t :: u :: part) ⟨.keyword (.mk (some key) p.expr), t⟩

/-- The words between the brackets of a call: those of one argument after the other, with commas between
    them and perhaps one behind. -/
inductive Nodes (opening : Lexeme) : List Lexeme → List Node → Prop
  | nil : Nodes opening [] []
  | last {part : List Lexeme} {n : Node} (begins : Begins opening part n) : Nodes opening part [n]
  | more {part rest : List Lexeme} {t : Lexeme} {n : Node} {nodes : List Node}
      (begins : Begins opening part n) (comma : t.token = .mark ",") (behind : Nodes opening rest nodes) :
      Nodes opening (part ++ t :: rest) (n :: nodes)

/-- A text that is in brackets a call with these arguments. -/
def CallNodes (cs : List Char) (nodes : List Node) : Prop :=
  ∃ words part behind callee opening inner closing,
    Token.scanAll ('(' :: cs ++ [')']) = some words ∧ words = part ++ behind ∧ isDone behind = true ∧
    Wrapped (callee ++ opening :: (inner ++ [closing])) part ∧ callee ≠ [] ∧ Balanced callee ∧
    opening.token = .mark "(" ∧ closing.token = .mark ")" ∧ Balanced inner ∧ Nodes opening inner nodes

variable {part own inner words : List Lexeme} {t opening : Lexeme} {p : Phrase} {a : Entry} {n : Node}
  {nodes : List Node} {entries : List Entry} {cs : List Char}

theorem Wrapped.mem (wrapped : Wrapped own part) (member : t ∈ own) : t ∈ part := by
  induction wrapped with
  | bare => exact member
  | bracketed _ _ _ ih => exact List.mem_cons_of_mem _ (List.mem_append_left _ ih)

theorem Wrapped.isInfix (wrapped : Wrapped own part) : own <:+: part := by
  induction wrapped with
  | bare => exact List.infix_rfl
  | bracketed _ _ _ ih => exact List.infix_cons (ih.trans (List.prefix_append _ _).isInfix)

/-- The words of a phrase without the brackets that are not part of it. -/
theorem Placed.wrapped (placed : Placed part p) : ∃ own, Wrapped own part ∧
    own ≠ [] ∧ p.start = place own ∧ Lone own p.expr ∧ (isCall p.expr = true → Called own p) := by
  induction placed with
  | own filled _ start lone called => exact ⟨_, .bare, filled, start, lone, called⟩
  | bracketed opens closes _ ih =>
    obtain ⟨own, wrapped, placed⟩ := ih
    exact ⟨own, .bracketed opens closes wrapped, placed⟩

/-- Words that are taken as a whole are those of what they are read as. -/
theorem placed_of_takesAll (read : TakesAll named part p) : Placed part p := by
  obtain ⟨fuel, rest, read⟩ := read
  obtain ⟨part', passed, placed⟩ := (readsWords fuel).named _ _ read
  rwa [List.append_cancel_right passed.whole]

theorem begins_of_written (written : Written opening.start part a) (plain : a.given.isPlain = true) :
    ∃ n, Begins opening part n ∧ n.entry = a := by
  cases written with
  | plain balanced read =>
    obtain ⟨own, wrapped, filled, start, lone, -⟩ := (placed_of_takesAll read).wrapped
    obtain ⟨t, own, rfl⟩ := List.exists_cons_of_ne_nil filled
    exact ⟨_, .positional wrapped lone read, congrArg (Entry.mk _) start.symm⟩
  | generator balanced balanced' read readMore => exact ⟨_, .generator read readMore, rfl⟩
  | starred | spread => cases plain
  | keyword name equals balanced read => exact ⟨_, .keyword name equals read, rfl⟩

/-- By induction on the list: every argument of a call without stars has a node. -/
theorem nodes_of_listed (listed : Listed opening.start inner entries)
    (plain : ∀ a ∈ entries, a.given.isPlain = true) :
    ∃ nodes, Nodes opening inner nodes ∧ nodes.map Node.entry = entries := by
  induction listed with
  | nil => exact ⟨[], .nil, rfl⟩
  | last written =>
    obtain ⟨n, begins, rfl⟩ := begins_of_written written (plain _ List.mem_cons_self)
    exact ⟨[n], .last begins, rfl⟩
  | more written comma _ ih =>
    obtain ⟨own, rest⟩ := List.forall_mem_cons.mp plain
    obtain ⟨n, begins, rfl⟩ := begins_of_written written own
    obtain ⟨nodes, behind, rfl⟩ := ih rest
    exact ⟨n :: nodes, .more begins comma behind, rfl⟩

theorem Begins.mem (begins : Begins opening part n) : n.first = opening ∨ n.first ∈ part := by
  cases begins with
  | positional wrapped => exact .inr (wrapped.mem List.mem_cons_self)
  | generator => exact .inl rfl
  | keyword => exact .inr List.mem_cons_self

theorem Nodes.mem (stand : Nodes opening inner nodes) (member : n ∈ nodes) :
    n.first = opening ∨ n.first ∈ inner := by
  induction stand with
  | nil => cases member
  | last begins =>
    rw [List.mem_singleton.mp member]
    exact begins.mem
  | more begins _ _ ih =>
    rcases List.mem_cons.mp member with rfl | later
    · exact begins.mem.imp_right (List.mem_append_left _)
    · exact (ih later).imp_right fun among => List.mem_append_right _ (List.mem_cons_of_mem _ among)

/-- The node of every argument begins in the text. -/
theorem CallNodes.beginsAt (call : CallNodes cs nodes) (unbroken : '\r' ∉ cs) (member : n ∈ nodes) :
    ∃ front, Token.BeginsAt cs front n.first := by
  obtain ⟨words, part, behind, callee, opening, inner, closing, scanned, rfl, -, wrapped, filled, balanced,
    opens, closes, balanced', stand⟩ := call
  obtain ⟨before, after, whole⟩ := wrapped.isInfix
  have balancedWords := Token.scanAll_balanced _ _ scanned
  rcases stand.mem member with is | among
  · have split : part ++ behind =
        (before ++ callee) ++ n.first :: (inner ++ [closing] ++ after ++ behind) := by
      rw [is, ← whole]
      simp
    refine Token.beginsAt_of_scanAll unbroken scanned split ?_ ?_ ?_
    · simp [filled]
    · simp
    · rw [is, opens]
      nofun
  · obtain ⟨earlier, later, rfl⟩ := List.append_of_mem among
    have split : part ++ behind =
        (before ++ callee ++ opening :: earlier) ++ n.first :: (later ++ [closing] ++ after ++ behind) := by
      rw [← whole]
      simp
    refine Token.beginsAt_of_scanAll unbroken scanned split ?_ ?_ ?_
    · simp
    · simp
    · -- the words of an argument lie in the bracket of the call, where no line ends
      intro _
      have outer := balancedWords.nonneg before ⟨_, by rw [← whole, List.append_assoc, List.append_assoc]⟩
      have deeper := balanced'.nonneg earlier (List.prefix_append _ _)
      rw [depth_append, depth_append, balanced.whole, depth_cons,
        weight_opening (isOpening_of_mark opens rfl)]
      omega

end Reader

/-! ### The arguments of a directive -/

namespace Directive

variable {base span : Span} {source path : String} {shown : List Argument}

/-- The arguments of a directive are those of a call, each shown at the place of its node. -/
theorem nodes_of_read (accepted : read source base = .ok (some (.applied path shown span))) :
    ∃ nodes, CallNodes source.toList nodes ∧
      List.Forall₂ (fun n b => Shows base n.entry b) nodes shown := by
  obtain ⟨-, p, phrase, forms⟩ := read_eq_ok_iff.mp accepted
  have call : isCall p.expr = true := by
    cases forms with
    | applied applies => rw [applies.call]; rfl
  obtain ⟨words, scanned, ⟨es, tuple⟩ | ⟨part, behind, passed, placed, done⟩⟩ := phrase?_words _ p phrase
  · rw [tuple] at call
    cases call
  · obtain ⟨own, wrapped, -, -, -, called⟩ := placed.wrapped
    obtain ⟨callee, entries, applies, before, inner, o, c, rfl, filled, balanced, opens, closes, balanced',
      listed⟩ := called call
    obtain ⟨-, plain, shows⟩ := shows_of_applies forms applies
    obtain ⟨nodes, stand, rfl⟩ := nodes_of_listed listed plain
    exact ⟨nodes, ⟨words, part, behind, before, o, inner, c, scanned, passed.whole, done, wrapped, filled,
      balanced, opens, closes, balanced', stand⟩, List.forall₂_map_left_iff.mp shows⟩

/-- Nothing at all is no directive. -/
theorem read_empty (base : Span) : read "" base = .ok none := rfl

theorem span_of_read {d : Directive} (accepted : read source base = .ok (some d)) : d.span = base := by
  obtain ⟨-, p, -, forms⟩ := read_eq_ok_iff.mp accepted
  cases forms <;> rfl

end Directive

/-! ### Arguments in the file -/

/-- An argument is shown with the key, the text and the value of its node, at the byte where that begins. -/
structure Reader.Node.ShownAt (path : Option String) (cs before source : List Char) (n : Node)
    (b : Argument) : Prop where
  key : b.key = n.given.key?
  text : n.given.value.text = .ok b.source
  value : Directive.HasValue n.given.value b.value
  place : ∃ front, Token.BeginsAt source front n.first ∧
    b.span = Span.ofByte path (encode cs) (encode (before ++ front)).length

/-- The place of a byte of a file. -/
def Span.Within (path : Option String) (cs : List Char) (s : Span) : Prop :=
  ∃ k < (encode cs).length, s = Span.ofByte path (encode cs) k

section
variable {path : Option String} {cs front gap back : List Char} {a : Annotation}

theorem Span.ofPlace_eq_ofByte (whole : cs = front ++ back) :
    Span.ofPlace path (Place.origin.afterAll front) =
      Span.ofByte path (encode cs) (encode front).length := by
  rw [whole, Span.ofByte, ← Place.afterAll_eq_ofByte]
  rfl

theorem Span.within_of_prefix (more : back ≠ []) (begins : front ++ back <+: cs) :
    (Span.ofByte path (encode cs) (encode front).length).Within path cs := by
  refine ⟨_, ?_, rfl⟩
  obtain ⟨rest, rfl⟩ := begins
  obtain ⟨c, back, rfl⟩ := List.exists_cons_of_ne_nil more
  have filled : 0 < (String.utf8EncodeChar c).length := by
    rw [String.length_utf8EncodeChar]
    exact c.utf8Size_pos
  simp only [encode, List.append_assoc, List.cons_append, List.flatMap_append, List.flatMap_cons,
    List.length_append]
  omega

/-- The arguments of an annotation are shown where their nodes begin in the file. -/
theorem Annotation.shown_at {before w after : List Char} {name : String} {shown : List Argument}
    {span : Span} (unbroken : '\r' ∉ cs)
    (whole : cs = before ++ '@' :: (w ++ a.source.toList) ++ after)
    (read : Directive.read a.source (Span.ofPlace path (Place.origin.afterAll (before ++ '@' :: w))) =
      .ok (some (.applied name shown span))) :
    ∃ nodes, CallNodes a.source.toList nodes ∧
      List.Forall₂ (Node.ShownAt path cs (before ++ '@' :: w) a.source.toList) nodes shown := by
  obtain ⟨nodes, call, shows⟩ := Directive.nodes_of_read read
  have unbroken' : '\r' ∉ a.source.toList := fun member => unbroken (by simp [whole, member])
  have begins := List.forall₂_and_left nodes shown
    |>.mpr ⟨fun n member => call.beginsAt unbroken' member, shows⟩
  refine ⟨nodes, call, begins.imp ?_⟩
  rintro n b ⟨⟨front, begins⟩, key, text, value, place⟩
  refine ⟨key, text, value, front, begins, ?_⟩
  obtain ⟨back, rest, own, -⟩ := begins.reads
  have start : n.entry.start = Place.origin.afterAll ('(' :: front) := begins.start
  have split : cs = (before ++ '@' :: w ++ front) ++ (back ++ after) := by simp [whole, own]
  rw [place, start, Span.ofPlace, Directive.placeIn_bracketed, ← Place.afterAll_append,
    ← Span.ofPlace_eq_ofByte split]
  rfl

theorem Reader.Node.ShownAt.within {before source after : List Char} {n : Node} {b : Argument}
    (shown : n.ShownAt path cs before source b) (whole : cs = before ++ source ++ after) :
    b.span.line.isSome = true ∧ b.span.Within path cs := by
  obtain ⟨front, begins, span⟩ := shown.place
  obtain ⟨back, rest, own, read⟩ := begins.reads
  have more : back ≠ [] := by
    rintro rfl
    cases read
  rw [span]
  exact ⟨rfl, Span.within_of_prefix more ⟨after, by simp [whole, own]⟩⟩

end

namespace Declaration

variable {source : String} {path : Option String} {ds : List Declaration}

/-- A directive is read from the text behind the mark where its annotation is. -/
theorem directive_stands (read : ofSource source path = .ok ds) {d : Declaration} {a : Annotation}
    {form : Directive} (inBody : d ∈ ds) (on : a ∈ d.annotations) (directive : a.directive = some form) :
    ∃ before w after, White w ∧ source.toList = before ++ '@' :: (w ++ a.source.toList) ++ after ∧
      a.span = Span.ofPlace path (Place.origin.afterAll before) ∧
      Directive.read a.source (Span.ofPlace path (Place.origin.afterAll (before ++ '@' :: w))) =
        .ok (some form) := by
  obtain ⟨before, text, after, whole, span, none | ⟨w, white, rfl, own⟩⟩ :=
    annotations_stand read inBody on
  · rw [none] at directive
    cases directive
  · exact ⟨before, w, after, white, whole, span, directive ▸ own⟩

/-- A problem of a body lies within its file. -/
theorem Reported.within {x : Diagnostic} (unbroken : '\r' ∉ source.toList)
    (read : ofSource source path = .ok ds) (reported : Reported ds x) :
    x.span.Within path source.toList := by
  have own : ∀ {d a b}, Binds ds d a b → a.span.Within path source.toList ∧
      ∀ form, a.directive = some form → form.span.Within path source.toList := by
    intro d a b binds
    have directed : ∀ form, a.directive = some form → a.span.Within path source.toList ∧
        form.span.Within path source.toList := by
      intro form directive
      obtain ⟨before, w, after, -, whole, span, own⟩ :=
        directive_stands read binds.inBody binds.on directive
      have filled : a.source.toList ≠ [] := by
        intro nothing
        rw [String.toList_eq_nil_iff.mp nothing, Directive.read_empty] at own
        cases own
      have mark : Span.ofPlace path _ = _ := Span.ofPlace_eq_ofByte (whole.trans (List.append_assoc ..))
      have behind : source.toList = (before ++ '@' :: w) ++ (a.source.toList ++ after) := by simp [whole]
      rw [span, Directive.span_of_read own, mark, Span.ofPlace_eq_ofByte behind]
      exact ⟨Span.within_of_prefix (List.cons_ne_nil _ _) ⟨after, whole.symm⟩,
        Span.within_of_prefix filled ⟨after, by simp [whole]⟩⟩
    refine ⟨?_, fun form directive => (directed form directive).2⟩
    have binds := binds.binds
    unfold Annotation.binding? at binds
    split at binds
    · next some_ =>
      obtain ⟨form, directive⟩ := Option.isSome_iff_exists.mp some_
      exact (directed form directive).1
    · cases binds
  cases reported with
  | @argument d a b name args span x fault binds list given refused =>
    obtain ⟨before, w, after, -, whole, -, accepted⟩ :=
      directive_stands read binds.inBody binds.on list
    obtain ⟨nodes, -, shown⟩ := Annotation.shown_at unbroken whole accepted
    obtain ⟨⟨k, bound⟩, rfl⟩ := List.get_of_mem given
    have own := shown.get (shown.length_eq ▸ bound) bound
    have split : source.toList = (before ++ '@' :: w) ++ a.source.toList ++ after := by simp [whole]
    obtain ⟨known, within⟩ := own.within split
    rwa [Argument.placeOr, if_pos known]
  | assigned binds form => exact (own binds).2 _ form
  | duplicate binds => exact (own binds).1

/-- The span of every argument is the place of the byte in the file at which its node begins, and all that
    a walk reports lies within the file. -/
theorem arguments_point_into_file (unbroken : '\r' ∉ source.toList)
    (read : ofSource source path = .ok ds) :
    (∀ d ∈ ds, ∀ a ∈ d.annotations, ∀ name shown span,
      a.directive = some (.applied name shown span) →
      ∃ before w after nodes, White w ∧
        source.toList = before ++ '@' :: (w ++ a.source.toList) ++ after ∧
        a.span = Span.ofByte path (encode source.toList) (encode before).length ∧
        CallNodes a.source.toList nodes ∧
        List.Forall₂ (Node.ShownAt path source.toList (before ++ '@' :: w) a.source.toList) nodes shown) ∧
    (∀ w, Walk.ofDeclarations ds = .ok w → ∀ x ∈ w.diagnostics, x.span.Within path source.toList) ∧
    ∀ stop, Walk.ofDeclarations ds = .error stop →
      ∀ x ∈ stop.walk.diagnostics, x.span.Within path source.toList := by
  obtain ⟨ended, stopped⟩ := Walk.ofDeclarations_told ds
  refine ⟨?_, fun w walked x member => (ended w walked x member).within unbroken read,
    fun stop walked x member => (stopped stop walked x member).within unbroken read⟩
  intro d inBody a on name shown span list
  obtain ⟨before, w, after, white, whole, place, accepted⟩ := directive_stands read inBody on list
  obtain ⟨nodes, call, shownAt⟩ := Annotation.shown_at unbroken whole accepted
  have mark : Span.ofPlace path _ = _ := Span.ofPlace_eq_ofByte (whole.trans (List.append_assoc ..))
  exact ⟨before, w, after, nodes, white, whole, place.trans mark, call, shownAt⟩

/-- A directive below a sign of two bytes, with arguments on two lines: in brackets, in two bytes more than
    it has signs, and behind that. -/
def unevenBody : String :=
  "'é'\n@ pyfunction((n), # ü\n  'é', name='')\ndef f(): pass\n"

theorem unevenBody_pointed : '\r' ∉ unevenBody.toList ∧
    ∃ ds w, ofSource unevenBody (some "m.py") = .ok ds ∧ Walk.ofDeclarations ds = .ok w ∧
      w.diagnostics.map (fun x => (x.span.line, x.span.col)) =
        [(some 2, some 15), (some 3, some 3), (some 3, some 9)] ∧
      ∀ x ∈ w.diagnostics, x.span.Within (some "m.py") unevenBody.toList := by
  have unbroken : '\r' ∉ unevenBody.toList := by decide
  obtain ⟨ds, read, w, walked, places⟩ : ∃ ds, ofSource unevenBody (some "m.py") = .ok ds ∧
      ∃ w, Walk.ofDeclarations ds = .ok w ∧
        w.diagnostics.map (fun x => (x.span.line, x.span.col)) =
          [(some 2, some 15), (some 3, some 3), (some 3, some 9)] := by decide +kernel
  obtain ⟨-, ended, -⟩ := arguments_point_into_file unbroken read
  exact ⟨unbroken, ds, w, read, walked, places, ended w walked⟩

end Declaration

end Bindery

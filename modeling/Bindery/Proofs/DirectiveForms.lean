import Bindery.Directive
import Bindery.Proofs.ReadWords

/- The three forms of a directive: a dotted name, a call of one without stars, and a name with an assigned
   value. The arguments of a call are those between its brackets, one after the other. -/
namespace Bindery

open Reader

/-! ### Arguments in the order in which they are given -/

namespace Reader.Given

def key? : Given → Option String
  | .positional _ => none
  | .keyword (.mk key _) => key

def value : Given → Expr
  | .positional e => e
  | .keyword (.mk _ e) => e

/-- There is neither one star before the argument nor two. -/
def isPlain : Given → Bool
  | .positional (.starred _) => false
  | .keyword (.mk none _) => false
  | _ => true

theorem isBare_positional (e : Expr) : (positional e).isBare = (positional e).isPlain := by
  cases e <;> rfl

end Reader.Given

namespace Directive

variable {base : Span} {entries : List Entry} {p : Phrase} {d : Directive}
  {found : List (Option String × Expr)}

theorem plain?_eq_some_iff {es : List Expr} : plain? es = some found ↔
    (∀ e ∈ es, (Given.positional e).isPlain = true) ∧ found = es.map fun e => (none, e) := by
  fun_induction plain? es generalizing found with
  | case1 => simp
  | case2 => simp [Given.isPlain]
  | case3 e es unstarred ih =>
    have plain : (Given.positional e).isPlain = true := by
      cases e <;> first | rfl | exact absurd rfl (unstarred _)
    simp only [Option.map_eq_some_iff, ih, List.forall_mem_cons, plain, true_and, List.map_cons]
    grind

theorem keyed?_eq_some_iff {ks : List Keyword} : keyed? ks = some found ↔
    (∀ k ∈ ks, (Given.keyword k).isPlain = true) ∧
      found = ks.map fun k => ((Given.keyword k).key?, (Given.keyword k).value) := by
  fun_induction keyed? ks generalizing found with
  | case1 => simp
  | case2 => simp [Given.isPlain]
  | case3 key e ks ih =>
    simp only [Option.map_eq_some_iff, ih, List.forall_mem_cons, Given.isPlain, true_and, List.map_cons]
    grind [Given.key?, Given.value]

def pair (a : Entry) : Option String × Expr := (a.given.key?, a.given.value)

/-- Behind a keyword every argument without stars is a keyword too. -/
theorem positional_nil (ordered : InOrder true entries) (plain : ∀ a ∈ entries, a.given.isPlain = true) :
    entries.filterMap (·.given.positional?) = [] := by
  induction entries with
  | nil => rfl
  | cons a entries ih =>
    have rest := ih ordered.2 (List.forall_mem_cons.mp plain).2
    rcases a with ⟨e | k, start⟩
    · have bare : (Given.positional e).isBare = false := ordered.1 rfl
      rw [Given.isBare_positional, plain _ (List.mem_cons_self ..)] at bare
      contradiction
    · exact rest

/-- Without stars the arguments are those of the two lists of the tree, one list behind the other. -/
theorem arguments_merged {keyed : Bool} (ordered : InOrder keyed entries)
    (plain : ∀ a ∈ entries, a.given.isPlain = true) :
    ((entries.filterMap (·.given.positional?)).map fun e => (none, e)) ++
      ((entries.filterMap (·.given.keyword?)).map fun k =>
        ((Given.keyword k).key?, (Given.keyword k).value)) = entries.map pair := by
  induction entries generalizing keyed with
  | nil => rfl
  | cons a entries ih =>
    have behind := (List.forall_mem_cons.mp plain).2
    rcases a with ⟨e | k, start⟩
    · exact congrArg ((none, e) :: ·) (ih ordered.2 behind)
    · have later : InOrder true entries := by simpa [Given.isKeyword] using ordered.2
      have rest := ih later behind
      have alone := positional_nil later behind
      rw [alone] at rest
      change List.map _ (entries.filterMap (·.given.positional?)) ++ _ = _
      rw [alone]
      exact congrArg (pair ⟨.keyword k, start⟩ :: ·) rest

theorem plain_iff : (∀ a ∈ entries, a.given.isPlain = true) ↔
    (∀ e ∈ entries.filterMap (·.given.positional?), (Given.positional e).isPlain = true) ∧
      ∀ k ∈ entries.filterMap (·.given.keyword?), (Given.keyword k).isPlain = true := by
  constructor
  · intro plain
    refine ⟨fun e member => ?_, fun k member => ?_⟩
    · obtain ⟨⟨given, start⟩, stands, isPositional⟩ := List.mem_filterMap.mp member
      cases given <;> cases isPositional
      exact plain _ stands
    · obtain ⟨⟨given, start⟩, stands, isKeyword⟩ := List.mem_filterMap.mp member
      cases given <;> cases isKeyword
      exact plain _ stands
  · rintro ⟨first, second⟩ ⟨e | k, start⟩ stands
    · exact first e (List.mem_filterMap.mpr ⟨_, stands, rfl⟩)
    · exact second k (List.mem_filterMap.mpr ⟨_, stands, rfl⟩)

theorem arguments?_eq_some_iff (ordered : InOrder false entries) :
    arguments? (entries.filterMap (·.given.positional?)) (entries.filterMap (·.given.keyword?)) =
      some found ↔ (∀ a ∈ entries, a.given.isPlain = true) ∧ found = entries.map pair := by
  simp only [arguments?, Option.bind_eq_bind, Option.bind_eq_some_iff, plain?_eq_some_iff,
    keyed?_eq_some_iff, Option.pure_def, Option.some.injEq]
  constructor
  · rintro ⟨ps, ⟨plain, rfl⟩, ks, ⟨plain', rfl⟩, rfl⟩
    have plain := plain_iff.mpr ⟨plain, plain'⟩
    exact ⟨plain, arguments_merged ordered plain⟩
  · rintro ⟨plain, rfl⟩
    obtain ⟨first, second⟩ := plain_iff.mp plain
    exact ⟨_, ⟨first, rfl⟩, _, ⟨second, rfl⟩, arguments_merged ordered plain⟩

/-! ### The arguments of a directive -/

/-- The value of an expression is known exactly when it is a literal, and it fits. -/
def HasValue (e : Expr) (value : Option Literal) : Prop :=
  Literal.ofExpr e = value.elim (.error .notLiteral) .ok

theorem valueOf_eq_ok_iff {e : Expr} {value : Option Literal} :
    valueOf e = .ok value ↔ HasValue e value := by
  unfold valueOf HasValue
  rcases Literal.ofExpr e with ⟨_ | _⟩ | v <;> cases value <;> simp

theorem printed_eq_ok_iff {e : Expr} {source : String} : printed e = .ok source ↔ e.text = .ok source :=
  mapError_eq_ok_iff

/-- An argument of a directive is one that is given: with its key, its text, its value and its place. -/
structure Shows (base : Span) (a : Entry) (shown : Argument) : Prop where
  key : shown.key = a.given.key?
  source : a.given.value.text = .ok shown.source
  value : HasValue a.given.value shown.value
  span : shown.span = placeIn base a.start

theorem argument_eq_ok_iff {a : Entry} {shown : Argument} :
    argument base a.given.key? a.given.value a.start = .ok shown ↔ Shows base a shown := by
  simp only [argument, bind_eq_ok_iff, printed_eq_ok_iff, valueOf_eq_ok_iff, pure, Except.pure]
  constructor
  · rintro ⟨source, text, value, known, ⟨⟩⟩
    exact ⟨rfl, text, known, rfl⟩
  · rintro ⟨key, source, value, span⟩
    refine ⟨_, source, _, value, ?_⟩
    rw [← key, ← span]

theorem buildArguments_eq_ok_iff {shown : List Argument} :
    buildArguments base (entries.map pair) (entries.map Entry.start) = .ok shown ↔
      List.Forall₂ (Shows base) entries shown := by
  induction entries generalizing shown with
  | nil => simp [buildArguments, eq_comm]
  | cons a entries ih =>
    simp only [List.map_cons, pair, buildArguments, List.headD_cons, List.drop_one, List.tail_cons,
      bind_eq_ok_iff, argument_eq_ok_iff, pure, Except.pure, List.forall₂_cons_left_iff]
    constructor
    · rintro ⟨first, here, more, rest, ⟨⟩⟩
      exact ⟨first, more, here, ih.mp rest, rfl⟩
    · rintro ⟨first, more, here, rest, rfl⟩
      exact ⟨first, here, more, ih.mpr rest, rfl⟩

/-! ### The forms -/

/-- The directive that a phrase is. -/
inductive Forms (base : Span) (p : Phrase) : Directive → Prop
  | bare {path : String} (dotted : p.expr.dottedName? = some path) : Forms base p (.bare path base)
  | applied {callee : Expr} {path : String} {entries : List Entry} {shown : List Argument}
      (applies : Applies p callee entries) (dotted : callee.dottedName? = some path)
      (plain : ∀ a ∈ entries, a.given.isPlain = true)
      (shows : List.Forall₂ (Shows base) entries shown) : Forms base p (.applied path shown base)
  | assigned {target source : String} {e : Expr} {value : Option Literal}
      (names : p.expr = .named target e) (text : e.text = .ok source) (known : HasValue e value) :
      Forms base p (.assigned target value source base)

/-- A call is one with arguments in some order. -/
def Ordered (p : Phrase) : Prop := isCall p.expr = true → ∃ callee entries, Applies p callee entries

theorem ofPhrase_eq_ok_iff (ordered : Ordered p) :
    ofPhrase p base = .ok (some d) ↔ Forms base p d := by
  unfold ofPhrase
  constructor
  · intro formed
    split at formed
    · next target e names =>
      simp only [bind_eq_ok_iff, printed_eq_ok_iff, valueOf_eq_ok_iff, pure, Except.pure] at formed
      obtain ⟨source, text, value, known, ⟨⟩⟩ := formed
      exact .assigned names text known
    · next callee args keywords calls =>
      obtain ⟨callee', entries, applies⟩ := ordered (by rw [calls]; rfl)
      obtain ⟨rfl, rfl, rfl⟩ := Expr.call.inj (calls.symm.trans applies.call)
      split at formed
      · next path found dotted merged =>
        obtain ⟨plain, rfl⟩ := (arguments?_eq_some_iff applies.ordered).mp merged
        obtain ⟨shown, built, ⟨⟩⟩ := bind_eq_ok_iff.mp formed
        rw [applies.starts] at built
        exact .applied applies dotted plain (buildArguments_eq_ok_iff.mp built)
      · cases formed
    · obtain ⟨path, dotted, rfl⟩ := Option.map_eq_some_iff.mp (Except.ok.inj formed)
      exact .bare dotted
  · rintro (dotted | ⟨applies, dotted, plain, shows⟩ | ⟨names, text, known⟩)
    · split
      · next names => simp [names, Expr.dottedName?] at dotted
      · next calls => simp [calls, Expr.dottedName?] at dotted
      · rw [dotted]
        rfl
    · have merged := (arguments?_eq_some_iff applies.ordered).mpr ⟨plain, rfl⟩
      have built := buildArguments_eq_ok_iff.mpr shows
      rw [← applies.starts] at built
      simp only [applies.call, dotted, merged, built]
      rfl
    · simp only [names, printed_eq_ok_iff.mpr text, valueOf_eq_ok_iff.mpr known]
      rfl

/-! ### The directive that a text is -/

theorem bracketedPhrase?_eq_ok_iff {source : String} {found : Option Phrase} :
    bracketedPhrase? source = .ok found ↔
      '\x00' ∉ source.toList ∧ phrase? ('(' :: source.toList ++ [')']) = found := by
  unfold bracketedPhrase?
  by_cases null : '\x00' ∈ source.toList <;> simp [null]

/-- What is read as a phrase is a tuple, or it belongs to words that the text begins with. -/
theorem phrase?_words (cs : List Char) : Whenever
    (fun p => ∃ words, Token.scanAll cs = some words ∧ ((∃ es, p.expr = .tuple es) ∨
      ∃ part rest, Passed words part rest ∧ Placed part p ∧ isDone rest = true)) (phrase? cs) := by
  unfold phrase?
  refine (Whenever.trivial _).known.bind ?_
  rintro words ⟨scanned, -⟩
  refine ((readsWords _).expression words).bind ?_
  rintro ⟨first, rest⟩ ⟨part, passed, placed⟩
  refine .ite ((Whenever.trivial _).bind ?_) ?_
  · rintro ⟨more, rest⟩ -
    exact .ite (.some ⟨words, scanned, .inl ⟨_, rfl⟩⟩) .none
  · intro p found
    split at found
    · next done =>
      cases found
      exact ⟨words, scanned, .inr ⟨part, rest, passed, placed, done⟩⟩
    · cases found

/-- The words of a call are among those of the phrase, within the brackets that are not part of the tree. -/
theorem called_of_placed {part : List Lexeme} (placed : Placed part p) (call : isCall p.expr = true) :
    ∃ core, core <:+: part ∧ Called core p := by
  induction placed with
  | own _ _ _ _ called => exact ⟨_, List.infix_rfl, called call⟩
  | bracketed _ _ _ ih =>
    obtain ⟨core, inside, called⟩ := ih call
    exact ⟨core, List.infix_cons (inside.trans (List.prefix_append _ _).isInfix), called⟩

theorem phrase?_called {cs : List Char} (found : phrase? cs = some p) (call : isCall p.expr = true) :
    ∃ words core, Token.scanAll cs = some words ∧ core <:+: words ∧ Called core p := by
  obtain ⟨words, scanned, ⟨es, tuple⟩ | ⟨part, rest, passed, placed, -⟩⟩ := phrase?_words cs p found
  · rw [tuple] at call
    contradiction
  · obtain ⟨core, inside, called⟩ := called_of_placed placed call
    rw [passed.whole] at scanned
    exact ⟨_, core, scanned, inside.trans (List.prefix_append part rest).isInfix, called⟩

theorem phrase?_ordered {cs : List Char} (found : phrase? cs = some p) : Ordered p := by
  intro call
  obtain ⟨-, -, -, -, callee, entries, applies, -⟩ := phrase?_called found call
  exact ⟨callee, entries, applies⟩

/-- A text is a directive exactly when what stands between brackets is a phrase of one of the forms. -/
theorem read_eq_ok_iff {source : String} :
    read source base = .ok (some d) ↔ '\x00' ∉ source.toList ∧
      ∃ p, phrase? ('(' :: source.toList ++ [')']) = some p ∧ Forms base p d := by
  simp only [read, bind_eq_ok_iff, bracketedPhrase?_eq_ok_iff]
  constructor
  · rintro ⟨found, ⟨legible, phrase⟩, formed⟩
    cases found with
    | none => cases formed
    | some p => exact ⟨legible, p, phrase, (ofPhrase_eq_ok_iff (phrase?_ordered phrase)).mp formed⟩
  · rintro ⟨legible, p, phrase, forms⟩
    exact ⟨some p, ⟨legible, phrase⟩, (ofPhrase_eq_ok_iff (phrase?_ordered phrase)).mpr forms⟩

/-- Without stars the arguments are known from the tree and from their places. -/
theorem shows_of_applies {callee : Expr} {path : String} {shown : List Argument} {span : Span}
    (forms : Forms base p (.applied path shown span)) (applies : Applies p callee entries) :
    span = base ∧ (∀ a ∈ entries, a.given.isPlain = true) ∧ List.Forall₂ (Shows base) entries shown := by
  cases forms with
  | applied applies' dotted plain shows =>
    obtain ⟨-, positional, keywords⟩ := Expr.call.inj (applies.call.symm.trans applies'.call)
    have plain' := plain_iff.mp plain
    rw [← positional, ← keywords] at plain'
    have plain' := plain_iff.mpr plain'
    have same := arguments_merged applies.ordered plain'
    rw [positional, keywords, arguments_merged applies'.ordered plain] at same
    have built := buildArguments_eq_ok_iff.mpr shows
    rw [same, ← applies'.starts, applies.starts] at built
    exact ⟨rfl, plain', buildArguments_eq_ok_iff.mp built⟩

/-- The arguments of a directive are those that stand between the brackets of a call, one after the other:
    each with its key if it has one, with its text, and with a value exactly when it is a literal. -/
theorem read_applied {source path : String} {shown : List Argument} {span : Span}
    (accepted : read source base = .ok (some (.applied path shown span))) :
    span = base ∧ ∃ words core entries, Token.scanAll ('(' :: source.toList ++ [')']) = some words ∧
      core <:+: words ∧ CallWords core entries ∧ (∀ a ∈ entries, a.given.isPlain = true) ∧
      List.Forall₂ (Shows base) entries shown := by
  obtain ⟨-, p, phrase, forms⟩ := read_eq_ok_iff.mp accepted
  have call : isCall p.expr = true := by
    cases forms with
    | applied applies => rw [applies.call]; rfl
  obtain ⟨words, core, scanned, inside, callee, entries, applies, stand⟩ := phrase?_called phrase call
  obtain ⟨own, plain, shows⟩ := shows_of_applies forms applies
  exact ⟨own, words, core, entries, scanned, inside, stand, plain, shows⟩

end Directive
end Bindery

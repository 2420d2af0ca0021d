import Bindery.Proofs.SoundWords

/- The trees that the reader gives are sound, whatever it is given: numbers are rounded when they
   are scanned, names come from words, and parameters are sorted when they are read. One step takes
   what the calls with less fuel give; the whole is by induction on the fuel. -/
namespace Bindery

theorem soundEach_iff {es : List Expr} : SoundEach es ↔ ∀ e ∈ es, e.Sound := by
  induction es with
  | nil => simp [SoundEach]
  | cons e es ih => simp [SoundEach, ih]

theorem soundKeywords_append {ks ls : List Keyword} :
    SoundKeywords (ks ++ ls) ↔ SoundKeywords ks ∧ SoundKeywords ls := by
  induction ks with
  | nil => simp [SoundKeywords]
  | cons k ks ih =>
    obtain ⟨name, value⟩ := k
    simp [SoundKeywords, ih, and_assoc]

theorem soundKeywords_reverse {ks : List Keyword} : SoundKeywords ks.reverse ↔ SoundKeywords ks := by
  induction ks with
  | nil => simp
  | cons k ks ih =>
    obtain ⟨name, value⟩ := k
    simp [soundKeywords_append, SoundKeywords, ih, and_comm, and_left_comm]

def Parameter.Sound : Parameter → Prop
  | .mk name default => SoundOption default ∧ Text.NormalName name

theorem soundParameters_iff {ps : List Parameter} : SoundParameters ps ↔ ∀ p ∈ ps, p.Sound := by
  induction ps with
  | nil => simp [SoundParameters]
  | cons p ps ih =>
    obtain ⟨name, default⟩ := p
    simp [SoundParameters, Parameter.Sound, ih, and_assoc]

namespace Reader

/-! ### Parameters -/

def ParameterMark.Sound : ParameterMark → Prop
  | .plain p hasDefault => p.Sound ∧ hasDefault = p.default?.isSome
  | .slash => True
  | .star name => Text.NormalNames name
  | .doubleStar name => Text.NormalName name

/-- Sorted parameters behind others that are sorted already: the defaults are at the end of all that
    are given by position, and of two slashes the second is refused. -/
structure Sorted (slashed : Bool) (done : List Parameter) (ps : Parameters) : Prop where
  last : DefaultsLast (done ++ (ps.positionalOnly ++ ps.positional))
  once : slashed = true → ps.positionalOnly = []
  positionalOnly : SoundParameters ps.positionalOnly
  positional : SoundParameters ps.positional
  keywordOnly : SoundParameters ps.keywordOnly
  rest : Text.NormalNames ps.rest
  extra : Text.NormalNames ps.extra

theorem normalNames_none : Text.NormalNames none := by rintro _ ⟨⟩

theorem normalNames_some {name : String} (named : Text.NormalName name) :
    Text.NormalNames (some name) := by
  rintro _ ⟨⟩
  exact named

theorem sortKeywordOnly_sound (bare : Bool) (marks : List ParameterMark)
    (sound : ∀ m ∈ marks, m.Sound) :
    Whenever (fun r => SoundParameters r.1 ∧ Text.NormalNames r.2) (sortKeywordOnly bare marks) := by
  fun_induction sortKeywordOnly bare marks with
  | case1 => exact .none
  | case2 => exact .some ⟨trivial, normalNames_none⟩
  | case3 bare p hasDefault more ih =>
    obtain ⟨here, rest⟩ := List.forall_mem_cons.mp sound
    exact (ih rest).map fun _ ⟨sounds, extra⟩ => ⟨soundParameters_iff.mpr
      (List.forall_mem_cons.mpr ⟨here.1, soundParameters_iff.mp sounds⟩), extra⟩
  | case4 => exact .none
  | case5 name => exact .some ⟨trivial, normalNames_some (sound _ List.mem_cons_self)⟩
  | case6 => exact .none

theorem defaultsLast_append_singleton {ps : List Parameter} {p : Parameter} (last : DefaultsLast ps)
    (allowed : p.default?.isSome = true ∨ ∀ q ∈ ps, q.default?.isSome = false) :
    DefaultsLast (ps ++ [p]) := by
  refine List.pairwise_append.mpr ⟨last, List.pairwise_singleton _ _, ?_⟩
  intro q member r single present
  obtain rfl := List.mem_singleton.mp single
  rcases allowed with here | none
  · exact here
  · simp [none q member] at present

/-- `done` are the parameters in front of the slash, `before` those behind it, in reverse. -/
theorem sortParameters_sound (slashed defaults : Bool) (before : List Parameter)
    (marks : List ParameterMark) (done : List Parameter) (sound : ∀ m ∈ marks, m.Sound)
    (soundBefore : ∀ p ∈ before, p.Sound)
    (last : DefaultsLast (done ++ before.reverse))
    (flag : defaults = false → ∀ p ∈ done ++ before.reverse, p.default?.isSome = false) :
    Whenever (Sorted slashed done) (sortParameters slashed defaults before marks) := by
  have soundReverse : ∀ {before : List Parameter}, (∀ p ∈ before, p.Sound) →
      SoundParameters before.reverse := fun sound =>
    soundParameters_iff.mpr fun p member => sound p (List.mem_reverse.mp member)
  fun_induction sortParameters slashed defaults before marks generalizing done with
  | case1 slashed defaults before =>
    exact .some ⟨by simpa using last, fun _ => rfl, trivial, soundReverse soundBefore, trivial,
      normalNames_none, normalNames_none⟩
  | case2 => exact .none
  | case3 slashed defaults before p hasDefault more ordered ih =>
    obtain ⟨⟨here, whether⟩, rest⟩ := List.forall_mem_cons.mp sound
    have reversed : done ++ (p :: before).reverse = (done ++ before.reverse) ++ [p] := by simp
    refine ih done rest (List.forall_mem_cons.mpr ⟨here, soundBefore⟩) ?_ ?_
    · rw [reversed]
      refine defaultsLast_append_singleton last ?_
      cases defaults with
      | true =>
        have present : hasDefault = true := by simpa using ordered
        exact .inl (by rw [← whether, present])
      | false => exact .inr (flag rfl)
    · intro none
      rw [reversed]
      obtain ⟨noneBefore, noneHere⟩ := Bool.or_eq_false_iff.mp none
      intro q member
      rcases List.mem_append.mp member with old | new
      · exact flag noneBefore q old
      · obtain rfl := List.mem_singleton.mp new
        rw [← whether, noneHere]
  | case4 => exact .none
  | case5 slashed defaults before more first ih =>
    obtain ⟨-, rest⟩ := List.forall_mem_cons.mp sound
    simp only [Bool.or_eq_true, not_or, Bool.not_eq_true] at first
    refine (ih (done ++ before.reverse) rest (by simp) (by simpa using last)
      (by simpa using flag)).map fun ps sorted => ?_
    have behind := sorted.last
    rw [sorted.once rfl, List.nil_append, List.append_assoc] at behind
    exact ⟨behind, fun twice => by simp [twice] at first, soundReverse soundBefore,
      sorted.positional, sorted.keywordOnly, sorted.rest, sorted.extra⟩
  | case6 slashed defaults before name more =>
    obtain ⟨named, rest⟩ := List.forall_mem_cons.mp sound
    exact (sortKeywordOnly_sound _ _ rest).map fun _ sounds =>
      ⟨by simpa using last, fun _ => rfl, trivial, soundReverse soundBefore, sounds.1, named, sounds.2⟩
  | case7 slashed defaults before name =>
    exact .some ⟨by simpa using last, fun _ => rfl, trivial, soundReverse soundBefore, trivial,
      normalNames_none, normalNames_some (sound _ List.mem_cons_self)⟩
  | case8 => exact .none

/-! ### The grammar -/

def Phrase.Sound (p : Phrase) : Prop := p.expr.Sound

structure ArgumentState.Sound (s : ArgumentState) : Prop where
  positional : SoundEach s.positional.reverse
  keywords : SoundKeywords s.keywords.reverse

def Piece.Sound : Piece → Prop
  | .literal _ => True
  | .field e => e.Sound

/-- Reading sound words gives something good, and leaves sound words. -/
def Keeps {α : Type} (good : α → Prop) (read : List Lexeme → Option (α × List Lexeme)) : Prop :=
  ∀ ts, SoundWords ts → Whenever (fun r => good r.1 ∧ SoundWords r.2) (read ts)

/-- What the reader gives with this much fuel is sound. -/
structure ReadsSound (fuel : Nat) : Prop where
  named : Keeps Phrase.Sound (named fuel)
  expression : Keeps Phrase.Sound (expression fuel)
  parameters : Keeps (fun ms => ∀ m ∈ ms, m.Sound) (parameters fuel)
  parameter : Keeps ParameterMark.Sound (parameter fuel)
  disjunction : Keeps Phrase.Sound (disjunction fuel)
  disjunctionTail : Keeps SoundEach (disjunctionTail fuel)
  conjunction : Keeps Phrase.Sound (conjunction fuel)
  conjunctionTail : Keeps SoundEach (conjunctionTail fuel)
  inversion : Keeps Phrase.Sound (inversion fuel)
  comparisonTail : Keeps SoundComparisons (comparisonTail fuel)
  binary : ∀ levels, Keeps Phrase.Sound (binary fuel levels)
  binaryTail : ∀ ops levels (left : Phrase) start, left.Sound →
    Keeps Phrase.Sound (binaryTail fuel ops levels left start)
  factor : Keeps Phrase.Sound (factor fuel)
  awaited : Keeps Phrase.Sound (awaited fuel)
  primary : Keeps Phrase.Sound (primary fuel)
  trailers : ∀ (base : Phrase) start, base.Sound → Keeps Phrase.Sound (trailers fuel base start)
  arguments : ∀ opening (state : ArgumentState), state.Sound →
    Keeps ArgumentState.Sound (arguments fuel opening state)
  argument : ∀ opening (state : ArgumentState), state.Sound →
    Keeps ArgumentState.Sound (argument fuel opening state)
  slices : Keeps Expr.Sound (slices fuel)
  sliceTail : Keeps SoundEach (sliceTail fuel)
  sliceItem : ∀ ts, SoundWords ts →
    Whenever (fun r => r.1.Sound ∧ SoundWords r.2.2) (sliceItem fuel ts)
  sliceBounds : ∀ lower, SoundOption lower → Keeps Expr.Sound (sliceBounds fuel lower)
  sliceBound : Keeps SoundOption (sliceBound fuel)
  atom : Keeps Phrase.Sound (atom fuel)
  textLiteral : ∀ written, Whenever Expr.Sound (textLiteral fuel written)
  literalPieces : ∀ marked written,
    Whenever (fun ps => ∀ p ∈ ps, p.Sound) (literalPieces fuel marked written)
  segmentPieces : ∀ marked segments, Formatted.SoundSegments segments →
    Whenever (fun ps => ∀ p ∈ ps, p.Sound) (segmentPieces fuel marked segments)
  starExpressions : Keeps Phrase.Sound (starExpressions fuel)
  starExpressionTail : Keeps SoundEach (starExpressionTail fuel)
  starExpression : Keeps Phrase.Sound (starExpression fuel)
  element : Keeps Phrase.Sound (element fuel)
  elementTail : ∀ closing, Keeps SoundEach (elementTail fuel closing)
  parenthesized : ∀ start, Keeps Phrase.Sound (parenthesized fuel start)
  yielded : Keeps Expr.Sound (yielded fuel)
  bracketed : ∀ start, Keeps Phrase.Sound (bracketed fuel start)
  braced : ∀ start, Keeps Phrase.Sound (braced fuel start)
  dictItems : Keeps SoundItems (dictItems fuel)
  dictTail : Keeps SoundItems (dictTail fuel)
  dictItem : Keeps (fun item => SoundItems [item]) (dictItem fuel)
  generators : Keeps SoundGenerators (generators fuel)
  conditions : Keeps SoundEach (conditions fuel)
  targets : Keeps Expr.Sound (targets fuel)
  targetTail : Keeps SoundEach (targetTail fuel)
  target : Keeps Expr.Sound (target fuel)

section
variable {fuel : Nat} (ih : ReadsSound fuel)
include ih

theorem named_step : Keeps Phrase.Sound (named (fuel + 1)) := by
  intro ts words
  rw [named]
  split
  · rename_i target rest found
    obtain ⟨named, words⟩ := words.nameBefore ":=" _ found
    exact (ih.expression rest words).bind fun ⟨value, rest⟩ ⟨sound, words⟩ =>
      .some ⟨⟨sound, named⟩, words⟩
  · exact (ih.expression ts words).bind fun ⟨e, rest⟩ ⟨sound, words⟩ =>
      .ite .none (.some ⟨sound, words⟩)

theorem expression_step : Keeps Phrase.Sound (expression (fuel + 1)) := by
  intro ts words
  rw [expression]
  split
  · rename_i rest found
    refine (ih.parameters rest (words.keyword "lambda" _ found)).bind
      fun ⟨marks, rest⟩ ⟨sounds, words⟩ => ?_
    refine (sortParameters_sound false false [] marks [] sounds (by simp) .nil (by simp)).bind
      fun ps sorted => ?_
    refine (words.mark ":").bind fun rest words => ?_
    exact (ih.expression rest words).bind fun ⟨body, rest⟩ ⟨sound, words⟩ =>
      .some ⟨⟨sorted.last, sorted.positionalOnly, sorted.positional, sorted.keywordOnly, sound,
        sorted.rest, sorted.extra⟩, words⟩
  · refine (ih.disjunction ts words).bind fun ⟨body, rest⟩ ⟨sound, words⟩ => ?_
    dsimp only
    split
    · exact .some ⟨sound, words⟩
    · rename_i rest found
      refine (ih.disjunction rest (words.keyword "if" _ found)).bind
        fun ⟨test, rest⟩ ⟨soundTest, words⟩ => ?_
      refine (words.keyword "else").bind fun rest words => ?_
      exact (ih.expression rest words).bind fun ⟨orelse, rest⟩ ⟨soundElse, words⟩ =>
        .some ⟨⟨soundTest, sound, soundElse⟩, words⟩

theorem parameters_step :
    Keeps (fun ms => ∀ m ∈ ms, ParameterMark.Sound m) (parameters (fuel + 1)) := by
  intro ts words
  rw [parameters]
  refine .ite (.some ⟨by simp, words⟩) ?_
  refine (ih.parameter ts words).bind fun ⟨mark, rest⟩ ⟨sound, words⟩ => ?_
  refine .ite (.some ⟨by simpa using sound, words⟩) ?_
  refine (words.mark ",").bind fun rest words => ?_
  have more : Whenever (fun r => (∀ m ∈ r.1, ParameterMark.Sound m) ∧ SoundWords r.2)
      (parameters fuel rest >>= fun r => pure (mark :: r.1, r.2)) :=
    (ih.parameters rest words).bind fun ⟨marks, rest⟩ ⟨sounds, words⟩ =>
      .some ⟨List.forall_mem_cons.mpr ⟨sound, sounds⟩, words⟩
  dsimp only
  split
  · exact .guarded more
  · exact more

theorem parameter_step : Keeps ParameterMark.Sound (parameter (fuel + 1)) := by
  intro ts words
  rw [parameter]
  split
  · rename_i rest found
    exact .some ⟨trivial, words.mark "/" _ found⟩
  split
  · rename_i rest found
    have words := words.mark "*" _ found
    split
    · rename_i name rest found
      obtain ⟨named, words⟩ := words.name _ found
      exact .some ⟨normalNames_some named, words⟩
    · exact .some ⟨normalNames_none, words⟩
  split
  · rename_i rest found
    exact (words.mark "**" _ found).name.map fun _ ⟨named, words⟩ => ⟨named, words⟩
  · refine words.name.bind fun ⟨name, rest⟩ ⟨named, words⟩ => ?_
    dsimp only
    split
    · exact .some ⟨⟨⟨trivial, named⟩, rfl⟩, words⟩
    · rename_i rest found
      exact (ih.expression rest (words.mark "=" _ found)).bind fun ⟨value, rest⟩ ⟨sound, words⟩ =>
        .some ⟨⟨⟨sound, named⟩, rfl⟩, words⟩

theorem disjunction_step : Keeps Phrase.Sound (disjunction (fuel + 1)) := by
  intro ts words
  rw [disjunction]
  refine (ih.conjunction ts words).bind fun ⟨left, rest⟩ ⟨sound, words⟩ => ?_
  refine .ite ?_ (.some ⟨sound, words⟩)
  exact (ih.disjunctionTail rest words).bind fun ⟨more, rest⟩ ⟨sounds, words⟩ =>
    .some ⟨⟨sound, sounds⟩, words⟩

theorem disjunctionTail_step : Keeps SoundEach (disjunctionTail (fuel + 1)) := by
  intro ts words
  rw [disjunctionTail]
  split
  · exact .some ⟨trivial, words⟩
  · rename_i rest found
    refine (ih.conjunction rest (words.keyword "or" _ found)).bind fun ⟨e, rest⟩ ⟨sound, words⟩ => ?_
    exact (ih.disjunctionTail rest words).bind fun ⟨more, rest⟩ ⟨sounds, words⟩ =>
      .some ⟨⟨sound, sounds⟩, words⟩

theorem conjunction_step : Keeps Phrase.Sound (conjunction (fuel + 1)) := by
  intro ts words
  rw [conjunction]
  refine (ih.inversion ts words).bind fun ⟨left, rest⟩ ⟨sound, words⟩ => ?_
  refine .ite ?_ (.some ⟨sound, words⟩)
  exact (ih.conjunctionTail rest words).bind fun ⟨more, rest⟩ ⟨sounds, words⟩ =>
    .some ⟨⟨sound, sounds⟩, words⟩

theorem conjunctionTail_step : Keeps SoundEach (conjunctionTail (fuel + 1)) := by
  intro ts words
  rw [conjunctionTail]
  split
  · exact .some ⟨trivial, words⟩
  · rename_i rest found
    refine (ih.inversion rest (words.keyword "and" _ found)).bind fun ⟨e, rest⟩ ⟨sound, words⟩ => ?_
    exact (ih.conjunctionTail rest words).bind fun ⟨more, rest⟩ ⟨sounds, words⟩ =>
      .some ⟨⟨sound, sounds⟩, words⟩

theorem inversion_step : Keeps Phrase.Sound (inversion (fuel + 1)) := by
  intro ts words
  rw [inversion]
  split
  · rename_i rest found
    exact (ih.inversion rest (words.keyword "not" _ found)).bind fun ⟨e, rest⟩ ⟨sound, words⟩ =>
      .some ⟨sound, words⟩
  · refine (ih.binary _ ts words).bind fun ⟨left, rest⟩ ⟨sound, words⟩ => ?_
    refine .ite ?_ (.some ⟨sound, words⟩)
    exact (ih.comparisonTail rest words).bind fun ⟨more, rest⟩ ⟨sounds, words⟩ =>
      .some ⟨⟨sound, sounds⟩, words⟩

theorem comparisonTail_step : Keeps SoundComparisons (comparisonTail (fuel + 1)) := by
  intro ts words
  rw [comparisonTail]
  split
  · exact .some ⟨trivial, words⟩
  · rename_i op rest found
    refine (ih.binary _ rest (words.comparison _ found)).bind fun ⟨e, rest⟩ ⟨sound, words⟩ => ?_
    exact (ih.comparisonTail rest words).bind fun ⟨more, rest⟩ ⟨sounds, words⟩ =>
      .some ⟨⟨sound, sounds⟩, words⟩

theorem binary_step (levels : List (List (String × BinaryOp))) :
    Keeps Phrase.Sound (binary (fuel + 1) levels) := by
  intro ts words
  cases levels with
  | nil =>
    rw [binary]
    exact ih.factor ts words
  | cons ops levels =>
    rw [binary]
    exact (ih.binary levels ts words).bind fun ⟨left, rest⟩ ⟨sound, words⟩ =>
      ih.binaryTail ops levels left (place ts) sound rest words

theorem binaryTail_step (ops : List (String × BinaryOp)) (levels : List (List (String × BinaryOp)))
    (left : Phrase) (start : Place) (soundLeft : left.Sound) :
    Keeps Phrase.Sound (binaryTail (fuel + 1) ops levels left start) := by
  intro ts words
  rw [binaryTail]
  split
  · exact .some ⟨soundLeft, words⟩
  · rename_i op rest found
    exact (ih.binary levels rest (words.operator ops _ found)).bind
      fun ⟨right, rest⟩ ⟨sound, words⟩ =>
        ih.binaryTail ops levels { expr := .binary left.expr op right.expr, start } start
          ⟨soundLeft, sound⟩ rest words

theorem factor_step : Keeps Phrase.Sound (factor (fuel + 1)) := by
  intro ts words
  rw [factor]
  split
  · rename_i op rest found
    exact (ih.factor rest (words.sign _ found)).bind fun ⟨e, rest⟩ ⟨sound, words⟩ =>
      .some ⟨sound, words⟩
  · refine (ih.awaited ts words).bind fun ⟨base, rest⟩ ⟨sound, words⟩ => ?_
    dsimp only
    split
    · exact .some ⟨sound, words⟩
    · rename_i rest found
      exact (ih.factor rest (words.mark "**" _ found)).bind
        fun ⟨exponent, rest⟩ ⟨soundExponent, words⟩ => .some ⟨⟨sound, soundExponent⟩, words⟩

theorem awaited_step : Keeps Phrase.Sound (awaited (fuel + 1)) := by
  intro ts words
  rw [awaited]
  split
  · rename_i rest found
    exact (ih.primary rest (words.keyword "await" _ found)).bind
      fun ⟨e, rest⟩ ⟨sound, words⟩ => .some ⟨sound, words⟩
  · exact ih.primary ts words

theorem primary_step : Keeps Phrase.Sound (primary (fuel + 1)) := by
  intro ts words
  rw [primary]
  exact (ih.atom ts words).bind fun ⟨base, rest⟩ ⟨sound, words⟩ =>
    ih.trailers base (place ts) sound rest words

theorem trailers_step (base : Phrase) (start : Place) (soundBase : base.Sound) :
    Keeps Phrase.Sound (trailers (fuel + 1) base start) := by
  intro ts words
  rw [trailers]
  split
  · rename_i rest found
    exact (words.mark "." _ found).name.bind fun ⟨attr, rest⟩ ⟨named, words⟩ =>
      ih.trailers { expr := .attribute base.expr attr, start } start ⟨soundBase, named⟩ rest words
  split
  · rename_i rest found
    refine (ih.arguments (place ts) {} ⟨trivial, trivial⟩ rest (words.mark "(" _ found)).bind
      fun ⟨state, rest⟩ ⟨sound, words⟩ => ?_
    exact (words.mark ")").bind fun rest words =>
      ih.trailers
        { expr := .call base.expr state.positional.reverse state.keywords.reverse, start,
          argumentStarts := state.starts.reverse }
        start ⟨soundBase, sound.positional, sound.keywords⟩ rest words
  split
  · rename_i rest found
    refine (ih.slices rest (words.mark "[" _ found)).bind fun ⟨index, rest⟩ ⟨sound, words⟩ => ?_
    exact (words.mark "]").bind fun rest words =>
      ih.trailers { expr := .subscript base.expr index, start } start ⟨soundBase, sound⟩ rest words
  · exact .some ⟨soundBase, words⟩

theorem arguments_step (opening : Place) (state : ArgumentState) (soundState : state.Sound) :
    Keeps ArgumentState.Sound (arguments (fuel + 1) opening state) := by
  intro ts words
  rw [arguments]
  refine .ite (.some ⟨soundState, words⟩) ?_
  refine (ih.argument opening state soundState ts words).bind fun ⟨next, rest⟩ ⟨sound, words⟩ => ?_
  refine .ite (.some ⟨sound, words⟩) ?_
  exact (words.mark ",").bind fun rest words => ih.arguments opening next sound rest words

omit ih in
theorem ArgumentState.Sound.positional_cons {state : ArgumentState} (sound : state.Sound) {e : Expr}
    (soundHere : e.Sound) : SoundEach (e :: state.positional).reverse := by
  rw [soundEach_iff]
  intro x member
  rcases List.mem_cons.mp (List.mem_reverse.mp member) with rfl | old
  · exact soundHere
  · exact soundEach_iff.mp sound.positional x (List.mem_reverse.mpr old)

omit ih in
theorem ArgumentState.Sound.keywords_cons {state : ArgumentState} (sound : state.Sound)
    {name : Option String} {e : Expr} (soundHere : e.Sound) (named : Text.NormalNames name) :
    SoundKeywords (Keyword.mk name e :: state.keywords).reverse := by
  rw [soundKeywords_reverse]
  exact ⟨soundHere, named, soundKeywords_reverse.mp sound.keywords⟩

theorem argument_step (opening : Place) (state : ArgumentState) (soundState : state.Sound) :
    Keeps ArgumentState.Sound (argument (fuel + 1) opening state) := by
  intro ts words
  rw [argument]
  dsimp only
  split
  · rename_i rest found
    refine .guarded ?_
    exact (ih.expression rest (words.mark "*" _ found)).bind fun ⟨e, rest⟩ ⟨sound, words⟩ =>
      .some ⟨⟨soundState.positional_cons (e := .starred e.expr) sound, soundState.keywords⟩, words⟩
  split
  · rename_i rest found
    exact (ih.expression rest (words.mark "**" _ found)).bind fun ⟨e, rest⟩ ⟨sound, words⟩ =>
      .some ⟨⟨soundState.positional, soundState.keywords_cons sound normalNames_none⟩, words⟩
  split
  · rename_i name rest found
    obtain ⟨named, words⟩ := words.nameBefore "=" _ found
    exact (ih.expression rest words).bind fun ⟨e, rest⟩ ⟨sound, words⟩ =>
      .some ⟨⟨soundState.positional, soundState.keywords_cons sound (normalNames_some named)⟩, words⟩
  · refine .guarded ?_
    refine (ih.named ts words).bind fun ⟨e, rest⟩ ⟨sound, words⟩ => ?_
    refine .ite (.guarded ?_) (.guarded ?_)
    · refine (ih.generators rest words).bind fun ⟨gens, rest⟩ ⟨sounds, words⟩ => ?_
      exact .guarded (.some ⟨⟨⟨⟨sound, sounds⟩, trivial⟩, soundState.keywords⟩, words⟩)
    · exact .some ⟨⟨soundState.positional_cons sound, soundState.keywords⟩, words⟩

theorem slices_step : Keeps Expr.Sound (slices (fuel + 1)) := by
  intro ts words
  rw [slices]
  refine (ih.sliceItem ts words).bind fun ⟨first, starred, rest⟩ ⟨sound, words⟩ => ?_
  refine .ite ?_ (.some ⟨sound, words⟩)
  exact (ih.sliceTail rest words).bind fun ⟨more, rest⟩ ⟨sounds, words⟩ =>
    .some ⟨⟨sound, sounds⟩, words⟩

theorem sliceTail_step : Keeps SoundEach (sliceTail (fuel + 1)) := by
  intro ts words
  rw [sliceTail]
  split
  · exact .some ⟨trivial, words⟩
  · rename_i rest found
    have words := words.mark "," _ found
    refine .ite (.some ⟨trivial, words⟩) ?_
    refine (ih.sliceItem rest words).bind fun ⟨e, _, rest⟩ ⟨sound, words⟩ => ?_
    exact (ih.sliceTail rest words).bind fun ⟨more, rest⟩ ⟨sounds, words⟩ =>
      .some ⟨⟨sound, sounds⟩, words⟩

theorem sliceItem_step (ts : List Lexeme) (words : SoundWords ts) :
    Whenever (fun r => r.1.Sound ∧ SoundWords r.2.2) (sliceItem (fuel + 1) ts) := by
  rw [sliceItem]
  split
  · rename_i rest found
    exact (ih.expression rest (words.mark "*" _ found)).map fun _ ⟨sound, words⟩ => ⟨sound, words⟩
  · refine .ite ?_ ?_
    · exact (ih.sliceBounds none trivial ts words).map fun _ ⟨sound, words⟩ => ⟨sound, words⟩
    · refine (ih.named ts words).bind fun ⟨lower, rest⟩ ⟨sound, words⟩ => ?_
      refine .ite (.guarded ?_) (.some ⟨sound, words⟩)
      exact (ih.sliceBounds (some lower.expr) sound rest words).bind fun ⟨e, rest⟩ ⟨sound, words⟩ =>
        .some ⟨sound, words⟩

theorem sliceBounds_step (lower : Option Expr) (soundLower : SoundOption lower) :
    Keeps Expr.Sound (sliceBounds (fuel + 1) lower) := by
  intro ts words
  rw [sliceBounds]
  refine (words.mark ":").bind fun rest words => ?_
  refine (ih.sliceBound rest words).bind fun ⟨upper, rest⟩ ⟨soundUpper, words⟩ => ?_
  dsimp only
  split
  · exact .some ⟨⟨soundLower, soundUpper, trivial⟩, words⟩
  · rename_i rest found
    exact (ih.sliceBound rest (words.mark ":" _ found)).bind fun ⟨step, rest⟩ ⟨soundStep, words⟩ =>
      .some ⟨⟨soundLower, soundUpper, soundStep⟩, words⟩

theorem sliceBound_step : Keeps SoundOption (sliceBound (fuel + 1)) := by
  intro ts words
  rw [sliceBound]
  refine .ite (.some ⟨trivial, words⟩) ?_
  exact (ih.expression ts words).map fun _ ⟨sound, words⟩ => ⟨sound, words⟩

theorem atom_step : Keeps Phrase.Sound (atom (fuel + 1)) := by
  intro ts words
  unfold atom
  dsimp only
  split
  · exact .some ⟨trivial, words.tail⟩
  · exact .some ⟨trivial, words.tail⟩
  · exact .some ⟨trivial, words.tail⟩
  · exact words.name.map fun _ ⟨named, words⟩ => ⟨named, words⟩
  · exact .some ⟨words _ (List.mem_cons_self ..), words.tail⟩
  · have words := words.literals
    exact (ih.textLiteral _).bind fun e sound => .some ⟨sound, words⟩
  · exact .some ⟨trivial, words.tail⟩
  · exact ih.parenthesized _ _ words.tail
  · exact ih.bracketed _ _ words.tail
  · exact ih.braced _ _ words.tail
  · exact .none

omit ih in
theorem pushLiteral_sound (chars : List Char) {ps : List Piece} (sounds : ∀ p ∈ ps, p.Sound) :
    ∀ p ∈ pushLiteral chars ps, p.Sound := by
  unfold pushLiteral
  split
  · exact List.forall_mem_cons.mpr ⟨trivial, (List.forall_mem_cons.mp sounds).2⟩
  · split
    · exact sounds
    · exact List.forall_mem_cons.mpr ⟨trivial, sounds⟩

omit ih in
theorem mergePieces_sound {ps : List Piece} (sounds : ∀ p ∈ ps, p.Sound) :
    ∀ p ∈ mergePieces ps, p.Sound := by
  fun_induction mergePieces ps with
  | case1 => simp
  | case2 chars rest ih => exact pushLiteral_sound chars (ih (List.forall_mem_cons.mp sounds).2)
  | case3 e rest ih =>
    obtain ⟨here, more⟩ := List.forall_mem_cons.mp sounds
    exact List.forall_mem_cons.mpr ⟨here, ih more⟩

omit ih in
theorem joinPieces_sound (marked : Bool) {ps : List Piece} (sounds : ∀ p ∈ ps, p.Sound) :
    (joinPieces marked ps).Sound := by
  unfold joinPieces
  refine soundEach_iff.mpr fun e member => ?_
  obtain ⟨p, piece, rfl⟩ := List.mem_map.mp member
  have sound := mergePieces_sound sounds p piece
  cases p with
  | literal chars => exact trivial
  | field e => exact sound

theorem textLiteral_step (written : List TextLiteral.Written) :
    Whenever Expr.Sound (textLiteral (fuel + 1) written) := by
  rw [textLiteral]
  dsimp only
  refine .ite (.ite ?_ .none) ?_
  · exact (Whenever.trivial _).map fun _ _ => trivial
  · refine (ih.literalPieces _ written).bind fun pieces sounds => ?_
    exact .ite (.some (joinPieces_sound _ sounds)) (.some trivial)

theorem literalPieces_step (marked : Bool) (written : List TextLiteral.Written) :
    Whenever (fun ps => ∀ p ∈ ps, Piece.Sound p) (literalPieces (fuel + 1) marked written) := by
  cases written with
  | nil =>
    rw [literalPieces]
    · exact .some (by simp)
    · simp
  | cons w ws =>
    have join : ∀ here : List Piece, (∀ p ∈ here, p.Sound) →
        Whenever (fun ps => ∀ p ∈ ps, Piece.Sound p)
          (literalPieces fuel marked ws >>= fun more => pure (here ++ more)) :=
      fun here sounds => (ih.literalPieces marked ws).bind fun more soundMore =>
        .some (List.forall_mem_append.mpr ⟨sounds, soundMore⟩)
    rw [literalPieces]
    refine .ite ?_ ?_
    · exact (Formatted.segments_sound _ _).bind fun segments sounds =>
        (ih.segmentPieces marked segments sounds).bind join
    · exact ((Whenever.trivial _).map fun chars _ => by simp [Piece.Sound]).bind join

theorem segmentPieces_step (marked : Bool) (segments : List Formatted.Segment)
    (soundSegments : Formatted.SoundSegments segments) :
    Whenever (fun ps => ∀ p ∈ ps, Piece.Sound p) (segmentPieces (fuel + 1) marked segments) := by
  cases segments with
  | nil =>
    rw [segmentPieces]
    · exact .some (by simp)
    · simp
  | cons segment more =>
    obtain ⟨soundSegment, soundMore⟩ := soundSegments
    cases segment with
    | literal chars =>
      rw [segmentPieces]
      exact (ih.segmentPieces marked more soundMore).bind fun rest sounds =>
        .some (List.forall_mem_cons.mpr ⟨trivial, sounds⟩)
    | field source shown conversion format =>
      obtain ⟨asked, soundFormat⟩ := soundSegment
      rw [segmentPieces]
      refine (Token.scanAll_sound _).bind fun ts words => ?_
      refine (ih.starExpressions ts words).bind fun ⟨value, rest⟩ ⟨sound, _⟩ => ?_
      have behind : ∀ (spec : Option Expr) (conversion : Option Char), SoundOption spec →
          IsConversion conversion → Whenever (fun ps => ∀ p ∈ ps, Piece.Sound p)
            (segmentPieces fuel marked more >>= fun rest =>
              pure (.literal (shown.getD []) ::
                .field (.formatted value.expr conversion spec) :: rest)) :=
        fun spec conversion soundSpec asked => (ih.segmentPieces marked more soundMore).bind
          fun rest sounds => .some (List.forall_mem_cons.mpr ⟨trivial,
            List.forall_mem_cons.mpr ⟨⟨sound, soundSpec, asked⟩, sounds⟩⟩)
      have defaulted : ∀ plain : Prop, ∀ [Decidable plain],
          IsConversion (if plain then some 'r' else conversion) := by
        intro plain _
        split
        · rintro _ ⟨⟩
          decide
        · exact asked
      dsimp only
      split
      · exact behind none _ trivial (defaulted _)
      · rename_i inner
        have spec : Whenever SoundOption
            ((segmentPieces fuel marked inner).map (some ∘ joinPieces marked)) :=
          (ih.segmentPieces marked inner soundFormat).map fun _ sounds => joinPieces_sound marked sounds
        exact spec.bind fun spec soundSpec => behind spec _ soundSpec (defaulted _)

theorem starExpressions_step : Keeps Phrase.Sound (starExpressions (fuel + 1)) := by
  intro ts words
  rw [starExpressions]
  refine (ih.starExpression ts words).bind fun ⟨first, rest⟩ ⟨sound, words⟩ => ?_
  refine .ite ?_ (.some ⟨sound, words⟩)
  exact (ih.starExpressionTail rest words).bind fun ⟨more, rest⟩ ⟨sounds, words⟩ =>
    .some ⟨⟨sound, sounds⟩, words⟩

theorem starExpressionTail_step : Keeps SoundEach (starExpressionTail (fuel + 1)) := by
  intro ts words
  rw [starExpressionTail]
  split
  · exact .some ⟨trivial, words⟩
  · rename_i rest found
    have words := words.mark "," _ found
    split
    · exact .some ⟨trivial, words⟩
    · rename_i e rest read
      obtain ⟨sound, words⟩ := ih.starExpression _ words _ read
      exact (ih.starExpressionTail rest words).bind fun ⟨more, rest⟩ ⟨sounds, words⟩ =>
        .some ⟨⟨sound, sounds⟩, words⟩

theorem starExpression_step : Keeps Phrase.Sound (starExpression (fuel + 1)) := by
  intro ts words
  rw [starExpression]
  split
  · rename_i rest found
    exact (ih.binary _ rest (words.mark "*" _ found)).bind fun ⟨e, rest⟩ ⟨sound, words⟩ =>
      .some ⟨sound, words⟩
  · exact ih.expression ts words

theorem element_step : Keeps Phrase.Sound (element (fuel + 1)) := by
  intro ts words
  rw [element]
  split
  · rename_i rest found
    exact (ih.binary _ rest (words.mark "*" _ found)).bind fun ⟨e, rest⟩ ⟨sound, words⟩ =>
      .some ⟨sound, words⟩
  · exact ih.named ts words

theorem elementTail_step (closing : String) : Keeps SoundEach (elementTail (fuel + 1) closing) := by
  intro ts words
  rw [elementTail]
  split
  · rename_i rest found
    exact .some ⟨trivial, words.mark closing _ found⟩
  · refine (words.mark ",").bind fun rest words => ?_
    dsimp only
    split
    · rename_i rest found
      exact .some ⟨trivial, words.mark closing _ found⟩
    · refine (ih.element rest words).bind fun ⟨e, rest⟩ ⟨sound, words⟩ => ?_
      exact (ih.elementTail closing rest words).bind fun ⟨more, rest⟩ ⟨sounds, words⟩ =>
        .some ⟨⟨sound, sounds⟩, words⟩

theorem parenthesized_step (start : Place) :
    Keeps Phrase.Sound (parenthesized (fuel + 1) start) := by
  intro ts words
  rw [parenthesized]
  split
  · rename_i rest found
    exact .some ⟨trivial, words.mark ")" _ found⟩
  split
  · rename_i rest found
    refine (ih.yielded rest (words.keyword "yield" _ found)).bind fun ⟨e, rest⟩ ⟨sound, words⟩ => ?_
    exact (words.mark ")").bind fun rest words => .some ⟨sound, words⟩
  · refine (ih.element ts words).bind fun ⟨first, rest⟩ ⟨sound, words⟩ => ?_
    refine .ite ?_ (.guarded (.ite ?_ ?_))
    · exact (ih.elementTail ")" rest words).bind fun ⟨more, rest⟩ ⟨sounds, words⟩ =>
        .some ⟨⟨sound, sounds⟩, words⟩
    · refine (ih.generators rest words).bind fun ⟨gens, rest⟩ ⟨sounds, words⟩ => ?_
      exact (words.mark ")").bind fun rest words => .some ⟨⟨sound, sounds⟩, words⟩
    · exact (words.mark ")").bind fun rest words => .some ⟨sound, words⟩

theorem yielded_step : Keeps Expr.Sound (yielded (fuel + 1)) := by
  intro ts words
  rw [yielded]
  split
  · rename_i rest found
    exact (ih.expression rest (words.keyword "from" _ found)).map fun _ ⟨sound, words⟩ =>
      ⟨sound, words⟩
  · refine .ite (.some ⟨trivial, words⟩) ?_
    exact (ih.starExpressions ts words).map fun _ ⟨sound, words⟩ => ⟨sound, words⟩

theorem bracketed_step (start : Place) : Keeps Phrase.Sound (bracketed (fuel + 1) start) := by
  intro ts words
  rw [bracketed]
  split
  · rename_i rest found
    exact .some ⟨trivial, words.mark "]" _ found⟩
  · refine (ih.element ts words).bind fun ⟨first, rest⟩ ⟨sound, words⟩ => ?_
    refine .ite ?_ ?_
    · refine (ih.generators rest words).bind fun ⟨gens, rest⟩ ⟨sounds, words⟩ => ?_
      exact (words.mark "]").bind fun rest words => .some ⟨⟨sound, sounds⟩, words⟩
    · exact (ih.elementTail "]" rest words).bind fun ⟨more, rest⟩ ⟨sounds, words⟩ =>
        .some ⟨⟨sound, sounds⟩, words⟩

theorem braced_step (start : Place) : Keeps Phrase.Sound (braced (fuel + 1) start) := by
  intro ts words
  rw [braced]
  split
  · rename_i rest found
    exact .some ⟨trivial, words.mark "\x7d" _ found⟩
  · refine .ite ?_ ?_
    · exact (ih.dictItems ts words).bind fun ⟨items, rest⟩ ⟨sounds, words⟩ =>
        .some ⟨sounds, words⟩
    · refine (ih.element ts words).bind fun ⟨first, rest⟩ ⟨sound, words⟩ => ?_
      refine .ite ?_ (.ite ?_ ?_)
      · refine (words.mark ":").bind fun rest words => ?_
        refine (ih.expression rest words).bind fun ⟨value, rest⟩ ⟨soundValue, words⟩ => ?_
        refine .ite ?_ ?_
        · refine (ih.generators rest words).bind fun ⟨gens, rest⟩ ⟨sounds, words⟩ => ?_
          exact (words.mark "\x7d").bind fun rest words =>
            .some ⟨⟨sound, soundValue, sounds⟩, words⟩
        · exact (ih.dictTail rest words).bind fun ⟨items, rest⟩ ⟨sounds, words⟩ =>
            .some ⟨⟨sound, soundValue, sounds⟩, words⟩
      · refine (ih.generators rest words).bind fun ⟨gens, rest⟩ ⟨sounds, words⟩ => ?_
        exact (words.mark "\x7d").bind fun rest words => .some ⟨⟨sound, sounds⟩, words⟩
      · exact (ih.elementTail "\x7d" rest words).bind fun ⟨more, rest⟩ ⟨sounds, words⟩ =>
          .some ⟨⟨sound, sounds⟩, words⟩

omit ih in
theorem soundItems_cons {item : DictItem} {items : List DictItem} (first : SoundItems [item])
    (rest : SoundItems items) : SoundItems (item :: items) := by
  cases item with
  | pair key value => exact ⟨first.1, first.2.1, rest⟩
  | spread value => exact ⟨first.1, rest⟩

theorem dictItems_step : Keeps SoundItems (dictItems (fuel + 1)) := by
  intro ts words
  rw [dictItems]
  refine (ih.dictItem ts words).bind fun ⟨item, rest⟩ ⟨sound, words⟩ => ?_
  exact (ih.dictTail rest words).bind fun ⟨items, rest⟩ ⟨sounds, words⟩ =>
    .some ⟨soundItems_cons sound sounds, words⟩

theorem dictTail_step : Keeps SoundItems (dictTail (fuel + 1)) := by
  intro ts words
  rw [dictTail]
  split
  · rename_i rest found
    exact .some ⟨trivial, words.mark "\x7d" _ found⟩
  · refine (words.mark ",").bind fun rest words => ?_
    split
    · rename_i rest found
      exact .some ⟨trivial, words.mark "\x7d" _ found⟩
    · exact ih.dictItems rest words

theorem dictItem_step : Keeps (fun item => SoundItems [item]) (dictItem (fuel + 1)) := by
  intro ts words
  rw [dictItem]
  split
  · rename_i rest found
    exact (ih.binary _ rest (words.mark "**" _ found)).map fun _ ⟨sound, words⟩ =>
      ⟨⟨sound, trivial⟩, words⟩
  · refine (ih.expression ts words).bind fun ⟨key, rest⟩ ⟨soundKey, words⟩ => ?_
    refine (words.mark ":").bind fun rest words => ?_
    exact (ih.expression rest words).bind fun ⟨value, rest⟩ ⟨soundValue, words⟩ =>
      .some ⟨⟨soundKey, soundValue, trivial⟩, words⟩

theorem generators_step : Keeps SoundGenerators (generators (fuel + 1)) := by
  intro ts words
  rw [generators]
  have behind : SoundWords ((keyword? "async" ts).getD ts) := by
    cases found : keyword? "async" ts with
    | none => exact words
    | some rest => exact words.keyword "async" _ found
  refine (behind.keyword "for").bind fun rest words => ?_
  refine (ih.targets rest words).bind fun ⟨target, rest⟩ ⟨soundTarget, words⟩ => ?_
  refine (words.keyword "in").bind fun rest words => ?_
  refine (ih.disjunction rest words).bind fun ⟨source, rest⟩ ⟨soundSource, words⟩ => ?_
  refine (ih.conditions rest words).bind fun ⟨tests, rest⟩ ⟨soundTests, words⟩ => ?_
  refine .ite ?_ (.some ⟨⟨soundTarget, soundSource, soundTests, trivial⟩, words⟩)
  exact (ih.generators rest words).bind fun ⟨more, rest⟩ ⟨sounds, words⟩ =>
    .some ⟨⟨soundTarget, soundSource, soundTests, sounds⟩, words⟩

theorem conditions_step : Keeps SoundEach (conditions (fuel + 1)) := by
  intro ts words
  rw [conditions]
  split
  · exact .some ⟨trivial, words⟩
  · rename_i rest found
    refine (ih.disjunction rest (words.keyword "if" _ found)).bind fun ⟨e, rest⟩ ⟨sound, words⟩ => ?_
    exact (ih.conditions rest words).bind fun ⟨more, rest⟩ ⟨sounds, words⟩ =>
      .some ⟨⟨sound, sounds⟩, words⟩

theorem targets_step : Keeps Expr.Sound (targets (fuel + 1)) := by
  intro ts words
  rw [targets]
  refine (ih.target ts words).bind fun ⟨first, rest⟩ ⟨sound, words⟩ => ?_
  refine .ite ?_ (.some ⟨sound, words⟩)
  exact (ih.targetTail rest words).bind fun ⟨more, rest⟩ ⟨sounds, words⟩ =>
    .some ⟨⟨sound, sounds⟩, words⟩

theorem targetTail_step : Keeps SoundEach (targetTail (fuel + 1)) := by
  intro ts words
  rw [targetTail]
  split
  · exact .some ⟨trivial, words⟩
  · rename_i rest found
    have words := words.mark "," _ found
    refine .ite (.some ⟨trivial, words⟩) ?_
    refine (ih.target rest words).bind fun ⟨e, rest⟩ ⟨sound, words⟩ => ?_
    exact (ih.targetTail rest words).bind fun ⟨more, rest⟩ ⟨sounds, words⟩ =>
      .some ⟨⟨sound, sounds⟩, words⟩

theorem target_step : Keeps Expr.Sound (target (fuel + 1)) := by
  intro ts words
  rw [target]
  have behind : ∀ (isStarred : Bool) rest, SoundWords rest →
      Whenever (fun r => Expr.Sound r.1 ∧ SoundWords r.2) (primary fuel rest >>= fun r =>
        if !isTarget r.1.expr then none
        else some (if isStarred then .starred r.1.expr else r.1.expr, r.2)) :=
    fun isStarred rest words => (ih.primary rest words).bind fun ⟨e, rest⟩ ⟨sound, words⟩ =>
      .ite .none (.some ⟨by cases isStarred <;> exact sound, words⟩)
  cases found : mark? "*" ts with
  | none => exact behind false ts words
  | some rest => exact behind true rest (words.mark "*" _ found)

end

/-- Without fuel nothing is read. -/
theorem readsSound_zero : ReadsSound 0 := by
  constructor <;> intros <;> first | exact Whenever.none | exact fun _ _ => Whenever.none

/-- By induction on the fuel, each function from those that it calls with one unit less. -/
theorem readsSound (fuel : Nat) : ReadsSound fuel := by
  induction fuel with
  | zero => exact readsSound_zero
  | succ fuel ih =>
    exact {
      named := named_step ih
      expression := expression_step ih
      parameters := parameters_step ih
      parameter := parameter_step ih
      disjunction := disjunction_step ih
      disjunctionTail := disjunctionTail_step ih
      conjunction := conjunction_step ih
      conjunctionTail := conjunctionTail_step ih
      inversion := inversion_step ih
      comparisonTail := comparisonTail_step ih
      binary := binary_step ih
      binaryTail := binaryTail_step ih
      factor := factor_step ih
      awaited := awaited_step ih
      primary := primary_step ih
      trailers := trailers_step ih
      arguments := arguments_step ih
      argument := argument_step ih
      slices := slices_step ih
      sliceTail := sliceTail_step ih
      sliceItem := sliceItem_step ih
      sliceBounds := sliceBounds_step ih
      sliceBound := sliceBound_step ih
      atom := atom_step ih
      textLiteral := textLiteral_step ih
      literalPieces := literalPieces_step ih
      segmentPieces := segmentPieces_step ih
      starExpressions := starExpressions_step ih
      starExpressionTail := starExpressionTail_step ih
      starExpression := starExpression_step ih
      element := element_step ih
      elementTail := elementTail_step ih
      parenthesized := parenthesized_step ih
      yielded := yielded_step ih
      bracketed := bracketed_step ih
      braced := braced_step ih
      dictItems := dictItems_step ih
      dictTail := dictTail_step ih
      dictItem := dictItem_step ih
      generators := generators_step ih
      conditions := conditions_step ih
      targets := targets_step ih
      targetTail := targetTail_step ih
      target := target_step ih }

theorem expressionTail_sound (fuel : Nat) : Keeps SoundEach (expressionTail fuel) := by
  induction fuel with
  | zero => exact fun _ _ => .none
  | succ fuel ih =>
    intro ts words
    rw [expressionTail]
    split
    · exact .some ⟨trivial, words⟩
    · rename_i rest found
      have words := words.mark "," _ found
      refine .ite (.some ⟨trivial, words⟩) ?_
      refine ((readsSound fuel).expression rest words).bind fun ⟨e, rest⟩ ⟨sound, words⟩ => ?_
      exact (ih rest words).bind fun ⟨more, rest⟩ ⟨sounds, words⟩ => .some ⟨⟨sound, sounds⟩, words⟩

/-- Every phrase that is read has a sound tree. -/
theorem phrase?_sound (cs : List Char) : Whenever Phrase.Sound (phrase? cs) := by
  unfold phrase?
  refine (Token.scanAll_sound cs).bind fun ts words => ?_
  refine ((readsSound _).expression ts words).bind fun ⟨first, rest⟩ ⟨sound, words⟩ => ?_
  refine .ite ?_ (.ite (.some sound) .none)
  exact (expressionTail_sound _ rest words).bind fun ⟨more, rest⟩ ⟨sounds, _⟩ =>
    .ite (.some ⟨sound, sounds⟩) .none

end Reader
end Bindery

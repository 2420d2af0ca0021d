import Bindery.Proofs.FieldSources
import Bindery.Proofs.Operands
import Bindery.Proofs.ReadWords
import Bindery.Proofs.WordsElsewhere

/- What is read of words inside brackets is decided there: neither what follows the brackets nor where the
   words stand changes the tree, and with more steps it is read too. -/
namespace Bindery.Reader

variable {α β : Type} {old new ts us : List Lexeme} {n extra fuel : Nat}

/-! ### Readings in two places -/

/-- What is read in the first place is read in the second one too. -/
def Meets (P : α → α → Prop) (x x' : Option α) : Prop :=
  Whenever (fun a => ∃ a', x' = some a' ∧ P a a') x

theorem Agree.meets {P : α → α → Prop} {x x' : Option α} (agree : Agree P x x') : Meets P x x' := by
  obtain ⟨rfl, rfl⟩ | ⟨a, a', rfl, rfl, good⟩ := agree
  · exact .none
  · exact .some ⟨a', rfl, good⟩

namespace Meets

variable {P : α → α → Prop} {Q : β → β → Prop} {x x' : Option α}

theorem none : Meets P none x' := Whenever.none

theorem some {a a' : α} (good : P a a') : Meets P (some a) (some a') := Whenever.some ⟨a', rfl, good⟩

theorem bind {f f' : α → Option β} (first : Meets P x x')
    (rest : ∀ a a', P a a' → Meets Q (f a) (f' a')) : Meets Q (x >>= f) (x' >>= f') := by
  refine Whenever.bind first ?_
  rintro a ⟨a', rfl, good⟩
  exact rest a a' good

theorem map {f f' : α → β} (first : Meets P x x') (rest : ∀ a a', P a a' → Q (f a) (f' a')) :
    Meets Q (x.map f) (x'.map f') := by
  refine Whenever.map first ?_
  rintro a ⟨a', rfl, good⟩
  exact ⟨_, rfl, rest a a' good⟩

theorem ite {c : Prop} [Decidable c] {y y' : Option α} (yes : Meets P x x') (no : Meets P y y') :
    Meets P (if c then x else y) (if c then x' else y') := by
  split
  · exact yes
  · exact no

theorem guarded {c : Prop} [Decidable c] {f f' : β → Option α} (other : Meets P x x') :
    Meets P (if c then (Option.none >>= f) else x) (if c then (Option.none >>= f') else x') :=
  ite none other

end Meets

abbrev SameTree (p p' : Phrase) : Prop := p.expr = p'.expr

/-- The same arguments, wherever they stand. -/
structure ArgumentState.Alike (state state' : ArgumentState) : Prop where
  positional : state.positional = state'.positional
  keywords : state.keywords = state'.keywords
  starts : state.starts.length = state'.starts.length
  sawKeyword : state.sawKeyword = state'.sawKeyword
  sawDoubleStar : state.sawDoubleStar = state'.sawDoubleStar

/-- With more steps the function reads the same in the second place. -/
def Steady (alike : α → α → Prop) (extra fuel : Nat)
    (read : Nat → List Lexeme → Option (α × List Lexeme)) : Prop :=
  ∀ {old new n ts us}, Inside old new n → Within old new n ts us →
    Meets (Both old new n alike) (read fuel ts) (read (extra + fuel) us)

/-- The same for a function that reads up to the end of a pair of brackets, and that end too. -/
def SteadyToEnd (alike : α → α → Prop) (extra fuel : Nat)
    (read : Nat → List Lexeme → Option (α × List Lexeme)) : Prop :=
  ∀ {old new n ts us}, Within old new (n + 1) ts us →
    Meets (Both old new n alike) (read fuel ts) (read (extra + fuel) us)

/-- The same for a function that is given up unless the brackets end behind what it reads. -/
def SteadyBeforeEnd (alike : α → α → Prop) (extra fuel : Nat)
    (read : Nat → List Lexeme → Option (α × List Lexeme)) : Prop :=
  ∀ {old new n ts us}, Within old new (n + 1) ts us →
    Whenever (fun r => atMark ")" r.2 = true → ∃ r', read (extra + fuel) us = some r' ∧
      Both old new (n + 1) alike r r') (read fuel ts)

/-- What is read with this much fuel is read of the same words elsewhere. -/
structure ReadsElsewhere (extra fuel : Nat) : Prop where
  named : Steady SameTree extra fuel named
  expression : Steady SameTree extra fuel expression
  parameters : Steady Eq extra fuel parameters
  parameter : Steady Eq extra fuel parameter
  disjunction : Steady SameTree extra fuel disjunction
  disjunctionTail : Steady Eq extra fuel disjunctionTail
  conjunction : Steady SameTree extra fuel conjunction
  conjunctionTail : Steady Eq extra fuel conjunctionTail
  inversion : Steady SameTree extra fuel inversion
  comparisonTail : Steady Eq extra fuel comparisonTail
  binary : ∀ levels, (∀ ops ∈ levels, Plain ops) →
    Steady SameTree extra fuel fun fuel => binary fuel levels
  binaryTail : ∀ ops levels, Plain ops → (∀ ops ∈ levels, Plain ops) → ∀ {left left'},
    SameTree left left' → ∀ start start' {old new n ts us}, Inside old new n → Within old new n ts us →
      Meets (Both old new n SameTree) (binaryTail fuel ops levels left start ts)
        (binaryTail (extra + fuel) ops levels left' start' us)
  factor : Steady SameTree extra fuel factor
  awaited : Steady SameTree extra fuel awaited
  primary : ∀ {old new n ts us}, Calm old new n → Within old new n ts us →
    Meets (Both old new n SameTree) (primary fuel ts) (primary (extra + fuel) us)
  trailers : ∀ {base base'}, SameTree base base' → ∀ start start' {old new n ts us}, Calm old new n →
    Within old new n ts us → Meets (Both old new n SameTree) (trailers fuel base start ts)
      (trailers (extra + fuel) base' start' us)
  arguments : ∀ opening opening' {state state'}, ArgumentState.Alike state state' →
    ∀ {old new n ts us}, Within old new (n + 1) ts us →
      Meets (Both old new (n + 1) ArgumentState.Alike) (arguments fuel opening state ts)
        (arguments (extra + fuel) opening' state' us)
  argument : ∀ opening opening' {state state'}, ArgumentState.Alike state state' →
    ∀ {old new n ts us}, Within old new (n + 1) ts us →
      Meets (Both old new (n + 1) ArgumentState.Alike) (argument fuel opening state ts)
        (argument (extra + fuel) opening' state' us)
  slices : Steady Eq extra fuel slices
  sliceTail : Steady Eq extra fuel sliceTail
  sliceItem : ∀ {old new n ts us}, Inside old new n → Within old new n ts us →
    Meets (fun r r' => r.1 = r'.1 ∧ Both old new n Eq r.2 r'.2) (sliceItem fuel ts)
      (sliceItem (extra + fuel) us)
  sliceBounds : ∀ lower, Steady Eq extra fuel fun fuel => sliceBounds fuel lower
  sliceBound : Steady Eq extra fuel sliceBound
  atom : ∀ {old new n ts us}, Calm old new n → Within old new n ts us →
    Meets (Both old new n SameTree) (atom fuel ts) (atom (extra + fuel) us)
  textLiteral : ∀ written, Meets Eq (textLiteral fuel written) (textLiteral (extra + fuel) written)
  literalPieces : ∀ marked written,
    Meets Eq (literalPieces fuel marked written) (literalPieces (extra + fuel) marked written)
  segmentPieces : ∀ marked segments, Formatted.EnclosedSegments segments →
    Meets Eq (segmentPieces fuel marked segments) (segmentPieces (extra + fuel) marked segments)
  starExpressions : SteadyBeforeEnd SameTree extra fuel starExpressions
  starExpressionTail : SteadyBeforeEnd Eq extra fuel starExpressionTail
  starExpressionsAlone : ∀ {o c inner}, o.token = .mark "(" → c.token = .mark ")" → Balanced inner →
    Meets (fun r r' => SameTree r.1 r'.1) (Reader.starExpressions fuel (o :: (inner ++ [c])))
      (Reader.starExpressions (extra + fuel) (o :: (inner ++ [c])))
  starExpression : Steady SameTree extra fuel starExpression
  element : Steady SameTree extra fuel element
  elementTail : ∀ closing, [")", "]", "\x7d"].contains closing = true →
    SteadyToEnd Eq extra fuel fun fuel => elementTail fuel closing
  parenthesized : ∀ start start' {old new n ts us}, Within old new (n + 1) ts us →
    Meets (Both old new n SameTree) (parenthesized fuel start ts) (parenthesized (extra + fuel) start' us)
  yielded : SteadyBeforeEnd Eq extra fuel yielded
  bracketed : ∀ start start' {old new n ts us}, Within old new (n + 1) ts us →
    Meets (Both old new n SameTree) (bracketed fuel start ts) (bracketed (extra + fuel) start' us)
  braced : ∀ start start' {old new n ts us}, Within old new (n + 1) ts us →
    Meets (Both old new n SameTree) (braced fuel start ts) (braced (extra + fuel) start' us)
  dictItems : SteadyToEnd Eq extra fuel dictItems
  dictTail : SteadyToEnd Eq extra fuel dictTail
  dictItem : Steady Eq extra fuel dictItem
  generators : Steady Eq extra fuel generators
  conditions : Steady Eq extra fuel conditions
  targets : Steady Eq extra fuel targets
  targetTail : Steady Eq extra fuel targetTail
  target : Steady Eq extra fuel target

/-- Where the brackets end no expression begins. -/
theorem starExpression_eq_none {fuel : Nat} (ends : atMark ")" ts = true) : starExpression fuel ts = none := by
  obtain ⟨rest, found⟩ := Option.isSome_iff_exists.mp ends
  obtain ⟨⟨token, p⟩, is, rfl⟩ := mark?_found ")" ts rest found
  cases is
  cases fuel with
  | zero => rfl
  | succ fuel => exact expression_eq_none (fun n => by cases n <;> rfl) rfl rfl rfl rfl fuel

/-- Words in one pair of brackets are read to their end. -/
theorem starExpression_finished {o c : Lexeme} {inner : List Lexeme} (opens : o.token = .mark "(")
    (balanced : Balanced inner) (fuel : Nat) :
    Whenever (fun r => r.2 = []) (starExpression fuel (o :: (inner ++ [c]))) := by
  cases fuel with
  | zero => exact .none
  | succ fuel =>
    obtain ⟨token, p⟩ := o
    cases opens
    rintro ⟨e, rest⟩ read
    obtain ⟨part, passed, placed⟩ := (readsWords fuel).expression _ (e, rest) read
    by_contra more
    exact passed.balanced.not_group placed.filled more balanced rfl passed.whole.symm

section
variable (ih : ReadsElsewhere extra fuel)
include ih

theorem named_steady : Steady SameTree extra (fuel + 1) named := by
  intro old new n ts us inside within
  rw [named, ← Nat.add_assoc, named]
  obtain ⟨absent, absent'⟩ | ⟨⟨target, rest⟩, ⟨_, rest'⟩, found, found', rfl, within⟩ :=
    within.nameBefore inside ":=" rfl
  · rw [absent, absent']
    refine (ih.expression inside within).bind ?_
    rintro ⟨e, rest⟩ ⟨e', rest'⟩ ⟨same, within⟩
    dsimp only
    rw [within.atMark inside]
    exact .ite .none (.some ⟨same, within⟩)
  · rw [found, found']
    refine (ih.expression inside within).bind ?_
    rintro ⟨e, rest⟩ ⟨e', rest'⟩ ⟨same, within⟩
    exact .some ⟨by rw [same], within⟩

theorem expression_steady : Steady SameTree extra (fuel + 1) expression := by
  intro old new n ts us inside within
  rw [expression, ← Nat.add_assoc, expression]
  obtain ⟨absent, absent'⟩ | ⟨rest, rest', found, found', within⟩ := within.keyword inside "lambda"
  · rw [absent, absent']
    refine (ih.disjunction inside within).bind ?_
    rintro ⟨body, rest⟩ ⟨body', rest'⟩ ⟨same, within⟩
    dsimp only
    obtain ⟨absent, absent'⟩ | ⟨rest, rest', found, found', within⟩ := within.keyword inside "if"
    · rw [absent, absent']
      exact .some ⟨same, within⟩
    · rw [found, found']
      refine (ih.disjunction inside within).bind ?_
      rintro ⟨test, rest⟩ ⟨test', rest'⟩ ⟨sameTest, within⟩
      refine (within.keyword inside "else").meets.bind ?_
      rintro rest rest' within
      refine (ih.expression inside within).bind ?_
      rintro ⟨orelse, rest⟩ ⟨orelse', rest'⟩ ⟨sameElse, within⟩
      exact .some ⟨by rw [same, sameTest, sameElse], within⟩
  · rw [found, found']
    refine (ih.parameters inside within).bind ?_
    rintro ⟨marks, rest⟩ ⟨_, rest'⟩ ⟨rfl, within⟩
    dsimp only
    cases sortParameters false false [] marks with
    | none => exact .none
    | some ps =>
      refine (within.mark inside ":" rfl).meets.bind ?_
      rintro rest rest' within
      refine (ih.expression inside within).bind ?_
      rintro ⟨body, rest⟩ ⟨body', rest'⟩ ⟨same, within⟩
      exact .some ⟨by rw [same], within⟩

theorem parameters_steady : Steady Eq extra (fuel + 1) parameters := by
  intro old new n ts us inside within
  rw [parameters, ← Nat.add_assoc, parameters, within.atMark inside]
  refine .ite (.some ⟨rfl, within⟩) ?_
  refine (ih.parameter inside within).bind ?_
  rintro ⟨mark, rest⟩ ⟨_, rest'⟩ ⟨rfl, within⟩
  dsimp only
  rw [within.atMark inside]
  refine .ite (.some ⟨rfl, within⟩) ?_
  refine (within.mark inside "," rfl).meets.bind ?_
  rintro rest rest' within
  have further : Meets (Both old new n Eq) (parameters fuel rest >>= fun r => pure (mark :: r.1, r.2))
      (parameters (extra + fuel) rest' >>= fun r => pure (mark :: r.1, r.2)) := by
    refine (ih.parameters inside within).bind ?_
    rintro ⟨marks, rest⟩ ⟨_, rest'⟩ ⟨rfl, within⟩
    exact .some ⟨rfl, within⟩
  rw [within.atMark inside]
  split
  · exact .guarded further
  · exact further

theorem parameter_steady : Steady Eq extra (fuel + 1) parameter := by
  intro old new n ts us inside within
  rw [parameter, ← Nat.add_assoc, parameter]
  obtain ⟨absent, absent'⟩ | ⟨rest, rest', found, found', within⟩ := within.mark inside "/" rfl
  swap
  · rw [found, found']
    exact .some ⟨rfl, within⟩
  rw [absent, absent']
  dsimp only
  obtain ⟨absent, absent'⟩ | ⟨rest, rest', found, found', within⟩ := within.mark inside "*" rfl
  swap
  · rw [found, found']
    dsimp only
    obtain ⟨absent, absent'⟩ | ⟨⟨x, rest⟩, ⟨_, rest'⟩, found, found', rfl, within⟩ := within.name inside
    · rw [absent, absent']
      exact .some ⟨rfl, within⟩
    · rw [found, found']
      exact .some ⟨rfl, within⟩
  rw [absent, absent']
  dsimp only
  obtain ⟨absent, absent'⟩ | ⟨rest, rest', found, found', within⟩ := within.mark inside "**" rfl
  · rw [absent, absent']
    refine (within.name inside).meets.bind ?_
    rintro ⟨x, rest⟩ ⟨_, rest'⟩ ⟨rfl, within⟩
    dsimp only
    obtain ⟨absent, absent'⟩ | ⟨rest, rest', found, found', within⟩ := within.mark inside "=" rfl
    · rw [absent, absent']
      exact .some ⟨rfl, within⟩
    · rw [found, found']
      refine (ih.expression inside within).bind ?_
      rintro ⟨value, rest⟩ ⟨value', rest'⟩ ⟨same, within⟩
      exact .some ⟨by rw [same], within⟩
  · rw [found, found']
    refine (within.name inside).meets.map ?_
    rintro ⟨x, rest⟩ ⟨_, rest'⟩ ⟨rfl, within⟩
    exact ⟨rfl, within⟩

theorem disjunction_steady : Steady SameTree extra (fuel + 1) disjunction := by
  intro old new n ts us inside within
  rw [disjunction, ← Nat.add_assoc, disjunction]
  refine (ih.conjunction inside within).bind ?_
  rintro ⟨left, rest⟩ ⟨left', rest'⟩ ⟨same, within⟩
  dsimp only
  rw [within.atKeyword inside]
  refine .ite ?_ (.some ⟨same, within⟩)
  refine (ih.disjunctionTail inside within).bind ?_
  rintro ⟨more, rest⟩ ⟨_, rest'⟩ ⟨rfl, within⟩
  exact .some ⟨by rw [same], within⟩

theorem disjunctionTail_steady : Steady Eq extra (fuel + 1) disjunctionTail := by
  intro old new n ts us inside within
  rw [disjunctionTail, ← Nat.add_assoc, disjunctionTail]
  obtain ⟨absent, absent'⟩ | ⟨rest, rest', found, found', within⟩ := within.keyword inside "or"
  · rw [absent, absent']
    exact .some ⟨rfl, within⟩
  · rw [found, found']
    refine (ih.conjunction inside within).bind ?_
    rintro ⟨e, rest⟩ ⟨e', rest'⟩ ⟨same, within⟩
    refine (ih.disjunctionTail inside within).bind ?_
    rintro ⟨more, rest⟩ ⟨_, rest'⟩ ⟨rfl, within⟩
    exact .some ⟨by rw [same], within⟩

theorem conjunction_steady : Steady SameTree extra (fuel + 1) conjunction := by
  intro old new n ts us inside within
  rw [conjunction, ← Nat.add_assoc, conjunction]
  refine (ih.inversion inside within).bind ?_
  rintro ⟨left, rest⟩ ⟨left', rest'⟩ ⟨same, within⟩
  dsimp only
  rw [within.atKeyword inside]
  refine .ite ?_ (.some ⟨same, within⟩)
  refine (ih.conjunctionTail inside within).bind ?_
  rintro ⟨more, rest⟩ ⟨_, rest'⟩ ⟨rfl, within⟩
  exact .some ⟨by rw [same], within⟩

theorem conjunctionTail_steady : Steady Eq extra (fuel + 1) conjunctionTail := by
  intro old new n ts us inside within
  rw [conjunctionTail, ← Nat.add_assoc, conjunctionTail]
  obtain ⟨absent, absent'⟩ | ⟨rest, rest', found, found', within⟩ := within.keyword inside "and"
  · rw [absent, absent']
    exact .some ⟨rfl, within⟩
  · rw [found, found']
    refine (ih.inversion inside within).bind ?_
    rintro ⟨e, rest⟩ ⟨e', rest'⟩ ⟨same, within⟩
    refine (ih.conjunctionTail inside within).bind ?_
    rintro ⟨more, rest⟩ ⟨_, rest'⟩ ⟨rfl, within⟩
    exact .some ⟨by rw [same], within⟩

theorem inversion_steady : Steady SameTree extra (fuel + 1) inversion := by
  intro old new n ts us inside within
  rw [inversion, ← Nat.add_assoc, inversion]
  obtain ⟨absent, absent'⟩ | ⟨rest, rest', found, found', within⟩ := within.keyword inside "not"
  · rw [absent, absent']
    refine (ih.binary _ binaryLevels_plain inside within).bind ?_
    rintro ⟨left, rest⟩ ⟨left', rest'⟩ ⟨same, within⟩
    dsimp only
    rw [← (within.comparison inside).isSome_eq]
    refine .ite ?_ (.some ⟨same, within⟩)
    refine (ih.comparisonTail inside within).bind ?_
    rintro ⟨more, rest⟩ ⟨_, rest'⟩ ⟨rfl, within⟩
    exact .some ⟨by rw [same], within⟩
  · rw [found, found']
    refine (ih.inversion inside within).bind ?_
    rintro ⟨e, rest⟩ ⟨e', rest'⟩ ⟨same, within⟩
    exact .some ⟨by rw [same], within⟩

theorem comparisonTail_steady : Steady Eq extra (fuel + 1) comparisonTail := by
  intro old new n ts us inside within
  rw [comparisonTail, ← Nat.add_assoc, comparisonTail]
  obtain ⟨absent, absent'⟩ | ⟨⟨op, rest⟩, ⟨_, rest'⟩, found, found', rfl, within⟩ :=
    within.comparison inside
  · rw [absent, absent']
    exact .some ⟨rfl, within⟩
  · rw [found, found']
    refine (ih.binary _ binaryLevels_plain inside within).bind ?_
    rintro ⟨e, rest⟩ ⟨e', rest'⟩ ⟨same, within⟩
    refine (ih.comparisonTail inside within).bind ?_
    rintro ⟨more, rest⟩ ⟨_, rest'⟩ ⟨rfl, within⟩
    exact .some ⟨by rw [same], within⟩

theorem binary_steady (levels : List (List (String × BinaryOp))) (plain : ∀ ops ∈ levels, Plain ops) :
    Steady SameTree extra (fuel + 1) fun fuel => binary fuel levels := by
  intro old new n ts us inside within
  dsimp only
  rw [← Nat.add_assoc]
  cases levels with
  | nil =>
    rw [binary, binary]
    exact ih.factor inside within
  | cons ops levels =>
    obtain ⟨here, plain⟩ := List.forall_mem_cons.mp plain
    rw [binary, binary]
    refine (ih.binary levels plain inside within).bind ?_
    rintro ⟨left, rest⟩ ⟨left', rest'⟩ ⟨same, within⟩
    exact ih.binaryTail ops levels here plain same _ _ inside within

theorem binaryTail_steady (ops : List (String × BinaryOp)) (levels : List (List (String × BinaryOp)))
    (here : Plain ops) (plain : ∀ ops ∈ levels, Plain ops) {left left' : Phrase}
    (same : SameTree left left') (start start' : Place) (inside : Inside old new n)
    (within : Within old new n ts us) : Meets (Both old new n SameTree)
      (binaryTail (fuel + 1) ops levels left start ts)
      (binaryTail (extra + (fuel + 1)) ops levels left' start' us) := by
  rw [binaryTail, ← Nat.add_assoc, binaryTail]
  obtain ⟨absent, absent'⟩ | ⟨⟨op, rest⟩, ⟨_, rest'⟩, found, found', rfl, within⟩ :=
    within.operator inside here
  · rw [absent, absent']
    exact .some ⟨same, within⟩
  · rw [found, found']
    refine (ih.binary levels plain inside within).bind ?_
    rintro ⟨right, rest⟩ ⟨right', rest'⟩ ⟨sameRight, within⟩
    exact ih.binaryTail ops levels here plain (by rw [same, sameRight]) _ _ inside within

theorem factor_steady : Steady SameTree extra (fuel + 1) factor := by
  intro old new n ts us inside within
  rw [factor, ← Nat.add_assoc, factor]
  obtain ⟨absent, absent'⟩ | ⟨⟨op, rest⟩, ⟨_, rest'⟩, found, found', rfl, within⟩ := within.sign inside
  · rw [absent, absent']
    refine (ih.awaited inside within).bind ?_
    rintro ⟨base, rest⟩ ⟨base', rest'⟩ ⟨same, within⟩
    dsimp only
    obtain ⟨absent, absent'⟩ | ⟨rest, rest', found, found', within⟩ := within.mark inside "**" rfl
    · rw [absent, absent']
      exact .some ⟨same, within⟩
    · rw [found, found']
      refine (ih.factor inside within).bind ?_
      rintro ⟨exponent, rest⟩ ⟨exponent', rest'⟩ ⟨sameExponent, within⟩
      exact .some ⟨by rw [same, sameExponent], within⟩
  · rw [found, found']
    refine (ih.factor inside within).bind ?_
    rintro ⟨e, rest⟩ ⟨e', rest'⟩ ⟨same, within⟩
    exact .some ⟨by rw [same], within⟩

theorem awaited_steady : Steady SameTree extra (fuel + 1) awaited := by
  intro old new n ts us inside within
  rw [awaited, ← Nat.add_assoc, awaited]
  obtain ⟨absent, absent'⟩ | ⟨rest, rest', found, found', within⟩ := within.keyword inside "await"
  · rw [absent, absent']
    exact ih.primary inside.calm within
  · rw [found, found']
    refine (ih.primary inside.calm within).bind ?_
    rintro ⟨e, rest⟩ ⟨e', rest'⟩ ⟨same, within⟩
    exact .some ⟨by rw [same], within⟩

theorem primary_steady (calm : Calm old new n) (within : Within old new n ts us) :
    Meets (Both old new n SameTree) (primary (fuel + 1) ts) (primary (extra + (fuel + 1)) us) := by
  rw [primary, ← Nat.add_assoc, primary]
  refine (ih.atom calm within).bind ?_
  rintro ⟨base, rest⟩ ⟨base', rest'⟩ ⟨same, within⟩
  exact ih.trailers same _ _ calm within

theorem trailers_steady {base base' : Phrase} (same : SameTree base base') (start start' : Place)
    (calm : Calm old new n) (within : Within old new n ts us) : Meets (Both old new n SameTree)
      (trailers (fuel + 1) base start ts) (trailers (extra + (fuel + 1)) base' start' us) := by
  rw [trailers, ← Nat.add_assoc, trailers]
  obtain ⟨absent, absent'⟩ | ⟨rest, rest', found, found', deeper⟩ :=
    within.trailer calm (k := n) "." rfl fun _ => rfl
  swap
  · rw [found, found']
    refine (deeper.trailingName calm).meets.bind ?_
    rintro ⟨attr, rest⟩ ⟨_, rest'⟩ ⟨rfl, within⟩
    exact ih.trailers (by rw [same]) _ _ calm within
  rw [absent, absent']
  dsimp only
  obtain ⟨absent, absent'⟩ | ⟨rest, rest', found, found', deeper⟩ :=
    within.trailer calm (k := n + 1) "(" rfl fun _ => rfl
  swap
  · rw [found, found']
    refine (ih.arguments _ _ ⟨rfl, rfl, rfl, rfl, rfl⟩ deeper).bind ?_
    rintro ⟨state, rest⟩ ⟨state', rest'⟩ ⟨given, deeper⟩
    refine (deeper.closing ")" rfl).meets.bind ?_
    rintro rest rest' within
    exact ih.trailers (by rw [same, given.positional, given.keywords]) _ _ calm within
  rw [absent, absent']
  dsimp only
  obtain ⟨absent, absent'⟩ | ⟨rest, rest', found, found', deeper⟩ :=
    within.trailer calm (k := n + 1) "[" rfl fun _ => rfl
  · rw [absent, absent']
    exact .some ⟨same, within⟩
  · rw [found, found']
    refine (ih.slices (.deeper n) deeper).bind ?_
    rintro ⟨index, rest⟩ ⟨_, rest'⟩ ⟨rfl, deeper⟩
    refine (deeper.closing "]" rfl).meets.bind ?_
    rintro rest rest' within
    exact ih.trailers (by rw [same]) _ _ calm within

theorem arguments_steady (opening opening' : Place) {state state' : ArgumentState}
    (given : state.Alike state') (within : Within old new (n + 1) ts us) :
    Meets (Both old new (n + 1) ArgumentState.Alike) (arguments (fuel + 1) opening state ts)
      (arguments (extra + (fuel + 1)) opening' state' us) := by
  rw [arguments, ← Nat.add_assoc, arguments, within.atMark (.deeper n)]
  refine .ite (.some ⟨given, within⟩) ?_
  refine (ih.argument _ _ given within).bind ?_
  rintro ⟨next, rest⟩ ⟨next', rest'⟩ ⟨given, within⟩
  dsimp only
  rw [within.atMark (.deeper n)]
  refine .ite (.some ⟨given, within⟩) ?_
  refine (within.mark (.deeper n) "," rfl).meets.bind ?_
  rintro rest rest' within
  exact ih.arguments _ _ given within

theorem argument_steady (opening opening' : Place) {state state' : ArgumentState}
    (given : state.Alike state') (within : Within old new (n + 1) ts us) :
    Meets (Both old new (n + 1) ArgumentState.Alike) (argument (fuel + 1) opening state ts)
      (argument (extra + (fuel + 1)) opening' state' us) := by
  have inside : Inside old new (n + 1) := .deeper n
  obtain ⟨positional, keywords, starts, sawKeyword, sawDoubleStar⟩ := given
  rw [argument, ← Nat.add_assoc, argument]
  dsimp only
  obtain ⟨absent, absent'⟩ | ⟨rest, rest', found, found', deeper⟩ := within.mark inside "*" rfl
  swap
  · rw [found, found']
    dsimp only
    rw [sawDoubleStar]
    refine .guarded ((ih.expression inside deeper).bind ?_)
    rintro ⟨e, rest⟩ ⟨e', rest'⟩ ⟨same, within⟩
    exact .some ⟨⟨by rw [same, positional], keywords, by simp [starts], sawKeyword, rfl⟩, within⟩
  rw [absent, absent']
  dsimp only
  obtain ⟨absent, absent'⟩ | ⟨rest, rest', found, found', deeper⟩ := within.mark inside "**" rfl
  swap
  · rw [found, found']
    refine (ih.expression inside deeper).bind ?_
    rintro ⟨e, rest⟩ ⟨e', rest'⟩ ⟨same, within⟩
    exact .some ⟨⟨positional, by rw [same, keywords], by simp [starts], rfl, rfl⟩, within⟩
  rw [absent, absent']
  dsimp only
  obtain ⟨absent, absent'⟩ | ⟨⟨key, rest⟩, ⟨_, rest'⟩, found, found', rfl, deeper⟩ :=
    within.nameBefore inside "=" rfl
  swap
  · rw [found, found']
    refine (ih.expression inside deeper).bind ?_
    rintro ⟨e, rest⟩ ⟨e', rest'⟩ ⟨same, within⟩
    exact .some ⟨⟨positional, by rw [same, keywords], by simp [starts], rfl, sawDoubleStar⟩, within⟩
  rw [absent, absent']
  dsimp only
  rw [sawKeyword]
  refine .guarded ((ih.named inside within).bind ?_)
  rintro ⟨e, rest⟩ ⟨e', rest'⟩ ⟨same, within⟩
  dsimp only
  rw [within.atKeyword inside, within.atKeyword inside, within.atMark inside]
  have none : state.starts.isEmpty = state'.starts.isEmpty := by
    rw [Bool.eq_iff_iff, List.isEmpty_iff_length_eq_zero, List.isEmpty_iff_length_eq_zero, starts]
  rw [none]
  refine .ite (.guarded ?_) (.guarded ?_)
  · refine (ih.generators inside within).bind ?_
    rintro ⟨gens, rest⟩ ⟨_, rest'⟩ ⟨rfl, within⟩
    dsimp only
    rw [within.atMark inside]
    exact .guarded (.some ⟨⟨by rw [same], keywords, rfl, rfl, sawDoubleStar⟩, within⟩)
  · exact .some ⟨⟨by rw [same, positional], keywords, by simp [starts], rfl, sawDoubleStar⟩, within⟩

theorem slices_steady : Steady Eq extra (fuel + 1) slices := by
  intro old new n ts us inside within
  rw [slices, ← Nat.add_assoc, slices]
  refine (ih.sliceItem inside within).bind ?_
  rintro ⟨first, starred, rest⟩ ⟨_, _, rest'⟩ ⟨rfl, rfl, within⟩
  dsimp only
  rw [within.atMark inside]
  refine .ite ?_ (.some ⟨rfl, within⟩)
  refine (ih.sliceTail inside within).bind ?_
  rintro ⟨more, rest⟩ ⟨_, rest'⟩ ⟨rfl, within⟩
  exact .some ⟨rfl, within⟩

theorem sliceTail_steady : Steady Eq extra (fuel + 1) sliceTail := by
  intro old new n ts us inside within
  rw [sliceTail, ← Nat.add_assoc, sliceTail]
  obtain ⟨absent, absent'⟩ | ⟨rest, rest', found, found', within⟩ := within.mark inside "," rfl
  · rw [absent, absent']
    exact .some ⟨rfl, within⟩
  · rw [found, found']
    dsimp only
    rw [within.atMark inside]
    refine .ite (.some ⟨rfl, within⟩) ?_
    refine (ih.sliceItem inside within).bind ?_
    rintro ⟨e, _, rest⟩ ⟨_, _, rest'⟩ ⟨rfl, -, within⟩
    refine (ih.sliceTail inside within).bind ?_
    rintro ⟨more, rest⟩ ⟨_, rest'⟩ ⟨rfl, within⟩
    exact .some ⟨rfl, within⟩

theorem sliceItem_steady (inside : Inside old new n) (within : Within old new n ts us) :
    Meets (fun r r' => r.1 = r'.1 ∧ Both old new n Eq r.2 r'.2) (sliceItem (fuel + 1) ts)
      (sliceItem (extra + (fuel + 1)) us) := by
  rw [sliceItem, ← Nat.add_assoc, sliceItem]
  obtain ⟨absent, absent'⟩ | ⟨rest, rest', found, found', within'⟩ := within.mark inside "*" rfl
  swap
  · rw [found, found']
    refine (ih.expression inside within').map ?_
    rintro ⟨e, rest⟩ ⟨e', rest'⟩ ⟨same, within⟩
    exact ⟨congrArg Expr.starred same, rfl, within⟩
  rw [absent, absent']
  dsimp only
  rw [within.atMark inside, (within.nameBefore inside ":=" rfl).isSome_eq]
  refine .ite ?_ ?_
  · refine (ih.sliceBounds none inside within).map ?_
    rintro ⟨e, rest⟩ ⟨_, rest'⟩ ⟨rfl, within⟩
    exact ⟨rfl, rfl, within⟩
  · refine (ih.named inside within).bind ?_
    rintro ⟨lower, rest⟩ ⟨lower', rest'⟩ ⟨same, within⟩
    dsimp only
    rw [within.atMark inside, show lower.expr = lower'.expr from same]
    refine .ite (.guarded ?_) (.some ⟨rfl, rfl, within⟩)
    refine (ih.sliceBounds _ inside within).bind ?_
    rintro ⟨e, rest⟩ ⟨_, rest'⟩ ⟨rfl, within⟩
    exact .some ⟨rfl, rfl, within⟩

theorem sliceBounds_steady (lower : Option Expr) :
    Steady Eq extra (fuel + 1) fun fuel => sliceBounds fuel lower := by
  intro old new n ts us inside within
  dsimp only
  rw [sliceBounds, ← Nat.add_assoc, sliceBounds]
  refine (within.mark inside ":" rfl).meets.bind ?_
  rintro rest rest' within
  refine (ih.sliceBound inside within).bind ?_
  rintro ⟨upper, rest⟩ ⟨_, rest'⟩ ⟨rfl, within⟩
  dsimp only
  obtain ⟨absent, absent'⟩ | ⟨rest, rest', found, found', within⟩ := within.mark inside ":" rfl
  · rw [absent, absent']
    exact .some ⟨rfl, within⟩
  · rw [found, found']
    refine (ih.sliceBound inside within).bind ?_
    rintro ⟨step, rest⟩ ⟨_, rest'⟩ ⟨rfl, within⟩
    exact .some ⟨rfl, within⟩

theorem sliceBound_steady : Steady Eq extra (fuel + 1) sliceBound := by
  intro old new n ts us inside within
  rw [sliceBound, ← Nat.add_assoc, sliceBound, within.atMark inside, within.atMark inside,
    within.atMark inside]
  refine .ite (.some ⟨rfl, within⟩) ((ih.expression inside within).map ?_)
  rintro ⟨e, rest⟩ ⟨e', rest'⟩ ⟨same, within⟩
  exact ⟨congrArg some same, within⟩

theorem atom_steady (calm : Calm old new n) (within : Within old new n ts us) :
    Meets (Both old new n SameTree) (atom (fuel + 1) ts) (atom (extra + (fuel + 1)) us) := by
  rw [← Nat.add_assoc]
  obtain ⟨rfl, rfl, rfl⟩ | ⟨token, p, p', ts', us', rfl, rfl, behind⟩ := within.cases
  · rw [(calm.resolve_left (lt_irrefl 0)).1.atom_eq_none]
    exact .none
  · have word : weight ⟨token, p⟩ = 0 → Within old new n ts' us' := fun plain =>
      behind n (by rw [plain, add_zero])
    have open' : weight ⟨token, p⟩ = 1 → Within old new (n + 1) ts' us' := fun opens =>
      behind (n + 1) (by rw [opens]; rfl)
    rw [atom.eq_def]
    dsimp only
    split
    case h_4 text start tail none true false same =>
      cases same
      rw [atom.eq_5 _ _ _ _ none true false]
      refine (within.trailingName calm).meets.map ?_
      rintro ⟨id, rest⟩ ⟨_, rest'⟩ ⟨rfl, within⟩
      exact ⟨rfl, within⟩
    case h_6 same =>
      cases same
      obtain ⟨rest', read, within'⟩ := within.literals calm
      rw [atom, read]
      refine (ih.textLiteral _).bind ?_
      rintro e _ rfl
      exact .some ⟨rfl, within'⟩
    case h_8 same => cases same; exact ih.parenthesized _ _ (open' rfl)
    case h_9 same => cases same; exact ih.bracketed _ _ (open' rfl)
    case h_10 same => cases same; exact ih.braced _ _ (open' rfl)
    case h_11 => exact .none
    all_goals
      rename_i same
      cases same
      exact .some ⟨rfl, word rfl⟩

theorem textLiteral_steady (written : List TextLiteral.Written) :
    Meets Eq (textLiteral (fuel + 1) written) (textLiteral (extra + (fuel + 1)) written) := by
  rw [textLiteral, ← Nat.add_assoc, textLiteral]
  dsimp only
  refine .ite (.ite (fun e found => ⟨e, found, rfl⟩) .none) ((ih.literalPieces _ _).bind ?_)
  rintro pieces _ rfl
  exact .ite (.some rfl) (.some rfl)

theorem literalPieces_steady (marked : Bool) (written : List TextLiteral.Written) :
    Meets Eq (literalPieces (fuel + 1) marked written)
      (literalPieces (extra + (fuel + 1)) marked written) := by
  rw [← Nat.add_assoc]
  cases written with
  | nil =>
    rw [literalPieces.eq_def, literalPieces.eq_def]
    exact .some rfl
  | cons w ws =>
    rw [literalPieces, literalPieces]
    have further : ∀ here : List Piece, Meets Eq
        (literalPieces fuel marked ws >>= fun more => pure (here ++ more))
        (literalPieces (extra + fuel) marked ws >>= fun more => pure (here ++ more)) := by
      intro here
      refine (ih.literalPieces marked ws).bind ?_
      rintro more _ rfl
      exact .some rfl
    refine .ite ?_ ?_
    · cases found : Formatted.segments w.isRaw w.body with
      | none => exact .none
      | some segments =>
        refine (ih.segmentPieces marked segments (Formatted.segments_enclosed _ _ _ found)).bind ?_
        rintro here _ rfl
        exact further here
    · cases (TextLiteral.textValue w.isRaw w.body).map fun chars => [Piece.literal chars] with
      | none => exact .none
      | some here => exact further here

theorem segmentPieces_steady (marked : Bool) (segments : List Formatted.Segment)
    (enclosed : Formatted.EnclosedSegments segments) :
    Meets Eq (segmentPieces (fuel + 1) marked segments)
      (segmentPieces (extra + (fuel + 1)) marked segments) := by
  rw [← Nat.add_assoc]
  match segments, enclosed with
  | [], _ =>
    rw [segmentPieces.eq_def, segmentPieces.eq_def]
    exact .some rfl
  | .literal chars :: more, ⟨_, later⟩ =>
    rw [segmentPieces, segmentPieces]
    refine (ih.segmentPieces marked more later).bind ?_
    rintro rest _ rfl
    exact .some rfl
  | .field source shown conversion format :: more, ⟨⟨encloses, inFormat⟩, later⟩ =>
    rw [segmentPieces, segmentPieces]
    cases scanned : Token.scanAll ('(' :: source ++ [')']) with
    | none => exact .none
    | some ts =>
      obtain ⟨o, inner, c, rfl, opens, closes, balanced⟩ := encloses ts scanned
      refine (ih.starExpressionsAlone opens closes balanced).bind ?_
      rintro ⟨value, rest⟩ ⟨value', rest'⟩ same
      have tree : value.expr = value'.expr := same
      have further : ∀ (conversion : Option Char) (spec : Option Expr), Meets Eq
          (segmentPieces fuel marked more >>= fun rest => pure
            (Piece.literal (shown.getD []) :: .field (.formatted value.expr conversion spec) :: rest))
          (segmentPieces (extra + fuel) marked more >>= fun rest => pure
            (Piece.literal (shown.getD []) :: .field (.formatted value'.expr conversion spec) :: rest)) := by
        intro conversion spec
        refine (ih.segmentPieces marked more later).bind ?_
        rintro rest _ rfl
        exact .some (by rw [tree])
      dsimp only
      cases format with
      | none => exact further _ _
      | some inner =>
        refine Meets.bind (P := Eq) ((ih.segmentPieces marked inner inFormat).map ?_) ?_
        · rintro pieces _ rfl
          rfl
        · rintro spec _ rfl
          exact further _ _

theorem starExpressions_steady : SteadyBeforeEnd SameTree extra (fuel + 1) starExpressions := by
  intro old new n ts us within
  have inside : Inside old new (n + 1) := .deeper n
  rw [starExpressions, ← Nat.add_assoc, starExpressions]
  refine Whenever.bind (ih.starExpression inside within) ?_
  rintro ⟨first, rest⟩ ⟨⟨first', rest'⟩, found, same, within⟩
  rw [found]
  have comma := within.atMark inside ","
  dsimp only at comma ⊢
  rw [Option.bind_eq_bind, Option.bind_some, comma]
  split
  · refine Whenever.bind (ih.starExpressionTail within) ?_
    rintro ⟨more, rest⟩ before
    refine .some fun ends => ?_
    obtain ⟨⟨_, rest'⟩, found', rfl, within⟩ := before ends
    exact ⟨_, by rw [found']; rfl, by rw [same], within⟩
  · exact .some fun _ => ⟨_, rfl, same, within⟩

theorem starExpressionTail_steady : SteadyBeforeEnd Eq extra (fuel + 1) starExpressionTail := by
  intro old new n ts us within
  have inside : Inside old new (n + 1) := .deeper n
  rw [starExpressionTail, ← Nat.add_assoc, starExpressionTail]
  obtain ⟨absent, absent'⟩ | ⟨rest, rest', found, found', within⟩ := within.mark inside "," rfl
  · rw [absent, absent']
    exact .some fun _ => ⟨_, rfl, rfl, within⟩
  · rw [found, found']
    dsimp only
    cases read : starExpression fuel rest with
    | none =>
      refine .some fun ends => ?_
      have ends' := within.atMark inside ")"
      rw [starExpression_eq_none (ends'.trans ends)]
      exact ⟨_, rfl, rfl, within⟩
    | some r =>
      obtain ⟨e, rest⟩ := r
      obtain ⟨⟨e', rest'⟩, read', same, within⟩ := ih.starExpression inside within _ read
      rw [read']
      refine Whenever.bind (ih.starExpressionTail within) ?_
      rintro ⟨more, rest⟩ before
      refine .some fun ends => ?_
      obtain ⟨⟨_, rest'⟩, found', rfl, within⟩ := before ends
      dsimp only at found' ⊢
      exact ⟨(e'.expr :: more, rest'), by rw [found']; rfl, by rw [same], within⟩

theorem starExpressionsAlone_steady {o c : Lexeme} {inner : List Lexeme} (opens : o.token = .mark "(")
    (closes : c.token = .mark ")") (balanced : Balanced inner) :
    Meets (fun r r' => SameTree r.1 r'.1) (starExpressions (fuel + 1) (o :: (inner ++ [c])))
      (starExpressions (extra + (fuel + 1)) (o :: (inner ++ [c]))) := by
  have inside : Inside [] [] 0 := .inr ⟨rfl, rfl⟩
  have alone : Within [] [] 0 (o :: (inner ++ [c])) (o :: (inner ++ [c])) := by
    refine ⟨_, _, (List.append_nil _).symm, (List.append_nil _).symm, rfl, ?_⟩
    exact (balanced.group (isOpening_of_mark opens rfl) (isClosing_of_mark closes rfl)).whole
  rw [starExpressions, ← Nat.add_assoc, starExpressions]
  intro r read
  obtain ⟨⟨first, rest⟩, first_read, read⟩ := Option.bind_eq_some_iff.mp read
  obtain ⟨⟨first', rest'⟩, first_read', same, within⟩ := ih.starExpression inside alone _ first_read
  obtain rfl : rest = [] := starExpression_finished opens balanced _ _ first_read
  obtain rfl : rest' = [] := by
    rcases within.next inside with ⟨-, none⟩ | ⟨_, _, _, _, _, none, -⟩
    · exact none
    · cases none
  cases read
  exact ⟨(first', []), by rw [first_read']; rfl, same⟩

theorem starExpression_steady : Steady SameTree extra (fuel + 1) starExpression := by
  intro old new n ts us inside within
  rw [starExpression, ← Nat.add_assoc, starExpression]
  obtain ⟨absent, absent'⟩ | ⟨rest, rest', found, found', within⟩ := within.mark inside "*" rfl
  · rw [absent, absent']
    exact ih.expression inside within
  · rw [found, found']
    refine (ih.binary _ binaryLevels_plain inside within).bind ?_
    rintro ⟨e, rest⟩ ⟨e', rest'⟩ ⟨same, within⟩
    exact .some ⟨by rw [same], within⟩

theorem element_steady : Steady SameTree extra (fuel + 1) element := by
  intro old new n ts us inside within
  rw [element, ← Nat.add_assoc, element]
  obtain ⟨absent, absent'⟩ | ⟨rest, rest', found, found', within⟩ := within.mark inside "*" rfl
  · rw [absent, absent']
    exact ih.named inside within
  · rw [found, found']
    refine (ih.binary _ binaryLevels_plain inside within).bind ?_
    rintro ⟨e, rest⟩ ⟨e', rest'⟩ ⟨same, within⟩
    exact .some ⟨by rw [same], within⟩

theorem elementTail_steady (closing : String) (closes : [")", "]", "\x7d"].contains closing = true) :
    SteadyToEnd Eq extra (fuel + 1) fun fuel => elementTail fuel closing := by
  intro old new n ts us within
  have inside : Inside old new (n + 1) := .deeper n
  dsimp only
  rw [elementTail, ← Nat.add_assoc, elementTail]
  obtain ⟨absent, absent'⟩ | ⟨rest, rest', found, found', outer⟩ := within.closing closing closes
  swap
  · rw [found, found']
    exact .some ⟨rfl, outer⟩
  rw [absent, absent']
  refine (within.mark inside "," rfl).meets.bind ?_
  rintro rest rest' within
  dsimp only
  obtain ⟨absent, absent'⟩ | ⟨rest, rest', found, found', outer⟩ := within.closing closing closes
  · rw [absent, absent']
    refine (ih.element inside within).bind ?_
    rintro ⟨e, rest⟩ ⟨e', rest'⟩ ⟨same, within⟩
    refine (ih.elementTail closing closes within).bind ?_
    rintro ⟨more, rest⟩ ⟨_, rest'⟩ ⟨rfl, outer⟩
    exact .some ⟨by rw [same], outer⟩
  · rw [found, found']
    exact .some ⟨rfl, outer⟩

theorem parenthesized_steady (start start' : Place) (within : Within old new (n + 1) ts us) :
    Meets (Both old new n SameTree) (parenthesized (fuel + 1) start ts)
      (parenthesized (extra + (fuel + 1)) start' us) := by
  have inside : Inside old new (n + 1) := .deeper n
  rw [parenthesized, ← Nat.add_assoc, parenthesized]
  obtain ⟨absent, absent'⟩ | ⟨rest, rest', found, found', outer⟩ := within.closing ")" rfl
  swap
  · rw [found, found']
    exact .some ⟨rfl, outer⟩
  rw [absent, absent']
  dsimp only
  obtain ⟨absent, absent'⟩ | ⟨rest, rest', found, found', within'⟩ := within.keyword inside "yield"
  swap
  · rw [found, found']
    dsimp only
    refine Whenever.bind (ih.yielded within') ?_
    rintro ⟨e, rest⟩ before
    cases ends : mark? ")" rest with
    | none => exact .none
    | some left =>
      obtain ⟨⟨_, rest'⟩, read', rfl, within⟩ := before (by rw [atMark, ends]; rfl)
      obtain ⟨absent, -⟩ | ⟨_, left', found, found', outer⟩ := within.closing ")" rfl
      · rw [ends] at absent
        cases absent
      · cases ends.symm.trans found
        refine .some ⟨({ expr := e, start := place us }, left'), ?_, rfl, outer⟩
        rw [read']
        simp [found']
  rw [absent, absent', within.atMark inside]
  refine (ih.element inside within).bind ?_
  rintro ⟨first, rest⟩ ⟨first', rest'⟩ ⟨same, within⟩
  dsimp only
  rw [within.atMark inside, within.atKeyword inside, within.atKeyword inside]
  refine .ite ?_ (.guarded (.ite ?_ ?_))
  · refine (ih.elementTail ")" rfl within).bind ?_
    rintro ⟨more, rest⟩ ⟨_, rest'⟩ ⟨rfl, outer⟩
    exact .some ⟨by rw [same], outer⟩
  · refine (ih.generators inside within).bind ?_
    rintro ⟨gens, rest⟩ ⟨_, rest'⟩ ⟨rfl, within⟩
    refine (within.closing ")" rfl).meets.bind ?_
    rintro rest rest' outer
    exact .some ⟨by rw [same], outer⟩
  · refine (within.closing ")" rfl).meets.bind ?_
    rintro rest rest' outer
    exact .some ⟨same, outer⟩

theorem yielded_steady : SteadyBeforeEnd Eq extra (fuel + 1) yielded := by
  intro old new n ts us within
  have inside : Inside old new (n + 1) := .deeper n
  rw [yielded, ← Nat.add_assoc, yielded]
  obtain ⟨absent, absent'⟩ | ⟨rest, rest', found, found', within'⟩ := within.keyword inside "from"
  · rw [absent, absent', within.atMark inside]
    dsimp only
    split
    · exact .some fun _ => ⟨_, rfl, rfl, within⟩
    · refine Whenever.map (ih.starExpressions within) ?_
      rintro ⟨e, rest⟩ before ends
      obtain ⟨⟨e', rest'⟩, found', same, within⟩ := before ends
      exact ⟨(.yield (some e'.expr), rest'), by rw [found']; rfl, congrArg (Expr.yield ∘ some) same, within⟩
  · rw [found, found']
    dsimp only
    refine Whenever.map (ih.expression inside within') ?_
    rintro ⟨e, rest⟩ ⟨⟨e', rest'⟩, read, same, within⟩ _
    exact ⟨(.yieldFrom e'.expr, rest'), by rw [read]; rfl, congrArg Expr.yieldFrom same, within⟩

theorem bracketed_steady (start start' : Place) (within : Within old new (n + 1) ts us) :
    Meets (Both old new n SameTree) (bracketed (fuel + 1) start ts)
      (bracketed (extra + (fuel + 1)) start' us) := by
  have inside : Inside old new (n + 1) := .deeper n
  rw [bracketed, ← Nat.add_assoc, bracketed]
  obtain ⟨absent, absent'⟩ | ⟨rest, rest', found, found', outer⟩ := within.closing "]" rfl
  swap
  · rw [found, found']
    exact .some ⟨rfl, outer⟩
  rw [absent, absent', within.atMark inside]
  refine (ih.element inside within).bind ?_
  rintro ⟨first, rest⟩ ⟨first', rest'⟩ ⟨same, within⟩
  dsimp only
  rw [within.atKeyword inside, within.atKeyword inside]
  refine .ite ?_ ?_
  · refine (ih.generators inside within).bind ?_
    rintro ⟨gens, rest⟩ ⟨_, rest'⟩ ⟨rfl, within⟩
    refine (within.closing "]" rfl).meets.bind ?_
    rintro rest rest' outer
    exact .some ⟨by rw [same], outer⟩
  · refine (ih.elementTail "]" rfl within).bind ?_
    rintro ⟨more, rest⟩ ⟨_, rest'⟩ ⟨rfl, outer⟩
    exact .some ⟨by rw [same], outer⟩

theorem braced_steady (start start' : Place) (within : Within old new (n + 1) ts us) :
    Meets (Both old new n SameTree) (braced (fuel + 1) start ts)
      (braced (extra + (fuel + 1)) start' us) := by
  have inside : Inside old new (n + 1) := .deeper n
  rw [braced, ← Nat.add_assoc, braced]
  obtain ⟨absent, absent'⟩ | ⟨rest, rest', found, found', outer⟩ := within.closing "\x7d" rfl
  swap
  · rw [found, found']
    exact .some ⟨rfl, outer⟩
  rw [absent, absent', within.atMark inside, within.atMark inside,
    (within.nameBefore inside ":=" rfl).isSome_eq]
  refine .ite ?_ ?_
  · refine (ih.dictItems within).bind ?_
    rintro ⟨items, rest⟩ ⟨_, rest'⟩ ⟨rfl, outer⟩
    exact .some ⟨rfl, outer⟩
  · refine (ih.element inside within).bind ?_
    rintro ⟨first, rest⟩ ⟨first', rest'⟩ ⟨same, within⟩
    dsimp only
    rw [within.atMark inside, within.atKeyword inside, within.atKeyword inside]
    refine .ite ?_ (.ite ?_ ?_)
    · refine (within.mark inside ":" rfl).meets.bind ?_
      rintro rest rest' within
      refine (ih.expression inside within).bind ?_
      rintro ⟨value, rest⟩ ⟨value', rest'⟩ ⟨sameValue, within⟩
      dsimp only
      rw [within.atKeyword inside, within.atKeyword inside]
      refine .ite ?_ ?_
      · refine (ih.generators inside within).bind ?_
        rintro ⟨gens, rest⟩ ⟨_, rest'⟩ ⟨rfl, within⟩
        refine (within.closing "\x7d" rfl).meets.bind ?_
        rintro rest rest' outer
        exact .some ⟨by rw [same, sameValue], outer⟩
      · refine (ih.dictTail within).bind ?_
        rintro ⟨items, rest⟩ ⟨_, rest'⟩ ⟨rfl, outer⟩
        exact .some ⟨by rw [same, sameValue], outer⟩
    · refine (ih.generators inside within).bind ?_
      rintro ⟨gens, rest⟩ ⟨_, rest'⟩ ⟨rfl, within⟩
      refine (within.closing "\x7d" rfl).meets.bind ?_
      rintro rest rest' outer
      exact .some ⟨by rw [same], outer⟩
    · refine (ih.elementTail "\x7d" rfl within).bind ?_
      rintro ⟨more, rest⟩ ⟨_, rest'⟩ ⟨rfl, outer⟩
      exact .some ⟨by rw [same], outer⟩

theorem dictItems_steady : SteadyToEnd Eq extra (fuel + 1) dictItems := by
  intro old new n ts us within
  rw [dictItems, ← Nat.add_assoc, dictItems]
  refine (ih.dictItem (.deeper n) within).bind ?_
  rintro ⟨item, rest⟩ ⟨_, rest'⟩ ⟨rfl, within⟩
  refine (ih.dictTail within).bind ?_
  rintro ⟨items, rest⟩ ⟨_, rest'⟩ ⟨rfl, outer⟩
  exact .some ⟨rfl, outer⟩

theorem dictTail_steady : SteadyToEnd Eq extra (fuel + 1) dictTail := by
  intro old new n ts us within
  have inside : Inside old new (n + 1) := .deeper n
  rw [dictTail, ← Nat.add_assoc, dictTail]
  obtain ⟨absent, absent'⟩ | ⟨rest, rest', found, found', outer⟩ := within.closing "\x7d" rfl
  swap
  · rw [found, found']
    exact .some ⟨rfl, outer⟩
  rw [absent, absent']
  refine (within.mark inside "," rfl).meets.bind ?_
  rintro rest rest' within
  obtain ⟨absent, absent'⟩ | ⟨rest, rest', found, found', outer⟩ := within.closing "\x7d" rfl
  · rw [absent, absent']
    exact ih.dictItems within
  · rw [found, found']
    exact .some ⟨rfl, outer⟩

theorem dictItem_steady : Steady Eq extra (fuel + 1) dictItem := by
  intro old new n ts us inside within
  rw [dictItem, ← Nat.add_assoc, dictItem]
  obtain ⟨absent, absent'⟩ | ⟨rest, rest', found, found', within'⟩ := within.mark inside "**" rfl
  · rw [absent, absent']
    refine (ih.expression inside within).bind ?_
    rintro ⟨key, rest⟩ ⟨key', rest'⟩ ⟨sameKey, within⟩
    refine (within.mark inside ":" rfl).meets.bind ?_
    rintro rest rest' within
    refine (ih.expression inside within).bind ?_
    rintro ⟨value, rest⟩ ⟨value', rest'⟩ ⟨sameValue, within⟩
    exact .some ⟨by rw [sameKey, sameValue], within⟩
  · rw [found, found']
    refine (ih.binary _ binaryLevels_plain inside within').map ?_
    rintro ⟨e, rest⟩ ⟨e', rest'⟩ ⟨same, within⟩
    exact ⟨congrArg DictItem.spread same, within⟩

theorem generators_steady : Steady Eq extra (fuel + 1) generators := by
  intro old new n ts us inside within
  rw [generators, ← Nat.add_assoc, generators]
  have begun : Within old new n ((keyword? "async" ts).getD ts) ((keyword? "async" us).getD us) := by
    obtain ⟨absent, absent'⟩ | ⟨rest, rest', found, found', within'⟩ := within.keyword inside "async"
    · rwa [absent, absent']
    · rwa [found, found']
  rw [within.atKeyword inside]
  refine (begun.keyword inside "for").meets.bind ?_
  rintro rest rest' within
  refine (ih.targets inside within).bind ?_
  rintro ⟨target, rest⟩ ⟨_, rest'⟩ ⟨rfl, within⟩
  refine (within.keyword inside "in").meets.bind ?_
  rintro rest rest' within
  refine (ih.disjunction inside within).bind ?_
  rintro ⟨source, rest⟩ ⟨source', rest'⟩ ⟨same, within⟩
  refine (ih.conditions inside within).bind ?_
  rintro ⟨tests, rest⟩ ⟨_, rest'⟩ ⟨rfl, within⟩
  dsimp only
  rw [within.atKeyword inside, within.atKeyword inside, show source.expr = source'.expr from same]
  refine .ite ?_ (.some ⟨rfl, within⟩)
  refine (ih.generators inside within).bind ?_
  rintro ⟨more, rest⟩ ⟨_, rest'⟩ ⟨rfl, within⟩
  exact .some ⟨rfl, within⟩

theorem conditions_steady : Steady Eq extra (fuel + 1) conditions := by
  intro old new n ts us inside within
  rw [conditions, ← Nat.add_assoc, conditions]
  obtain ⟨absent, absent'⟩ | ⟨rest, rest', found, found', within⟩ := within.keyword inside "if"
  · rw [absent, absent']
    exact .some ⟨rfl, within⟩
  · rw [found, found']
    refine (ih.disjunction inside within).bind ?_
    rintro ⟨e, rest⟩ ⟨e', rest'⟩ ⟨same, within⟩
    refine (ih.conditions inside within).bind ?_
    rintro ⟨more, rest⟩ ⟨_, rest'⟩ ⟨rfl, within⟩
    exact .some ⟨by rw [same], within⟩

theorem targets_steady : Steady Eq extra (fuel + 1) targets := by
  intro old new n ts us inside within
  rw [targets, ← Nat.add_assoc, targets]
  refine (ih.target inside within).bind ?_
  rintro ⟨first, rest⟩ ⟨_, rest'⟩ ⟨rfl, within⟩
  dsimp only
  rw [within.atMark inside]
  refine .ite ?_ (.some ⟨rfl, within⟩)
  refine (ih.targetTail inside within).bind ?_
  rintro ⟨more, rest⟩ ⟨_, rest'⟩ ⟨rfl, within⟩
  exact .some ⟨rfl, within⟩

theorem targetTail_steady : Steady Eq extra (fuel + 1) targetTail := by
  intro old new n ts us inside within
  rw [targetTail, ← Nat.add_assoc, targetTail]
  obtain ⟨absent, absent'⟩ | ⟨rest, rest', found, found', within⟩ := within.mark inside "," rfl
  · rw [absent, absent']
    exact .some ⟨rfl, within⟩
  · rw [found, found']
    dsimp only
    rw [within.atKeyword inside]
    refine .ite (.some ⟨rfl, within⟩) ?_
    refine (ih.target inside within).bind ?_
    rintro ⟨e, rest⟩ ⟨_, rest'⟩ ⟨rfl, within⟩
    refine (ih.targetTail inside within).bind ?_
    rintro ⟨more, rest⟩ ⟨_, rest'⟩ ⟨rfl, within⟩
    exact .some ⟨rfl, within⟩

theorem target_steady : Steady Eq extra (fuel + 1) target := by
  intro old new n ts us inside within
  rw [target, ← Nat.add_assoc, target]
  have behind : ∀ (isStarred : Bool) {ts us : List Lexeme}, Within old new n ts us →
      Meets (Both old new n Eq)
        (primary fuel ts >>= fun r => if !isTarget r.1.expr then none
          else some (if isStarred then .starred r.1.expr else r.1.expr, r.2))
        (primary (extra + fuel) us >>= fun r => if !isTarget r.1.expr then none
          else some (if isStarred then .starred r.1.expr else r.1.expr, r.2)) := by
    intro isStarred ts us within
    refine (ih.primary inside.calm within).bind ?_
    rintro ⟨e, rest⟩ ⟨e', rest'⟩ ⟨same, within⟩
    dsimp only
    rw [show e.expr = e'.expr from same]
    exact .ite .none (.some ⟨rfl, within⟩)
  obtain ⟨absent, absent'⟩ | ⟨rest, rest', found, found', within'⟩ := within.mark inside "*" rfl
  · rw [absent, absent']
    exact behind false within
  · rw [found, found']
    exact behind true within'

end

/-- Without fuel nothing is read in the first place. -/
theorem readsElsewhere_zero (extra : Nat) : ReadsElsewhere extra 0 := by
  constructor <;> intros <;>
    first | exact Whenever.none | exact fun _ => Whenever.none | exact fun _ _ => Whenever.none

/-- By induction on the fuel, each function from those that it calls with one unit less. -/
theorem readsElsewhere (extra fuel : Nat) : ReadsElsewhere extra fuel := by
  induction fuel with
  | zero => exact readsElsewhere_zero extra
  | succ fuel ih =>
    exact {
      named := named_steady ih
      expression := expression_steady ih
      parameters := parameters_steady ih
      parameter := parameter_steady ih
      disjunction := disjunction_steady ih
      disjunctionTail := disjunctionTail_steady ih
      conjunction := conjunction_steady ih
      conjunctionTail := conjunctionTail_steady ih
      inversion := inversion_steady ih
      comparisonTail := comparisonTail_steady ih
      binary := binary_steady ih
      binaryTail := fun _ _ here plain _ _ same _ _ => binaryTail_steady ih _ _ here plain same _ _
      factor := factor_steady ih
      awaited := awaited_steady ih
      primary := primary_steady ih
      trailers := fun same _ _ => trailers_steady ih same _ _
      arguments := fun _ _ _ _ given => arguments_steady ih _ _ given
      argument := fun _ _ _ _ given => argument_steady ih _ _ given
      slices := slices_steady ih
      sliceTail := sliceTail_steady ih
      sliceItem := sliceItem_steady ih
      sliceBounds := sliceBounds_steady ih
      sliceBound := sliceBound_steady ih
      atom := atom_steady ih
      textLiteral := textLiteral_steady ih
      literalPieces := literalPieces_steady ih
      segmentPieces := segmentPieces_steady ih
      starExpressions := starExpressions_steady ih
      starExpressionTail := starExpressionTail_steady ih
      starExpressionsAlone := starExpressionsAlone_steady ih
      starExpression := starExpression_steady ih
      element := element_steady ih
      elementTail := elementTail_steady ih
      parenthesized := fun _ _ => parenthesized_steady ih _ _
      yielded := yielded_steady ih
      bracketed := fun _ _ => bracketed_steady ih _ _
      braced := fun _ _ => braced_steady ih _ _
      dictItems := dictItems_steady ih
      dictTail := dictTail_steady ih
      dictItem := dictItem_steady ih
      generators := generators_steady ih
      conditions := conditions_steady ih
      targets := targets_steady ih
      targetTail := targetTail_steady ih
      target := target_steady ih }

end Bindery.Reader

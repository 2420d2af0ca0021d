import Bindery.Expr.Reader
import Bindery.Proofs.Outcomes

/- Between an operand and a whole expression the reader calls one function for each kind of operator. When
   no operator follows, what all of them give is what the operand is. -/
namespace Bindery.Reader

variable {ts us rest : List Lexeme}

/-- Words with which no operand of `and` goes on. -/
structure EndsOperand (rest : List Lexeme) : Prop where
  power : mark? "**" rest = none
  operators : ∀ ops ∈ binaryLevels, operator? ops rest = none
  comparison : comparison? rest = none

theorem EndsOperand.nil : EndsOperand [] := ⟨rfl, fun _ _ => rfl, rfl⟩

/-- A step that changes nothing before such words. -/
theorem bind_unchanged {P : List Lexeme → Prop} {read : Option (Phrase × List Lexeme)}
    (ends : Whenever (fun r => P r.2) read) {f : Phrase × List Lexeme → Option (Phrase × List Lexeme)}
    (keeps : ∀ p rest, P rest → f (p, rest) = some (p, rest)) : read >>= f = read := by
  cases read with
  | none => rfl
  | some r => exact keeps r.1 r.2 (ends r rfl)

/-- Neither a sign nor a word stands in front, and no operator behind. -/
theorem inversion_eq_primary {fuel : Nat} (await : keyword? "await" ts = none) (sign : sign? ts = none)
    (negation : keyword? "not" ts = none) (ends : Whenever (fun r => EndsOperand r.2) (primary fuel ts)) :
    inversion (fuel + 10) ts = primary fuel ts := by
  have awaited : awaited (fuel + 1) ts = primary fuel ts := by
    rw [awaited, await]
  have factor : factor (fuel + 2) ts = primary fuel ts := by
    rw [factor, sign]
    dsimp only
    rw [awaited]
    refine bind_unchanged ends fun p rest ends => ?_
    simp only [ends.power]
    rfl
  have binary : ∀ levels, (∀ ops ∈ levels, ops ∈ binaryLevels) →
      binary (fuel + 3 + levels.length) levels ts = primary fuel ts := by
    intro levels known
    induction levels with
    | nil => exact factor
    | cons ops levels ih =>
      obtain ⟨here, known⟩ := List.forall_mem_cons.mp known
      obtain ⟨n, more⟩ : ∃ n, fuel + 3 + levels.length = n + 1 := ⟨fuel + 2 + levels.length, by omega⟩
      rw [List.length_cons, ← Nat.add_assoc, Reader.binary, ih known, more]
      refine bind_unchanged ends fun p rest ends => ?_
      simp only [binaryTail, ends.operators ops here]
  have operand : Reader.binary (fuel + 9) binaryLevels ts = primary fuel ts :=
    binary binaryLevels fun _ member => member
  rw [inversion, negation]
  dsimp only
  rw [operand]
  refine bind_unchanged ends fun p rest ends => ?_
  simp only [ends.comparison]
  rfl

theorem primary_eq_none (unread : ∀ n, atom n ts = none) (n : Nat) : primary n ts = none := by
  cases n with
  | zero => rfl
  | succ n =>
    rw [primary, unread]
    rfl

/-- No phrase begins with the word. -/
theorem expression_eq_none {t : Lexeme} (atom : ∀ n, atom n (t :: us) = none)
    (lambda : keyword? "lambda" (t :: us) = none) (negation : keyword? "not" (t :: us) = none)
    (await : keyword? "await" (t :: us) = none) (sign : sign? (t :: us) = none) (n : Nat) :
    expression n (t :: us) = none := by
  have awaited : ∀ n, awaited n (t :: us) = none := by
    rintro (_ | n)
    · rfl
    · rw [awaited, await]
      exact primary_eq_none atom n
  have factor : ∀ n, factor n (t :: us) = none := by
    rintro (_ | n)
    · rfl
    · rw [factor, sign]
      dsimp only
      rw [awaited]
      rfl
  have binary : ∀ levels n, binary n levels (t :: us) = none := by
    intro levels
    induction levels with
    | nil =>
      rintro (_ | n)
      · rfl
      · exact factor n
    | cons ops levels ih =>
      rintro (_ | n)
      · rfl
      · rw [Reader.binary, ih]
        rfl
  have inversion : ∀ n, inversion n (t :: us) = none := by
    rintro (_ | n)
    · rfl
    · rw [inversion, negation]
      dsimp only
      rw [binary]
      rfl
  have conjunction : ∀ n, conjunction n (t :: us) = none := by
    rintro (_ | n)
    · rfl
    · rw [conjunction, inversion]
      rfl
  have disjunction : ∀ n, disjunction n (t :: us) = none := by
    rintro (_ | n)
    · rfl
    · rw [disjunction, conjunction]
      rfl
  cases n with
  | zero => rfl
  | succ n =>
    rw [expression, lambda]
    dsimp only
    rw [disjunction]
    rfl

theorem named_eq_none {t : Lexeme} (atom : ∀ n, atom n (t :: us) = none)
    (lambda : keyword? "lambda" (t :: us) = none) (negation : keyword? "not" (t :: us) = none)
    (await : keyword? "await" (t :: us) = none) (sign : sign? (t :: us) = none)
    (unnamed : nameBefore? ":=" (t :: us) = none) (n : Nat) : named n (t :: us) = none := by
  cases n with
  | zero => rfl
  | succ n =>
    rw [named, unnamed]
    dsimp only
    rw [expression_eq_none atom lambda negation await sign]
    rfl

end Bindery.Reader

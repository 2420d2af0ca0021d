import Bindery.Proofs.Number.Rounding

/- The decimal that is written for a double rounds to that double: the grid of seventeen digits is
   finer than the interval of any double, so one of the grids up to it has a decimal in there. -/
namespace Bindery.Number

def Decimal.value (d : Decimal) : ℚ := d.digits * 10 ^ d.exponent

theorem Decimal.trim_value (d : Decimal) (fuel : Nat) : (d.trim fuel).value = d.value := by
  induction fuel generalizing d with
  | zero => rfl
  | succ fuel ih =>
    rw [Decimal.trim]
    split
    · rename_i ends
      simp only [ne_eq, Bool.and_eq_true, decide_eq_true_eq] at ends
      obtain ⟨tens, multiple⟩ := Nat.dvd_of_mod_eq_zero ends.2
      rw [ih]
      simp only [Decimal.value, multiple, Nat.mul_div_cancel_left tens (by norm_num : 0 < 10)]
      rw [zpow_add_one₀ (by norm_num)]
      push_cast
      ring
    · rfl

theorem Rounds.of_near {m : Nat} {q : Int} {x : ℚ}
    (lower : (4 * m - quartersBelow m q) * 2 ^ (q - 2) < x)
    (upper : x < (4 * m + 2) * 2 ^ (q - 2)) : Rounds m q x :=
  ⟨lower.le, upper.le, fun _ => ⟨lower, upper⟩⟩

theorem Rounds.self (m : Nat) (q : Int) : Rounds m q (4 * m * 2 ^ (q - 2)) := by
  have unit : (0 : ℚ) < 2 ^ (q - 2) := by positivity
  have one : (1 : ℚ) ≤ quartersBelow m q := by exact_mod_cast (quartersBelow_le m q).1
  exact .of_near (mul_lt_mul_of_pos_right (by linarith) unit)
    (mul_lt_mul_of_pos_right (by linarith) unit)

/-! ### A grid -/

section
variable (m : Nat) (q k : Int)

/-- The grid point below the value, as a count of steps. -/
def gridFloor : Nat :=
  4 * m * powerOver 2 (q - 2) * powerUnder 10 k / (powerUnder 2 (q - 2) * powerOver 10 k)

theorem gridFloor_le : (gridFloor m q k : ℚ) * 10 ^ k ≤ 4 * m * 2 ^ (q - 2) := by
  have counted : gridFloor m q k * powerOver 10 k * powerUnder 2 (q - 2) ≤
      4 * m * powerOver 2 (q - 2) * powerUnder 10 k := by
    rw [Nat.mul_assoc, Nat.mul_comm (powerOver 10 k)]
    exact Nat.div_mul_le_self _ _
  have := (decimal_le_iff (4 * m) _ _ _).mp counted
  exact_mod_cast this

theorem lt_gridFloor : (4 * m * 2 ^ (q - 2) : ℚ) < (gridFloor m q k + 1) * 10 ^ k := by
  have counted : 4 * m * powerOver 2 (q - 2) * powerUnder 10 k <
      (gridFloor m q k + 1) * powerOver 10 k * powerUnder 2 (q - 2) := by
    rw [Nat.mul_assoc (gridFloor m q k + 1), Nat.mul_comm (powerOver 10 k), Nat.mul_comm _ (_ * _)]
    exact Nat.lt_mul_div_succ _
      (Nat.mul_pos (powerUnder_pos _ (by norm_num)) (powerOver_pos _ (by norm_num)))
  have := (lt_decimal_iff (4 * m) _ _ _).mp counted
  exact_mod_cast this

theorem gridFloor_exact (even : 4 * m * powerOver 2 (q - 2) * powerUnder 10 k %
    (powerUnder 2 (q - 2) * powerOver 10 k) = 0) :
    (gridFloor m q k : ℚ) * 10 ^ k = 4 * m * 2 ^ (q - 2) := by
  refine le_antisymm (gridFloor_le m q k) ?_
  have counted : 4 * m * powerOver 2 (q - 2) * powerUnder 10 k ≤
      gridFloor m q k * powerOver 10 k * powerUnder 2 (q - 2) := by
    rw [Nat.mul_assoc (gridFloor m q k), Nat.mul_comm (powerOver 10 k)]
    exact (Nat.div_mul_cancel (Nat.dvd_of_mod_eq_zero even)).ge
  have := (le_decimal_iff (4 * m) _ _ _).mp counted
  exact_mod_cast this

end

theorem Rounding.onGrid_eq (m : Nat) (q k : Int) :
    (Rounding.of m q).onGrid k =
      let num := 4 * m * powerOver 2 (q - 2) * powerUnder 10 k
      let den := powerUnder 2 (q - 2) * powerOver 10 k
      let d := gridFloor m q k
      let low := (Rounding.of m q).holds d k && d ≠ 0
      let high := (Rounding.of m q).holds (d + 1) k
      if num % den = 0 && d ≠ 0 then some ⟨d, k⟩
      else if low && ((2 * (num % den) < den || (2 * (num % den) = den && d % 2 = 0)) || !high) then
        some ⟨d, k⟩
      else if high then some ⟨d + 1, k⟩
      else none := by
  unfold Rounding.onGrid gridFloor
  rw [Rounding.of_eq]
  unfold powerOver powerUnder
  split <;> simp

/-- What a grid offers rounds to the double. -/
theorem Rounding.onGrid_rounds {m : Nat} {q k : Int} {d : Decimal} (pos : 0 < m)
    (found : (Rounding.of m q).onGrid k = some d) : Rounds m q d.value := by
  rw [Rounding.onGrid_eq] at found
  dsimp only at found
  split at found
  · rename_i exact'
    simp only [Bool.and_eq_true, decide_eq_true_eq] at exact'
    obtain rfl := Option.some.inj found
    simp only [Decimal.value, gridFloor_exact m q k exact'.1]
    exact Rounds.self m q
  split at found
  · rename_i low
    simp only [Bool.and_eq_true, Rounding.holds_iff pos] at low
    obtain rfl := Option.some.inj found
    exact low.1.1
  split at found
  · rename_i high
    rw [Rounding.holds_iff pos] at high
    obtain rfl := Option.some.inj found
    exact high
  · simp at found

/-- A grid whose steps are a 10^16th of the double has a decimal for it. -/
theorem Rounding.onGrid_isSome {m : Nat} {q k : Int} (form : Canonical m q) (pos : 0 < m)
    (fine : (10 : ℚ) ^ 16 * 10 ^ k ≤ 4 * m * 2 ^ (q - 2)) :
    ((Rounding.of m q).onGrid k).isSome = true := by
  have unit : (0 : ℚ) < 2 ^ (q - 2) := by positivity
  have step : (0 : ℚ) < 10 ^ k := by positivity
  have floor := gridFloor_le m q k
  have ceiling := lt_gridFloor m q k
  have nonzero : gridFloor m q k ≠ 0 := by
    intro zero
    rw [zero] at ceiling
    push_cast at ceiling
    linarith
  -- the interval is wider than a step of the grid
  have wide : (10 : ℚ) ^ k < (quartersBelow m q + 2) * 2 ^ (q - 2) := by
    have quarters : 4 * m < 10 ^ 16 * (quartersBelow m q + 2) := by
      have := form.small
      unfold quartersBelow
      split <;> omega
    have quarters' : (4 * m : ℚ) < 10 ^ 16 * (quartersBelow m q + 2) := by exact_mod_cast quarters
    have := mul_lt_mul_of_pos_right quarters' unit
    linarith
  have either : (Rounding.of m q).holds (gridFloor m q k) k = true ∨
      (Rounding.of m q).holds (gridFloor m q k + 1) k = true := by
    rw [Rounding.holds_iff pos, Rounding.holds_iff pos]
    push_cast
    rcases lt_or_ge ((4 * m - quartersBelow m q) * 2 ^ (q - 2) : ℚ) (gridFloor m q k * 10 ^ k)
      with near | far
    · refine .inl (.of_near near ?_)
      linarith
    · refine .inr (.of_near ?_ ?_)
      · have : (0 : ℚ) ≤ quartersBelow m q * 2 ^ (q - 2) := by positivity
        linarith
      · linarith
  rw [Rounding.onGrid_eq]
  dsimp only
  split
  · rfl
  split
  · rfl
  split
  · rfl
  · rename_i noLow noHigh
    rcases either with low | high
    · simp [low, nonzero, noHigh] at noLow
    · exact absurd high noHigh

/-! ### The first digit -/

theorem length_text_le_iff {n k : Nat} (pos : 0 < k) : (toString n).length ≤ k ↔ n < 10 ^ k := by
  rw [Nat.toString_eq_repr]
  exact Nat.length_repr_le_iff pos

theorem length_text_pos (n : Nat) : 0 < (toString n).length := by
  rw [Nat.toString_eq_repr, ← String.length_toList, Nat.toList_repr]
  exact Nat.length_toDigits_pos

theorem lt_pow_length (n : Nat) : n < 10 ^ (toString n).length :=
  (length_text_le_iff (length_text_pos n)).mp le_rfl

theorem pow_length_le {n k : Nat} (pos : 0 < n) (length : (toString n).length = k + 1) :
    10 ^ k ≤ n := by
  by_contra less
  rcases Nat.eq_zero_or_pos k with rfl | kpos
  · omega
  · have := (length_text_le_iff kpos).mpr (not_le.mp less)
    omega

/-- A number has at least its leading power of ten. -/
theorem Rounding.leading_le {m : Nat} (q : Int) (pos : 0 < m) :
    (10 : ℚ) ^ (Rounding.of m q).leading ≤ 4 * m * 2 ^ (q - 2) := by
  have under := powerUnder_pos (q - 2) (show 0 < 2 by norm_num)
  have above := powerOver_pos (q - 2) (show 0 < 2 by norm_num)
  have value : (4 * m * 2 ^ (q - 2) : ℚ) =
      ((4 * m * powerOver 2 (q - 2) : ℕ) : ℚ) / powerUnder 2 (q - 2) := by
    have := (fractions (4 * m) 0 (q - 2) 0).1
    push_cast at this ⊢
    exact this
  rw [value, Rounding.of_eq]
  unfold Rounding.leading Rounding.places
  dsimp only
  set v := 4 * m * powerOver 2 (q - 2) with hv
  set u := powerUnder 2 (q - 2)
  have vpos : 0 < v := by positivity
  have upos : (0 : ℚ) < u := by exact_mod_cast under
  split
  · rename_i whole
    obtain ⟨k, places⟩ : ∃ k, (toString (v / u)).length = k + 1 :=
      Nat.exists_eq_succ_of_ne_zero (length_text_pos _).ne'
    have most := pow_length_le (Nat.div_pos (by omega) under) places
    have scaled := (Nat.le_div_iff_mul_le under).mp most
    rw [le_div_iff₀ upos, places]
    push_cast
    rw [add_sub_cancel_right, zpow_natCast]
    exact_mod_cast scaled
  · split
    · rename_i power
      obtain ⟨k, places⟩ : ∃ k, (toString (u / v)).length = k + 1 :=
        Nat.exists_eq_succ_of_ne_zero (length_text_pos _).ne'
      rw [places] at power ⊢
      rw [← power]
      push_cast
      rw [add_sub_cancel_right, zpow_neg, zpow_natCast]
      have : (v : ℚ) ≠ 0 := by positivity
      field_simp
      simp
    · rw [zpow_neg, zpow_natCast, le_div_iff₀ upos]
      have few := (Nat.div_lt_iff_lt_mul vpos).mp (lt_pow_length (u / v))
      have scaled : (u : ℚ) < 10 ^ (toString (u / v)).length * v := by exact_mod_cast few
      rw [inv_mul_le_iff₀ (by positivity)]
      exact scaled.le

theorem shortest_rounds {m : Nat} {q : Int} (form : Canonical m q) (pos : 0 < m) :
    Rounds m q (shortest m q).value := by
  unfold shortest
  dsimp only
  rw [Decimal.trim_value]
  cases found : (List.range 17).findSome? fun (n : Nat) =>
      (Rounding.of m q).onGrid ((Rounding.of m q).leading - (n : Int)) with
  | some d =>
    obtain ⟨n, -, found⟩ := List.exists_of_findSome?_eq_some found
    exact Rounding.onGrid_rounds pos found
  | none =>
    have missed := List.findSome?_eq_none_iff.mp found 16 (by simp)
    have leading := Rounding.leading_le q pos
    have present := Rounding.onGrid_isSome (k := (Rounding.of m q).leading - (16 : Nat)) form pos (by
      rw [zpow_sub₀ (by norm_num), zpow_natCast]
      field_simp
      exact leading)
    rw [missed] at present
    simp at present

end Bindery.Number

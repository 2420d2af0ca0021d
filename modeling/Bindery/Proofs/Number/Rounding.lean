import Bindery.Number.Shortest
import Mathlib.Algebra.Order.Field.Power
import Mathlib.Data.Rat.Cast.Order
import Mathlib.Tactic.FieldSimp
import Mathlib.Tactic.Linarith
import Mathlib.Tactic.Positivity
import Mathlib.Tactic.Ring

/- Doubles in the form that rounding leaves, and the interval of numbers that round to each. An
   interval belongs to one double: no number lies in those of two. -/
namespace Bindery.Number

/-- The form of a double: a full significand, unless the exponent is the least one. -/
structure Canonical (m : Nat) (q : Int) : Prop where
  small : m < 2 ^ 53
  least : Binary64.leastExponent ≤ q
  full : 2 ^ 52 ≤ m ∨ q = Binary64.leastExponent

/-- A double without a sign, which is what a numeral stands for. -/
def Binary64.Unsigned : Binary64 → Prop
  | .finite negative m q => negative = false ∧ Canonical m q
  | .infinite negative => negative = false

/-! ### Rounding a ratio -/

namespace Binary64

theorem scaled_ratio {n d : Nat} (q : Int) (pos : 0 < d) :
    0 < (scaled n d q).2 ∧
      ((scaled n d q).1 : ℚ) / (scaled n d q).2 = n / d * 2 ^ (-q) := by
  have base : (d : ℚ) ≠ 0 := by positivity
  unfold scaled
  split
  · rename_i up
    obtain ⟨k, rfl⟩ := Int.eq_ofNat_of_zero_le up
    refine ⟨by simpa using pos, ?_⟩
    simp
    field_simp
  · rename_i down
    obtain ⟨k, negated⟩ := Int.eq_ofNat_of_zero_le (show 0 ≤ -q by omega)
    refine ⟨pos, ?_⟩
    rw [negated]
    simp
    field_simp

theorem log2_ratio {n d : Nat} (hn : n ≠ 0) (hd : d ≠ 0) :
    (2 : ℚ) ^ ((n.log2 : Int) - d.log2 - 1) < n / d ∧
      (n / d : ℚ) < 2 ^ ((n.log2 : Int) - d.log2 + 1) := by
  have low : ((2 : ℚ) ^ n.log2) ≤ n := by exact_mod_cast Nat.log2_self_le hn
  have high : (n : ℚ) < 2 ^ (n.log2 + 1) := by exact_mod_cast Nat.lt_log2_self
  have low' : ((2 : ℚ) ^ d.log2) ≤ d := by exact_mod_cast Nat.log2_self_le hd
  have high' : (d : ℚ) < 2 ^ (d.log2 + 1) := by exact_mod_cast Nat.lt_log2_self
  have pos : (0 : ℚ) < d := by positivity
  constructor
  · rw [lt_div_iff₀ pos, sub_sub, zpow_sub₀ two_ne_zero]
    calc (2 : ℚ) ^ (n.log2 : Int) / 2 ^ ((d.log2 : Int) + 1) * d
        < 2 ^ (n.log2 : Int) / 2 ^ ((d.log2 : Int) + 1) * 2 ^ (d.log2 + 1) := by gcongr
      _ = 2 ^ n.log2 := by
        rw [show ((d.log2 : Int) + 1) = ((d.log2 + 1 : Nat) : Int) by push_cast; ring]
        simp only [zpow_natCast]
        field_simp
      _ ≤ n := low
  · rw [div_lt_iff₀ pos, sub_add_eq_add_sub, zpow_sub₀ two_ne_zero]
    calc (n : ℚ) < 2 ^ (n.log2 + 1) := high
      _ = 2 ^ ((n.log2 : Int) + 1) / 2 ^ (d.log2 : Int) * 2 ^ d.log2 := by
        rw [show ((n.log2 : Int) + 1) = ((n.log2 + 1 : Nat) : Int) by push_cast; ring]
        simp only [zpow_natCast]
        field_simp
      _ ≤ 2 ^ ((n.log2 : Int) + 1) / 2 ^ (d.log2 : Int) * d := by gcongr

/-- The chosen exponent fills the significand. -/
theorem fullExponent_spec {n d : Nat} (hn : n ≠ 0) (hd : d ≠ 0) :
    (2 : ℚ) ^ 52 ≤ n / d * 2 ^ (-fullExponent n d) ∧
      (n / d * 2 ^ (-fullExponent n d) : ℚ) < 2 ^ 53 := by
  obtain ⟨low, high⟩ := log2_ratio hn hd
  obtain ⟨pos, ratio⟩ := scaled_ratio (n := n) ((n.log2 : Int) - d.log2 - 52) (Nat.pos_of_ne_zero hd)
  have step : ∀ a b : Int, (2 : ℚ) ^ a * 2 ^ b = 2 ^ (a + b) := fun a b => (zpow_add₀ two_ne_zero a b).symm
  set guess : Int := (n.log2 : Int) - d.log2 - 52 with guessed
  have scale : (0 : ℚ) < 2 ^ (-guess) := by positivity
  have low' : (2 : ℚ) ^ 51 < n / d * 2 ^ (-guess) := by
    have := mul_lt_mul_of_pos_right low scale
    rwa [step, show (n.log2 : Int) - d.log2 - 1 + -guess = (51 : Nat) by rw [guessed]; push_cast; ring,
      zpow_natCast] at this
  have high' : (n / d * 2 ^ (-guess) : ℚ) < 2 ^ 53 := by
    have := mul_lt_mul_of_pos_right high scale
    rwa [step, show (n.log2 : Int) - d.log2 + 1 + -guess = (53 : Nat) by rw [guessed]; push_cast; ring,
      zpow_natCast] at this
  have few : ((scaled n d guess).1 < Nat.pow 2 52 * (scaled n d guess).2) ↔
      (n / d * 2 ^ (-guess) : ℚ) < 2 ^ 52 := by
    rw [← ratio, div_lt_iff₀ (by exact_mod_cast pos)]
    exact_mod_cast Iff.rfl
  have unfolded : fullExponent n d =
      if (scaled n d guess).1 < Nat.pow 2 52 * (scaled n d guess).2 then guess - 1 else guess := rfl
  rw [unfolded]
  split
  · rename_i short
    have doubled : (2 : ℚ) ^ (-(guess - 1)) = 2 ^ (-guess) * 2 := by
      rw [neg_sub, sub_eq_neg_add, zpow_add₀ two_ne_zero, zpow_one]
    rw [doubled]
    have := few.mp short
    constructor <;> linarith
  · rename_i long
    exact ⟨not_lt.mp fun short => long (few.mpr short), high'⟩

theorem divNearest_le {n d bound : Nat} (below : n < bound * d) : divNearest n d ≤ bound := by
  have quotient : n / d < bound := Nat.div_lt_of_lt_mul (by rwa [Nat.mul_comm])
  unfold divNearest
  dsimp only
  split <;> [skip; split <;> [skip; split]] <;> omega

theorem le_divNearest {n d bound : Nat} (pos : 0 < d) (above : bound * d ≤ n) :
    bound ≤ divNearest n d := by
  have quotient : bound ≤ n / d := (Nat.le_div_iff_mul_le pos).mpr above
  unfold divNearest
  dsimp only
  split <;> [skip; split <;> [skip; split]] <;> omega

theorem unsigned_zero : (zero false).Unsigned := ⟨rfl, by decide, by decide, .inr rfl⟩

theorem unsigned_ofRatio (n d : Nat) : (ofRatio false n d).Unsigned := by
  unfold ofRatio
  split
  · exact unsigned_zero
  · rename_i nonzero
    simp only [Bool.or_eq_true, decide_eq_true_eq, not_or] at nonzero
    obtain ⟨hn, hd⟩ := nonzero
    obtain ⟨full, fits⟩ := fullExponent_spec hn hd
    set q := max (fullExponent n d) leastExponent with chosen
    obtain ⟨pos, ratio⟩ := scaled_ratio (n := n) q (Nat.pos_of_ne_zero hd)
    have fraction : (0 : ℚ) ≤ n / d := by positivity
    -- a greater exponent only makes the significand smaller
    have small : (scaled n d q).1 < 2 ^ 53 * (scaled n d q).2 := by
      have : ((scaled n d q).1 : ℚ) / (scaled n d q).2 < 2 ^ 53 := by
        rw [ratio]
        refine lt_of_le_of_lt ?_ fits
        have least : -q ≤ -fullExponent n d := by omega
        gcongr
        norm_num
      rw [div_lt_iff₀ (by exact_mod_cast pos)] at this
      exact_mod_cast this
    have large : q = fullExponent n d → 2 ^ 52 * (scaled n d q).2 ≤ (scaled n d q).1 := by
      intro same
      rw [← same, ← ratio, le_div_iff₀ (by exact_mod_cast pos)] at full
      exact_mod_cast full
    have atMost := divNearest_le small
    have atLeast := fun same => le_divNearest pos (large same)
    have least : leastExponent ≤ q := by omega
    have either : q = fullExponent n d ∨ q = leastExponent := by omega
    dsimp only
    generalize divNearest (scaled n d q).1 (scaled n d q).2 = m at atMost atLeast ⊢
    by_cases carry : m = Nat.pow 2 53
    · simp only [carry, if_true]
      split
      · rfl
      · exact ⟨rfl, by decide, by omega, .inl le_rfl⟩
    · simp only [carry, if_false]
      have noCarry : m ≠ 2 ^ 53 := carry
      split
      · rfl
      · refine ⟨rfl, by omega, least, ?_⟩
        rcases either with same | same
        · exact .inl (atLeast same)
        · exact .inr same

theorem unsigned_ofDecimal (digits : Nat) (e : Int) : (ofDecimal false digits e).Unsigned := by
  unfold ofDecimal
  dsimp only
  split
  · exact unsigned_zero
  split
  · exact unsigned_zero
  split
  · rfl
  split <;> exact unsigned_ofRatio _ _

end Binary64

/-! ### The numbers that round to a double -/

/-- How far the interval of a double reaches below it, in quarters of its last place. -/
def quartersBelow (m : Nat) (q : Int) : Nat :=
  if m = 2 ^ 52 ∧ Binary64.leastExponent < q then 1 else 2

/-- The number `x` rounds to m · 2^q. The ends of the interval belong to an even significand. -/
def Rounds (m : Nat) (q : Int) (x : ℚ) : Prop :=
  (4 * m - quartersBelow m q) * 2 ^ (q - 2) ≤ x ∧ x ≤ (4 * m + 2) * 2 ^ (q - 2) ∧
    (m % 2 = 1 → (4 * m - quartersBelow m q) * 2 ^ (q - 2) < x ∧ x < (4 * m + 2) * 2 ^ (q - 2))

theorem quartersBelow_le (m : Nat) (q : Int) : 1 ≤ quartersBelow m q ∧ quartersBelow m q ≤ 2 := by
  unfold quartersBelow
  split <;> omega

/-- Of two doubles with different exponents the lesser one's interval lies below that of the
    other. -/
theorem Rounds.apart_of_exponent {m m' : Nat} {q q' : Int} {x : ℚ} (form : Canonical m q)
    (form' : Canonical m' q') (less : q < q') (rounds : Rounds m q x) : ¬ Rounds m' q' x := by
  intro rounds'
  obtain ⟨-, upper, odd⟩ := rounds
  have unit : (0 : ℚ) < 2 ^ (q - 2) := by positivity
  have full : 2 ^ 52 ≤ m' := by
    have := form.least
    rcases form'.full with full | least
    · exact full
    · omega
  have doubled : 2 * (2 : ℚ) ^ (q - 2) ≤ 2 ^ (q' - 2) := by
    rw [← zpow_one_add₀ two_ne_zero]
    exact zpow_le_zpow_right₀ one_le_two (by omega)
  have high : ((2 ^ 54 - 1 : ℕ) : ℚ) ≤ 4 * m' - quartersBelow m' q' := by
    rw [le_sub_iff_add_le]
    have least := form.least
    have : 2 ^ 54 - 1 + quartersBelow m' q' ≤ 4 * m' := by
      unfold quartersBelow
      split <;> omega
    exact_mod_cast this
  have bound : ((2 ^ 55 - 2 : ℕ) : ℚ) * 2 ^ (q - 2) ≤ x := by
    calc ((2 ^ 55 - 2 : ℕ) : ℚ) * 2 ^ (q - 2)
        = ((2 ^ 54 - 1 : ℕ) : ℚ) * (2 * 2 ^ (q - 2)) := by push_cast; ring
      _ ≤ (4 * m' - quartersBelow m' q') * 2 ^ (q' - 2) := by gcongr
      _ ≤ x := rounds'.1
  have small := form.small
  -- The largest significand is odd, so its interval does not reach the end that it shares.
  rcases Nat.lt_or_ge m (2 ^ 53 - 1) with inner | last
  · have : ((4 * m + 2 : ℕ) : ℚ) < ((2 ^ 55 - 2 : ℕ) : ℚ) := by exact_mod_cast (by omega)
    have := mul_lt_mul_of_pos_right this unit
    push_cast at this bound
    linarith
  · have := (odd (by omega)).2
    have most : ((4 * m + 2 : ℕ) : ℚ) = ((2 ^ 55 - 2 : ℕ) : ℚ) := by exact_mod_cast (by omega)
    push_cast at most bound
    rw [most] at this
    linarith

/-- Of two doubles with one exponent the lesser one's interval lies below that of the other. -/
theorem Rounds.apart_of_significand {m m' : Nat} {q : Int} {x : ℚ} (less : m < m')
    (rounds : Rounds m q x) : ¬ Rounds m' q x := by
  intro rounds'
  obtain ⟨-, upper, odd⟩ := rounds
  obtain ⟨lower, -, odd'⟩ := rounds'
  have unit : (0 : ℚ) < 2 ^ (q - 2) := by positivity
  have two := (quartersBelow_le m' q).2
  have lower' : ((4 * m' - 2 : ℕ) : ℚ) * 2 ^ (q - 2) ≤
      (4 * m' - quartersBelow m' q) * 2 ^ (q - 2) := by
    gcongr
    rw [Nat.cast_sub (by omega)]
    push_cast
    have : (quartersBelow m' q : ℚ) ≤ 2 := by exact_mod_cast two
    linarith
  rcases Nat.lt_or_ge (m + 1) m' with far | next
  · have : ((4 * m + 2 : ℕ) : ℚ) < ((4 * m' - 2 : ℕ) : ℚ) := by exact_mod_cast (by omega)
    have := mul_lt_mul_of_pos_right this unit
    push_cast at this
    linarith
  -- Neighbours may meet at the end of their intervals, where only the even one has it.
  · have reach : ((4 * m + 2 : ℕ) : ℚ) ≤ ((4 * m' - 2 : ℕ) : ℚ) := by exact_mod_cast (by omega)
    have met := mul_le_mul_of_nonneg_right reach unit.le
    push_cast at met
    rcases Nat.mod_two_eq_zero_or_one m with even | isOdd
    · have := (odd' (by omega)).1
      linarith
    · have := (odd isOdd).2
      linarith

theorem Rounds.unique {m m' : Nat} {q q' : Int} {x : ℚ} (form : Canonical m q)
    (form' : Canonical m' q') (rounds : Rounds m q x) (rounds' : Rounds m' q' x) :
    m = m' ∧ q = q' := by
  rcases lt_trichotomy q q' with less | rfl | less
  · exact absurd rounds' (rounds.apart_of_exponent form form' less)
  · rcases lt_trichotomy m m' with less | rfl | less
    · exact absurd rounds' (rounds.apart_of_significand less)
    · exact ⟨rfl, rfl⟩
    · exact absurd rounds (rounds'.apart_of_significand less)
  · exact absurd rounds (rounds'.apart_of_exponent form' form less)

/-! ### Comparing without fractions -/

/-- A power as a fraction of naturals: its numerator and its denominator. -/
def powerOver (b : Nat) (k : Int) : Nat := if 0 ≤ k then Nat.pow b k.toNat else 1

def powerUnder (b : Nat) (k : Int) : Nat := if 0 ≤ k then 1 else Nat.pow b (-k).toNat

section
variable {b : Nat} (k : Int)

theorem powerOver_pos (base : 0 < b) : 0 < powerOver b k := by
  unfold powerOver
  split
  · exact Nat.one_le_pow _ _ base
  · exact Nat.one_pos

theorem powerUnder_pos (base : 0 < b) : 0 < powerUnder b k := by
  unfold powerUnder
  split
  · exact Nat.one_pos
  · exact Nat.one_le_pow _ _ base

theorem zpow_eq_over_under : (b : ℚ) ^ k = powerOver b k / powerUnder b k := by
  unfold powerOver powerUnder
  split
  · rename_i up
    obtain ⟨n, rfl⟩ := Int.eq_ofNat_of_zero_le up
    simp
  · rename_i down
    obtain ⟨n, negated⟩ := Int.eq_ofNat_of_zero_le (show 0 ≤ -k by omega)
    obtain rfl : k = -(n : Int) := by omega
    simp

end

theorem Rounding.of_eq (m : Nat) (q : Int) :
    Rounding.of m q =
      { value := 4 * m * powerOver 2 (q - 2)
        lower := (4 * m - quartersBelow m q) * powerOver 2 (q - 2)
        upper := (4 * m + 2) * powerOver 2 (q - 2)
        unit := powerUnder 2 (q - 2)
        closed := m % 2 = 0 } := by
  simp [Rounding.of, powerOver, powerUnder, quartersBelow]

theorem Rounding.holds_eq (r : Rounding) (d : Nat) (k : Int) :
    r.holds d k =
      if r.closed then
        r.lower * powerUnder 10 k ≤ d * powerOver 10 k * r.unit &&
          d * powerOver 10 k * r.unit ≤ r.upper * powerUnder 10 k
      else
        r.lower * powerUnder 10 k < d * powerOver 10 k * r.unit &&
          d * powerOver 10 k * r.unit < r.upper * powerUnder 10 k := by
  unfold Rounding.holds powerOver powerUnder
  split <;> simp

section
variable (n d : Nat) (p k : Int)

/-- Both sides of a comparison as fractions. -/
theorem fractions : (n : ℚ) * 2 ^ p = ((n * powerOver 2 p : ℕ) : ℚ) / powerUnder 2 p ∧
    (d : ℚ) * 10 ^ k = ((d * powerOver 10 k : ℕ) : ℚ) / powerUnder 10 k ∧
    (0 : ℚ) < powerUnder 2 p ∧ (0 : ℚ) < powerUnder 10 k := by
  have two := zpow_eq_over_under (b := 2) p
  have ten := zpow_eq_over_under (b := 10) k
  push_cast at two ten ⊢
  refine ⟨by rw [two]; ring, by rw [ten]; ring, ?_, ?_⟩
  · exact_mod_cast powerUnder_pos p (by norm_num)
  · exact_mod_cast powerUnder_pos k (by norm_num)

theorem le_decimal_iff : n * powerOver 2 p * powerUnder 10 k ≤ d * powerOver 10 k * powerUnder 2 p ↔
    (n : ℚ) * 2 ^ p ≤ d * 10 ^ k := by
  obtain ⟨left, right, pos, pos'⟩ := fractions n d p k
  rw [left, right, div_le_div_iff₀ pos pos']
  exact_mod_cast Iff.rfl

theorem lt_decimal_iff : n * powerOver 2 p * powerUnder 10 k < d * powerOver 10 k * powerUnder 2 p ↔
    (n : ℚ) * 2 ^ p < d * 10 ^ k := by
  obtain ⟨left, right, pos, pos'⟩ := fractions n d p k
  rw [left, right, div_lt_div_iff₀ pos pos']
  exact_mod_cast Iff.rfl

theorem decimal_le_iff : d * powerOver 10 k * powerUnder 2 p ≤ n * powerOver 2 p * powerUnder 10 k ↔
    (d : ℚ) * 10 ^ k ≤ n * 2 ^ p := by
  rw [← not_lt, lt_decimal_iff, not_lt]

theorem decimal_lt_iff : d * powerOver 10 k * powerUnder 2 p < n * powerOver 2 p * powerUnder 10 k ↔
    (d : ℚ) * 10 ^ k < n * 2 ^ p := by
  rw [← not_le, le_decimal_iff, not_le]

end

theorem Rounding.holds_iff {m : Nat} {q : Int} (pos : 0 < m) (d : Nat) (k : Int) :
    (Rounding.of m q).holds d k = true ↔ Rounds m q (d * 10 ^ k) := by
  have two := (quartersBelow_le m q).2
  have lower : ((4 * m - quartersBelow m q : ℕ) : ℚ) = 4 * m - quartersBelow m q := by
    rw [Nat.cast_sub (by omega)]
    push_cast
    ring
  have upper : ((4 * m + 2 : ℕ) : ℚ) = 4 * m + 2 := by push_cast; ring
  rw [Rounding.holds_eq, Rounding.of_eq]
  unfold Rounds
  rw [← lower, ← upper]
  rcases Nat.mod_two_eq_zero_or_one m with even | odd
  · simp only [even, decide_true, if_true, Bool.and_eq_true, decide_eq_true_eq, le_decimal_iff,
      decimal_le_iff]
    simp
  · simp only [odd, one_ne_zero, decide_false, Bool.false_eq_true, if_false, Bool.and_eq_true,
      decide_eq_true_eq, lt_decimal_iff, decimal_lt_iff, forall_const]
    exact ⟨fun strict => ⟨strict.1.le, strict.2.le, strict⟩, fun all => all.2.2⟩

end Bindery.Number

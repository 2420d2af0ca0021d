import Bindery.Proofs.Number.ShortestDecimal

/- The text of a double spells a decimal that rounds to the double. Texts that are equal spell one
   decimal, so they are the texts of one double. -/
namespace Bindery.Number

/-! ### What a numeral spells -/

/-- The exponent behind the digits of a numeral; none is zero. -/
def exponentValue : List Char → Int
  | 'e' :: '-' :: ds => -(Nat.ofDigitChars 10 ds 0 : Int)
  | 'e' :: _ :: ds => Nat.ofDigitChars 10 ds 0
  | _ => 0

def numeralValue (cs : List Char) : ℚ :=
  let whole := cs.takeWhile Char.isDigit
  match cs.dropWhile Char.isDigit with
  | '.' :: more =>
    let fraction := more.takeWhile Char.isDigit
    Nat.ofDigitChars 10 (whole ++ fraction) 0 *
      10 ^ (exponentValue (more.dropWhile Char.isDigit) - fraction.length)
  | rest => Nat.ofDigitChars 10 whole 0 * 10 ^ exponentValue rest

/-- Nothing that would go on with the digits before it. -/
def EndsDigits (cs : List Char) : Prop := ∀ c ∈ cs.head?, c.isDigit = false

section
variable {ds rest : List Char} (digits : ∀ c ∈ ds, c.isDigit = true) (ends : EndsDigits rest)
include digits ends

theorem takeWhile_digits : (ds ++ rest).takeWhile Char.isDigit = ds := by
  rw [List.takeWhile_append_of_pos digits]
  cases rest with
  | nil => simp
  | cons c cs => simp [ends c (by simp)]

theorem dropWhile_digits : (ds ++ rest).dropWhile Char.isDigit = rest := by
  rw [List.dropWhile_append_of_pos digits]
  cases rest with
  | nil => simp
  | cons c cs => simp [ends c (by simp)]

theorem numeralValue_plain (noPoint : rest.head? ≠ some '.') :
    numeralValue (ds ++ rest) = Nat.ofDigitChars 10 ds 0 * 10 ^ exponentValue rest := by
  unfold numeralValue
  rw [takeWhile_digits digits ends, dropWhile_digits digits ends]
  split
  · simp at noPoint
  · rfl

theorem numeralValue_point {whole : List Char} (front : ∀ c ∈ whole, c.isDigit = true) :
    numeralValue (whole ++ '.' :: (ds ++ rest)) =
      Nat.ofDigitChars 10 (whole ++ ds) 0 * 10 ^ (exponentValue rest - ds.length) := by
  have point : EndsDigits ('.' :: (ds ++ rest)) := by simp [EndsDigits]
  unfold numeralValue
  simp only [takeWhile_digits front point, dropWhile_digits front point,
    takeWhile_digits digits ends, dropWhile_digits digits ends]

end

theorem endsDigits_nil : EndsDigits [] := by simp [EndsDigits]

theorem zero_is_digit : ∀ c ∈ ['0'], c.isDigit = true := by simp

/-! ### What is written -/

theorem zeros_are_digits (n : Nat) : ∀ c ∈ List.replicate n '0', c.isDigit = true := by
  simp +contextual [List.mem_replicate]

theorem ofDigitChars_zeros_before (n : Nat) (ds : List Char) :
    Nat.ofDigitChars 10 (List.replicate n '0' ++ ds) 0 = Nat.ofDigitChars 10 ds 0 := by
  rw [Nat.ofDigitChars_append, Nat.ofDigitChars_replicate_zero, Nat.mul_zero]

theorem ofDigitChars_zeros_behind (n : Nat) (ds : List Char) :
    Nat.ofDigitChars 10 (ds ++ List.replicate n '0') 0 = 10 ^ n * Nat.ofDigitChars 10 ds 0 := by
  rw [Nat.ofDigitChars_append, Nat.ofDigitChars_replicate_zero]

section
variable {ds : List Char} (digits : ∀ c ∈ ds, c.isDigit = true)
include digits

/-- Zeros between the point and the digits. -/
theorem numeralValue_fraction {before : Int} (small : before ≤ 0) :
    numeralValue (['0', '.'] ++ List.replicate (-before).toNat '0' ++ ds) =
      Nat.ofDigitChars 10 ds 0 * 10 ^ (before - ds.length) := by
  have zeros : ∀ c ∈ List.replicate (-before).toNat '0' ++ ds, c.isDigit = true := by
    intro c member
    exact (List.mem_append.mp member).elim (zeros_are_digits _ c) (digits c)
  have read := numeralValue_point zeros endsDigits_nil zero_is_digit
  simp only [List.append_nil, List.cons_append, List.nil_append] at read ⊢
  rw [read]
  have lead : '0' :: (List.replicate (-before).toNat '0' ++ ds) =
      List.replicate ((-before).toNat + 1) '0' ++ ds := rfl
  rw [lead, ofDigitChars_zeros_before]
  congr 2
  simp only [exponentValue, List.length_append, List.length_replicate]
  omega

/-- Zeros behind the digits, and a fraction of zero if the number is to be no integer. -/
theorem numeralValue_padded (n : Nat) (whole : Bool) :
    numeralValue (ds ++ List.replicate n '0' ++ if whole then ['.', '0'] else []) =
      Nat.ofDigitChars 10 ds 0 * 10 ^ n := by
  have zeros : ∀ c ∈ ds ++ List.replicate n '0', c.isDigit = true := by
    intro c member
    exact (List.mem_append.mp member).elim (digits c) (zeros_are_digits _ c)
  cases whole with
  | true =>
    have read := numeralValue_point zero_is_digit endsDigits_nil zeros
    rw [List.append_nil] at read
    simp only [if_true]
    rw [read, Nat.ofDigitChars_append, ofDigitChars_zeros_behind]
    simp [Nat.ofDigitChars_cons, exponentValue]
    ring
  | false =>
    have read := numeralValue_plain zeros endsDigits_nil (by simp)
    simp only [Bool.false_eq_true, if_false]
    rw [read, ofDigitChars_zeros_behind]
    simp [exponentValue]
    ring

/-- A point among the digits. -/
theorem numeralValue_pointed {k : Nat} (within : k ≤ ds.length) :
    numeralValue (ds.take k ++ '.' :: ds.drop k) =
      Nat.ofDigitChars 10 ds 0 * 10 ^ ((k : Int) - ds.length) := by
  have front : ∀ c ∈ ds.take k, c.isDigit = true :=
    fun c member => digits c (List.mem_of_mem_take member)
  have back : ∀ c ∈ ds.drop k, c.isDigit = true :=
    fun c member => digits c (List.mem_of_mem_drop member)
  have read := numeralValue_point back endsDigits_nil front
  rw [List.append_nil] at read
  rw [read, List.take_append_drop]
  congr 2
  simp only [exponentValue, List.length_drop]
  omega

theorem numeralValue_positional (before : Int) (whole : Bool) :
    numeralValue (positional ds before whole) =
      Nat.ofDigitChars 10 ds 0 * 10 ^ (before - ds.length) := by
  unfold positional
  split
  · rename_i small
    exact numeralValue_fraction digits small
  · rename_i large
    have count : (before.toNat : Int) = before := Int.toNat_of_nonneg (by omega)
    dsimp only
    split
    · rw [numeralValue_padded digits, ← zpow_natCast]
      congr 2
      omega
    · rw [numeralValue_pointed digits (by omega), count]

end

theorem exponentValue_signed (e : Int) :
    exponentValue ('e' :: (if e < 0 then '-' else '+') ::
      (if (toString e.natAbs).toList.length < 2 then '0' :: (toString e.natAbs).toList
        else (toString e.natAbs).toList)) = e := by
  have size : Nat.ofDigitChars 10 (if (toString e.natAbs).toList.length < 2
      then '0' :: (toString e.natAbs).toList else (toString e.natAbs).toList) 0 = e.natAbs := by
    have text : Nat.ofDigitChars 10 (toString e.natAbs).toList 0 = e.natAbs := by
      rw [Nat.toString_eq_repr, Nat.toList_repr, Nat.ofDigitChars_toDigits (by norm_num) le_rfl]
    split
    · rw [Nat.ofDigitChars_cons]
      exact text
    · exact text
  split
  · simp only [exponentValue, size]
    omega
  · change (Nat.ofDigitChars 10 _ 0 : Int) = e
    rw [size]
    omega

theorem numeralValue_scientific {ds : List Char} (digits : ∀ c ∈ ds, c.isDigit = true)
    (some : ds ≠ []) (e : Int) :
    numeralValue (scientific ds e) = Nat.ofDigitChars 10 ds 0 * 10 ^ (e + 1 - ds.length) := by
  have ends : ∀ tail, EndsDigits ('e' :: tail) := fun tail => by simp [EndsDigits]
  unfold scientific
  dsimp only
  obtain ⟨d, rest, rfl⟩ := List.exists_cons_of_ne_nil some
  cases rest with
  | nil =>
    rw [numeralValue_plain digits (ends _) (by simp), exponentValue_signed]
    simp
  | cons d' more =>
    have front : ∀ c ∈ [d], c.isDigit = true := fun c member => digits c (by simp_all)
    have back : ∀ c ∈ d' :: more, c.isDigit = true :=
      fun c member => digits c (List.mem_cons_of_mem d member)
    have read := fun tail => numeralValue_point back (ends tail) front
    simp only [List.cons_append, List.nil_append] at read ⊢
    rw [read, exponentValue_signed]
    congr 2
    simp only [List.length_cons]
    push_cast
    ring

/-! ### Texts of doubles -/

section
variable (m : Nat) (q : Int)

theorem digits_of_shortest :
    (toString (shortest m q).digits).toList = Nat.toDigits 10 (shortest m q).digits := by
  rw [Nat.toString_eq_repr, Nat.toList_repr]

theorem numeralValue_magnitudeText {negative : Bool} (whole : Bool) (nonzero : m ≠ 0) :
    numeralValue (magnitudeText (.finite negative m q) whole) = (shortest m q).value := by
  have digits : ∀ c ∈ Nat.toDigits 10 (shortest m q).digits, c.isDigit = true :=
    fun c member => Nat.isDigit_of_mem_toDigits (by norm_num) le_rfl member
  have some : Nat.toDigits 10 (shortest m q).digits ≠ [] :=
    List.ne_nil_of_length_pos Nat.length_toDigits_pos
  have read := Nat.ofDigitChars_toDigits (b := 10) (n := (shortest m q).digits) (by norm_num) le_rfl
  unfold magnitudeText
  simp only [nonzero, if_false, digits_of_shortest]
  unfold Decimal.value
  split
  · rw [numeralValue_positional digits, read]
    congr 2
    ring
  · rw [numeralValue_scientific digits some, read]
    congr 2
    ring

end

theorem Rounds.pos {m : Nat} {q : Int} {x : ℚ} (nonzero : m ≠ 0) (rounds : Rounds m q x) :
    0 < x := by
  have unit : (0 : ℚ) < 2 ^ (q - 2) := by positivity
  have two : (quartersBelow m q : ℚ) ≤ 2 := by exact_mod_cast (quartersBelow_le m q).2
  have one : (1 : ℚ) ≤ m := by exact_mod_cast Nat.pos_of_ne_zero nonzero
  exact lt_of_lt_of_le (mul_pos (by linarith) unit) rounds.1

theorem Canonical.zero {q : Int} (form : Canonical 0 q) : q = Binary64.leastExponent := by
  rcases form.full with full | least
  · simp at full
  · exact least

theorem numeralValue_zero {negative : Bool} {q : Int} (whole : Bool) :
    numeralValue (magnitudeText (.finite negative 0 q) whole) = 0 := by
  cases whole with
  | true =>
    have read := numeralValue_point zero_is_digit endsDigits_nil zero_is_digit
    simpa [magnitudeText, Nat.ofDigitChars_cons] using read
  | false =>
    have read := numeralValue_plain zero_is_digit endsDigits_nil (by simp)
    simpa [magnitudeText, Nat.ofDigitChars_cons] using read

/-- What stands between the digits of a numeral. -/
def numeralMarks : List Char := ['.', 'e', '+', '-']

section
variable {ds : List Char} (digits : ∀ c ∈ ds, c.isDigit = true)
include digits

theorem positional_chars (before : Int) (whole : Bool) :
    ∀ c ∈ positional ds before whole, c.isDigit = true ∨ c ∈ numeralMarks := by
  intro c member
  unfold positional at member
  split at member
  · simp only [List.cons_append, List.nil_append, List.mem_cons, List.mem_append] at member
    rcases member with rfl | rfl | zero | digit
    · exact .inl (by decide)
    · exact .inr (by decide)
    · exact .inl (zeros_are_digits _ c zero)
    · exact .inl (digits c digit)
  · dsimp only at member
    split at member
    · simp only [List.mem_append] at member
      rcases member with (digit | zero) | tail
      · exact .inl (digits c digit)
      · exact .inl (zeros_are_digits _ c zero)
      · cases whole <;> simp at tail
        rcases tail with rfl | rfl
        · exact .inr (by decide)
        · exact .inl (by decide)
    · simp only [List.mem_append, List.mem_cons] at member
      rcases member with front | rfl | back
      · exact .inl (digits c (List.mem_of_mem_take front))
      · exact .inr (by decide)
      · exact .inl (digits c (List.mem_of_mem_drop back))

theorem scientific_chars (e : Int) :
    ∀ c ∈ scientific ds e, c.isDigit = true ∨ c ∈ numeralMarks := by
  have size : ∀ c ∈ (if (toString e.natAbs).toList.length < 2 then '0' :: (toString e.natAbs).toList
      else (toString e.natAbs).toList), c.isDigit = true := by
    have text : ∀ c ∈ (toString e.natAbs).toList, c.isDigit = true := by
      rw [Nat.toString_eq_repr, Nat.toList_repr]
      exact fun c member => Nat.isDigit_of_mem_toDigits (by norm_num) le_rfl member
    intro c member
    split at member
    · exact (List.mem_cons.mp member).elim (fun zero => zero ▸ by decide) (text c)
    · exact text c member
  intro c member
  unfold scientific at member
  dsimp only at member
  rw [List.mem_append, List.mem_cons, List.mem_cons] at member
  rcases member with front | rfl | sign | back
  · split at front
    · exact .inl (by simp_all)
    · exact .inl (digits c (by simp_all))
    · simp only [List.mem_cons] at front
      rcases front with rfl | rfl | later
      · exact .inl (digits c (by simp))
      · exact .inr (by decide)
      · exact .inl (digits c (by simp [later]))
  · exact .inr (by decide)
  · split at sign <;> exact .inr (sign ▸ by decide)
  · exact .inl (size c back)

end

theorem positional_point (ds : List Char) (before : Int) : '.' ∈ positional ds before true := by
  unfold positional
  split
  · simp
  · dsimp only
    split <;> simp

theorem scientific_e (ds : List Char) (e : Int) : 'e' ∈ scientific ds e := by
  simp [scientific]

theorem magnitudeText_infinite (negative whole : Bool) :
    magnitudeText (.infinite negative) whole = ['i', 'n', 'f'] := by
  simp [magnitudeText]

theorem magnitudeText_chars_finite (negative : Bool) (m : Nat) (q : Int) (whole : Bool) :
    ∀ c ∈ magnitudeText (.finite negative m q) whole, c.isDigit = true ∨ c ∈ numeralMarks := by
  have digits : ∀ c ∈ (toString (shortest m q).digits).toList, c.isDigit = true := by
    rw [digits_of_shortest]
    exact fun c member => Nat.isDigit_of_mem_toDigits (by norm_num) le_rfl member
  unfold magnitudeText
  dsimp only
  split
  · cases whole <;> simp [numeralMarks]
  · split
    · exact positional_chars digits _ _
    · exact scientific_chars digits _

/-- A text has digits, marks between them and the letters of the word for infinity. -/
theorem magnitudeText_chars (x : Binary64) (whole : Bool) :
    ∀ c ∈ magnitudeText x whole, c.isDigit = true ∨ c ∈ numeralMarks ++ ['i', 'n', 'f'] := by
  cases x with
  | infinite negative =>
    rw [magnitudeText_infinite]
    simp
  | finite negative m q =>
    exact fun c member => (magnitudeText_chars_finite negative m q whole c member).imp_right
      (List.mem_append_left _)

/-- The text of a number with a point or an exponent is not that of an integer. -/
theorem magnitudeText_mark (x : Binary64) : ∃ c ∈ magnitudeText x true, c.isDigit = false := by
  cases x with
  | infinite negative => exact ⟨'i', by simp [magnitudeText_infinite], by decide⟩
  | finite negative m q =>
    unfold magnitudeText
    dsimp only
    split
    · exact ⟨'.', by decide, by decide⟩
    · split
      · exact ⟨'.', positional_point _ _, by decide⟩
      · exact ⟨'e', scientific_e _ _, by decide⟩

theorem magnitudeText_finite_ne_infinite {negative negative' : Bool} {m : Nat} {q : Int}
    {whole : Bool} :
    magnitudeText (.finite negative m q) whole ≠ magnitudeText (.infinite negative') whole := by
  intro same
  rw [magnitudeText_infinite] at same
  have letter : 'i' ∈ magnitudeText (.finite negative m q) whole := by simp [same]
  rcases magnitudeText_chars_finite negative m q whole 'i' letter with digit | mark
  · exact absurd digit (by decide)
  · exact absurd mark (by decide)

/-- Equal texts are of one number. -/
theorem magnitudeText_injective {x y : Binary64} {whole : Bool} (form : x.Unsigned)
    (form' : y.Unsigned) (same : magnitudeText x whole = magnitudeText y whole) : x = y := by
  match x, y, form, form' with
  | .infinite _, .infinite _, rfl, rfl => rfl
  | .finite _ _ _, .infinite _, _, _ => exact absurd same magnitudeText_finite_ne_infinite
  | .infinite _, .finite _ _ _, _, _ => exact absurd same.symm magnitudeText_finite_ne_infinite
  | .finite _ m q, .finite _ m' q', ⟨rfl, form⟩, ⟨rfl, form'⟩ =>
    have spelled := congrArg numeralValue same
    by_cases zero : m = 0
    · by_cases zero' : m' = 0
      · subst zero zero'
        rw [form.zero, form'.zero]
      · subst zero
        rw [numeralValue_zero, numeralValue_magnitudeText m' q' whole zero'] at spelled
        have := (shortest_rounds form' (Nat.pos_of_ne_zero zero')).pos zero'
        exact absurd spelled this.ne
    · have rounds := shortest_rounds form (Nat.pos_of_ne_zero zero)
      by_cases zero' : m' = 0
      · subst zero'
        rw [numeralValue_zero, numeralValue_magnitudeText m q whole zero] at spelled
        exact absurd spelled (rounds.pos zero).ne'
      · have rounds' := shortest_rounds form' (Nat.pos_of_ne_zero zero')
        rw [numeralValue_magnitudeText m q whole zero,
          numeralValue_magnitudeText m' q' whole zero'] at spelled
        rw [spelled] at rounds
        obtain ⟨rfl, rfl⟩ := rounds.unique form form' rounds'
        rfl

theorem Binary64.toList_text {x : Binary64} (form : x.Unsigned) :
    x.text.toList = magnitudeText x true := by
  have sign : x.negative = false := by
    cases x with
    | finite => exact form.1
    | infinite => exact form
  simp [Binary64.text, sign]

theorem Binary64.toList_imaginaryText {x : Binary64} (form : x.Unsigned) :
    x.imaginaryText.toList = magnitudeText x false ++ ['j'] := by
  have sign : x.negative = false := by
    cases x with
    | finite => exact form.1
    | infinite => exact form
  simp [Binary64.imaginaryText, sign]

theorem Binary64.text_injective {x y : Binary64} (form : x.Unsigned) (form' : y.Unsigned)
    (same : x.text = y.text) : x = y := by
  have chars := congrArg String.toList same
  rw [toList_text form, toList_text form'] at chars
  exact magnitudeText_injective form form' chars

theorem Binary64.imaginaryText_injective {x y : Binary64} (form : x.Unsigned) (form' : y.Unsigned)
    (same : x.imaginaryText = y.imaginaryText) : x = y := by
  have chars := congrArg String.toList same
  rw [toList_imaginaryText form, toList_imaginaryText form'] at chars
  exact magnitudeText_injective form form' (List.append_cancel_right chars)

end Bindery.Number

import Bindery.Json.Reader
import Bindery.Proofs.Number.NumeralTexts

/- Reading undoes writing, for the values that contain no others. A quoted text is read one escape at
   a time; a number is read up to a character that cannot go on with it. -/
namespace Bindery.Json

/-! ### Quoted texts -/

/-- What is read from the rest of a text, behind one more character. -/
def behind (c : Char) (found : List Char × List Char) : List Char × List Char := (c :: found.1, found.2)

/-- The three forms of a character: short, numeric, and its own. -/
theorem escape_cases (c : Char) :
    (∃ x, x ≠ 'u' ∧ shortEscape? x = some c ∧ escape c = ['\\', x]) ∨
    (c.toNat < 32 ∧ escape c = '\\' :: 'u' :: Text.hexDigits 4 c.toNat) ∨
    (32 ≤ c.toNat ∧ c ≠ '"' ∧ c ≠ '\\' ∧ escape c = [c]) := by
  unfold escape
  split
  · exact .inl ⟨_, by decide, rfl, rfl⟩
  · exact .inl ⟨_, by decide, rfl, rfl⟩
  · exact .inl ⟨_, by decide, rfl, rfl⟩
  · exact .inl ⟨_, by decide, rfl, rfl⟩
  · exact .inl ⟨_, by decide, rfl, rfl⟩
  · exact .inl ⟨_, by decide, rfl, rfl⟩
  · exact .inl ⟨_, by decide, rfl, rfl⟩
  · rename_i notQuote notBackslash _ _ _ _ _
    split
    · rename_i control
      exact .inr (.inl ⟨control, rfl⟩)
    · rename_i plain
      exact .inr (.inr ⟨by omega, notQuote, notBackslash, rfl⟩)

theorem text?_quote (rest : List Char) : text? ('"' :: rest) = some ([], rest) := by
  simp [text?]

theorem text?_short {x c : Char} (other : x ≠ 'u') (short : shortEscape? x = some c) (cs : List Char) :
    text? ('\\' :: x :: cs) = (text? cs).map (behind c) := by
  rw [text?.eq_5 x cs (fun _ _ _ _ _ _ _ _ _ same => absurd same other)
    (fun _ _ _ _ _ same => absurd same other), short]
  cases text? cs <;> rfl

theorem text?_plain {c : Char} (printed : 32 ≤ c.toNat) (notQuote : c ≠ '"') (notBackslash : c ≠ '\\')
    (cs : List Char) : text? (c :: cs) = (text? cs).map (behind c) := by
  rw [text?.eq_6 c cs notQuote (fun _ _ _ _ _ _ _ _ _ same => absurd same notBackslash)
    (fun _ _ _ _ _ same => absurd same notBackslash) (fun _ _ same => absurd same notBackslash),
    if_neg (by simp [notBackslash]; omega)]
  cases text? cs <;> rfl

/-- Below the surrogates, a numeric escape is a character, also when another one follows. -/
theorem text?_unit {a b c d : Char} {n : Nat} (unit : unit? a b c d = some n) (low : n < 0xd800)
    (cs : List Char) :
    text? ('\\' :: 'u' :: a :: b :: c :: d :: cs) = (text? cs).map (behind (Char.ofNat n)) := by
  rw [text?.eq_def]
  split
  case h_3 same =>
    cases same
    simp only [unit, Option.bind_eq_bind, Option.bind_some]
    rw [if_neg (by simp; omega), if_neg (by simp; omega)]
    cases text? _ <;> rfl
  case h_4 same =>
    cases same
    simp only [unit, Option.bind_eq_bind, Option.bind_some]
    rw [if_neg (by simp; omega)]
    cases text? cs <;> rfl
  case h_5 other same =>
    cases same
    exact absurd rfl (other _ _ _ _ _ rfl)
  case h_6 other same =>
    cases same
    exact absurd rfl (other _ _ rfl)
  all_goals cases ‹_ = _›

theorem hexValue?_hexChar {n : Nat} (small : n < 16) : hexValue? (Text.hexChar n) = some n := by
  revert n
  decide

/-- Four hexadecimal digits are read as the number that they were written for. -/
theorem unit?_hexDigits {n : Nat} (room : n < 65536) : ∃ a b c d, Text.hexDigits 4 n = [a, b, c, d] ∧
    unit? a b c d = some n := by
  refine ⟨_, _, _, _, rfl, ?_⟩
  simp only [unit?, hexValue?_hexChar (Nat.mod_lt _ (by decide : 16 > 0)), Option.bind_eq_bind,
    Option.bind_some]
  exact congrArg some (by omega)

theorem text?_escape (c : Char) (cs : List Char) : text? (escape c ++ cs) = (text? cs).map (behind c) := by
  rcases escape_cases c with
    ⟨x, other, short, form⟩ | ⟨control, form⟩ | ⟨printed, notQuote, notBackslash, form⟩
  · rw [form]
    exact text?_short other short cs
  · obtain ⟨a, b, d, e, digits, unit⟩ := unit?_hexDigits (n := c.toNat) (by omega)
    rw [form, digits, ← Char.ofNat_toNat c]
    simpa using text?_unit unit (by omega) cs
  · rw [form]
    exact text?_plain printed notQuote notBackslash cs

/-- A quoted text is read back up to its last quote, whatever follows. -/
theorem text?_quoted (cs rest : List Char) : text? (cs.flatMap escape ++ '"' :: rest) = some (cs, rest) := by
  induction cs with
  | nil => exact text?_quote rest
  | cons c cs ih =>
    rw [List.flatMap_cons, List.append_assoc, text?_escape, ih]
    rfl

/-! ### Numbers -/

/-- What may stand behind a value: nothing, or a mark that parts or closes. -/
def Follows (rest : List Char) : Prop := ∀ c ∈ rest.head?, c = ',' ∨ c = ']' ∨ c = '\x7d'

/-- The integers of a word of 64 bits, with or without sign. -/
def IsWord (n : Int) : Prop := -(2 ^ 63 : Int) ≤ n ∧ n < 2 ^ 64

theorem isDigit_eq : isDigit = Char.isDigit := by
  funext c
  rfl

theorem digitsValue_eq (ds : List Char) : digitsValue ds = Nat.ofDigitChars 10 ds 0 := by
  unfold digitsValue Nat.ofDigitChars
  congr 1
  funext n c
  rw [Nat.mul_comm]

/-- A number has no leading zero. -/
theorem head?_toDigits {n : Nat} (pos : 0 < n) : (Nat.toDigits 10 n).head? ≠ some '0' := by
  induction n using Nat.strongRecOn with
  | ind n ih =>
    by_cases small : n < 10
    · rw [Nat.toDigits_of_lt_base small, List.head?_cons]
      exact (by decide : ∀ m < 10, 0 < m → some (Nat.digitChar m) ≠ some '0') n small pos
    · rw [Nat.toDigits_of_base_le (by decide) (by omega),
        List.head?_append_of_ne_nil _ Nat.toDigits_ne_nil]
      exact ih (n / 10) (by omega) (by omega)

/-- What is read of the digits of a number, with its sign before them. -/
structure Spelled (n : Nat) (ds : List Char) : Prop where
  some_ : ds ≠ []
  digits : ∀ c ∈ ds, isDigit c = true
  value : digitsValue ds = n
  noZero : ¬ (ds.head? = some '0' ∧ 1 < ds.length)

theorem spelled_toDigits (n : Nat) : Spelled n (Nat.toDigits 10 n) where
  some_ := Nat.toDigits_ne_nil
  digits c member := by
    rw [isDigit_eq]
    exact Nat.isDigit_of_mem_toDigits (by decide) (by decide) member
  value := by rw [digitsValue_eq, Nat.ofDigitChars_ten_toDigits]
  noZero := by
    rintro ⟨zero, long⟩
    rcases Nat.eq_zero_or_pos n with rfl | pos
    · simp [Nat.toDigits_zero] at long
    · exact head?_toDigits pos zero

theorem digits_append {ds rest : List Char} (all : ∀ c ∈ ds, isDigit c = true) (follows : Follows rest) :
    digits (ds ++ rest) = (ds, rest) := by
  have ends : Number.EndsDigits rest := by
    intro c first
    rcases follows c first with rfl | rfl | rfl <;> rfl
  rw [isDigit_eq] at all
  rw [digits, isDigit_eq, Number.takeWhile_digits all ends, Number.dropWhile_digits all ends]

theorem fraction?_follows {rest : List Char} (follows : Follows rest) : fraction? rest = some (none, rest) := by
  unfold fraction?
  split
  · simp [Follows] at follows
  · rfl

theorem exponent?_follows {rest : List Char} (follows : Follows rest) : exponent? rest = some (none, rest) := by
  cases rest with
  | nil => rfl
  | cons c rest =>
    rcases follows c rfl with rfl | rfl | rfl <;> rfl

theorem toList_toString (n : Int) : (toString n).toList =
    if n < 0 then '-' :: Nat.toDigits 10 n.natAbs else Nat.toDigits 10 n.natAbs := by
  cases n with
  | ofNat m => simp [toString, Int.repr, Nat.toList_repr]
  | negSucc m => simp [toString, Int.repr, Nat.toList_repr, Int.negSucc_lt_zero, Int.natAbs_negSucc]

/-- Digits are read as their number, under the sign that was read before. -/
theorem number?_digits (minus : Bool) {n : Nat} {ds rest : List Char} (spelled : Spelled n ds)
    (word : isWithinWord minus n = true) (follows : Follows rest) :
    number? (if minus then '-' :: (ds ++ rest) else ds ++ rest) =
      some (.integer (if minus then -(n : Int) else n), rest) := by
  obtain ⟨some_, all, value, noZero⟩ := spelled
  have notMinus : ∀ more, ds ++ rest ≠ '-' :: more := by
    obtain ⟨c, cs, rfl⟩ := List.exists_cons_of_ne_nil some_
    rintro more same
    obtain rfl : c = '-' := (List.cons.inj same).1
    exact absurd (all '-' (by simp)) (by decide)
  have whole : numberOf? minus ds none none = some (.integer (if minus then -(n : Int) else n)) := by
    simp [numberOf?, value, word]
  have proper : ¬ ((ds.isEmpty || (decide (ds.head? = some '0') && decide (1 < ds.length))) = true) := by
    simpa [some_] using noZero
  cases minus with
  | true =>
    simp only [number?, if_true, digits_append all follows, fraction?_follows follows,
      exponent?_follows follows, Option.bind_eq_bind, Option.bind_some]
    rw [if_neg proper, whole]
    rfl
  | false =>
    unfold number?
    split
    rename_i sign behind same
    split at same
    · rename_i more dash
      exact absurd dash (notMinus more)
    · cases same
      simp only [Bool.false_eq_true, if_false, digits_append all follows, fraction?_follows follows,
        exponent?_follows follows, Option.bind_eq_bind, Option.bind_some]
      rw [if_neg proper, whole]
      rfl

/-- The text of an integer within a word is read back. -/
theorem number?_text {n : Int} (word : IsWord n) {rest : List Char} (follows : Follows rest) :
    number? ((toString n).toList ++ rest) = some (.integer n, rest) := by
  obtain ⟨least, most⟩ := word
  rw [toList_toString]
  split
  · have within : isWithinWord true n.natAbs = true := by
      simp [isWithinWord]
      omega
    have read := number?_digits true (spelled_toDigits n.natAbs) within follows
    simp only [if_true] at read
    rw [List.cons_append, read, show -(n.natAbs : Int) = n by omega]
  · have within : isWithinWord false n.natAbs = true := by
      simp [isWithinWord]
      omega
    have read := number?_digits false (spelled_toDigits n.natAbs) within follows
    simp only [Bool.false_eq_true, if_false] at read
    rw [read, show (n.natAbs : Int) = n by omega]

/-- The text of an integer begins with a digit, or with the sign before one. -/
theorem toString_begins (n : Int) :
    ∃ c cs, (toString n).toList = c :: cs ∧ (c = '-' ∨ isDigit c = true) := by
  obtain ⟨some_, all, -, -⟩ := spelled_toDigits n.natAbs
  obtain ⟨c, cs, parts⟩ := List.exists_cons_of_ne_nil some_
  rw [toList_toString]
  split
  · exact ⟨'-', _, rfl, .inl rfl⟩
  · exact ⟨c, cs, parts, .inr (all c (by simp [parts]))⟩

theorem isDigit_ne {c d : Char} (digit : isDigit c = true) (other : isDigit d = false) : c ≠ d := by
  rintro rfl
  simp [digit] at other

/-- What begins as a number is read as one. -/
theorem atom?_number {c : Char} (begins : c = '-' ∨ isDigit c = true) (cs : List Char) :
    atom? (c :: cs) = number? (c :: cs) := by
  have other : ∀ d, d ≠ '-' → isDigit d = false → c ≠ d := by
    intro d notMinus notDigit
    rcases begins with rfl | digit
    · exact notMinus.symm
    · exact isDigit_ne digit notDigit
  unfold atom?
  split
  · rename_i same
    exact absurd (List.cons.inj same).1 (other _ (by decide) (by decide))
  · rename_i same
    exact absurd (List.cons.inj same).1 (other _ (by decide) (by decide))
  · rename_i same
    exact absurd (List.cons.inj same).1 (other _ (by decide) (by decide))
  · rename_i same
    exact absurd (List.cons.inj same).1 (other _ (by decide) (by decide))
  · rfl

end Bindery.Json

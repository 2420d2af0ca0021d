import Mathlib.Tactic.SplitIfs
import Bindery.Proofs.Outcomes
import Bindery.Text.Utf8

/- Reading UTF-8 undoes writing it, and writing it undoes reading it. The bytes of a character are told
   from its code point by division, and put together again by multiplication; the first of them tells
   how many there are. -/
namespace Bindery.Text.Utf8

theorem next_one {a : Nat} {rest : List Nat} (lead : a < 0x80) : next a rest = .char (Char.ofNat a) 1 := by
  simp [next, lead]

theorem next_two {a b : Nat} {rest : List Nat} (least : 0xc2 ≤ a) (most : a < 0xe0)
    (second : 0x80 ≤ b ∧ b < 0xc0) :
    next a (b :: rest) = .char (Char.ofNat ((a - 0xc0) * 64 + (b - 0x80))) 2 := by
  have fits : secondFits a b = true := by
    simp only [secondFits, isContinuation, second, decide_true, Bool.and_self, Bool.true_and]
    split_ifs <;> simp <;> omega
  simp only [next, fits]
  rw [if_neg (by omega), if_neg (by simp; omega), if_neg (by simp), if_pos most]

theorem next_three {a b c : Nat} {rest : List Nat} (least : 0xe0 ≤ a) (most : a < 0xf0)
    (second : 0x80 ≤ b ∧ b < 0xc0) (overlong : a = 0xe0 → 0xa0 ≤ b) (surrogate : a = 0xed → b < 0xa0)
    (third : 0x80 ≤ c ∧ c < 0xc0) :
    next a (b :: c :: rest) =
      .char (Char.ofNat ((a - 0xe0) * 4096 + (b - 0x80) * 64 + (c - 0x80))) 3 := by
  have fits : secondFits a b = true := by
    simp only [secondFits, isContinuation, second, decide_true, Bool.and_self, Bool.true_and]
    split_ifs <;> simp <;> omega
  simp only [next, fits, isContinuation, third]
  rw [if_neg (by omega), if_neg (by simp; omega), if_neg (by simp), if_neg (by omega),
    if_neg (by simp), if_pos most]

theorem next_four {a b c d : Nat} {rest : List Nat} (least : 0xf0 ≤ a) (most : a ≤ 0xf4)
    (second : 0x80 ≤ b ∧ b < 0xc0) (overlong : a = 0xf0 → 0x90 ≤ b) (last : a = 0xf4 → b < 0x90)
    (third : 0x80 ≤ c ∧ c < 0xc0) (fourth : 0x80 ≤ d ∧ d < 0xc0) :
    next a (b :: c :: d :: rest) = .char (Char.ofNat
      ((a - 0xf0) * 262144 + (b - 0x80) * 4096 + (c - 0x80) * 64 + (d - 0x80))) 4 := by
  have fits : secondFits a b = true := by
    simp only [secondFits, isContinuation, second, decide_true, Bool.and_self, Bool.true_and]
    split_ifs <;> simp <;> omega
  simp only [next, fits, isContinuation, third, fourth]
  rw [if_neg (by omega), if_neg (by simp; omega), if_neg (by simp), if_neg (by omega),
    if_neg (by simp), if_neg (by omega), if_neg (by simp)]

/-- The bytes of a character are read as that character, whatever follows. -/
theorem next_encodeChar (c : Char) : ∃ a more, String.utf8EncodeChar c = a :: more ∧
    ∀ rest : List UInt8, next a.toNat (((more ++ rest).take 3).map UInt8.toNat) =
      .char c (more.length + 1) := by
  have back : Char.ofNat c.val.toNat = c := Char.ofNat_toNat c
  have valid : c.val.toNat < 0xd800 ∨ 0xdfff < c.val.toNat ∧ c.val.toNat < 0x110000 := c.valid
  have byte : ∀ x, x < 256 → (UInt8.ofNat x).toNat = x := fun x small => UInt8.toNat_ofNat_of_lt' small
  unfold String.utf8EncodeChar
  generalize c.val.toNat = v at back valid
  dsimp only
  split_ifs with one two three
  · refine ⟨_, _, rfl, fun rest => ?_⟩
    rw [byte v (by omega), next_one (by omega), back]
    rfl
  · refine ⟨_, _, rfl, fun rest => ?_⟩
    simp only [List.cons_append, List.take_succ_cons, List.map_cons]
    rw [byte _ (by omega), byte _ (by omega), next_two (by omega) (by omega) (by omega),
      show (v / 64 % 0x20 + 0xc0 - 0xc0) * 64 + (v % 0x40 + 0x80 - 0x80) = v by omega, back]
    rfl
  · refine ⟨_, _, rfl, fun rest => ?_⟩
    simp only [List.cons_append, List.take_succ_cons, List.map_cons]
    rw [byte _ (by omega), byte _ (by omega), byte _ (by omega),
      next_three (by omega) (by omega) (by omega) (by omega) (by omega) (by omega),
      show (v / 4096 % 0x10 + 0xe0 - 0xe0) * 4096 + (v / 64 % 0x40 + 0x80 - 0x80) * 64 +
        (v % 0x40 + 0x80 - 0x80) = v by omega, back]
    rfl
  · refine ⟨_, _, rfl, fun rest => ?_⟩
    simp only [List.cons_append, List.take_succ_cons, List.map_cons]
    rw [byte _ (by omega), byte _ (by omega), byte _ (by omega), byte _ (by omega),
      next_four (by omega) (by omega) (by omega) (by omega) (by omega) (by omega) (by omega),
      show (v / 262144 % 0x08 + 0xf0 - 0xf0) * 262144 + (v / 4096 % 0x40 + 0x80 - 0x80) * 4096 +
        (v / 64 % 0x40 + 0x80 - 0x80) * 64 + (v % 0x40 + 0x80 - 0x80) = v by omega, back]
    rfl

/-- Bytes that belong to the character before are passed over. -/
theorem decodeFrom_skip (pos : Nat) (more rest : List UInt8) :
    decodeFrom pos more.length (more ++ rest) = decodeFrom (pos + more.length) 0 rest := by
  induction more generalizing pos with
  | nil => rfl
  | cons b more ih => rw [List.cons_append, List.length_cons, decodeFrom, ih, Nat.add_right_comm, Nat.add_assoc]

theorem decodeFrom_encode (pos : Nat) (cs : List Char) : decodeFrom pos 0 (encode cs) = .ok cs := by
  induction cs generalizing pos with
  | nil => rfl
  | cons c cs ih =>
    obtain ⟨a, more, bytes, read⟩ := next_encodeChar c
    rw [encode, List.flatMap_cons, bytes, List.cons_append, decodeFrom, read]
    simp only [Nat.add_sub_cancel]
    rw [decodeFrom_skip]
    exact congrArg (· >>= fun cs => pure (c :: cs)) (ih _)

/-- Text that is written is read back. -/
theorem decode_encode (cs : List Char) : decode (encode cs) = .ok cs := decodeFrom_encode 0 cs

/-! ### Bytes from their text -/

theorem encodeChar_ofNat {v : Nat} (valid : v < 0xd800 ∨ 0xdfff < v ∧ v < 0x110000) :
    String.utf8EncodeChar (Char.ofNat v) =
      if v ≤ 127 then [UInt8.ofNat v]
      else if v ≤ 2047 then [UInt8.ofNat (v / 64 % 32 + 192), UInt8.ofNat (v % 64 + 128)]
      else if v ≤ 65535 then
        [UInt8.ofNat (v / 4096 % 16 + 224), UInt8.ofNat (v / 64 % 64 + 128), UInt8.ofNat (v % 64 + 128)]
      else [UInt8.ofNat (v / 262144 % 8 + 240), UInt8.ofNat (v / 4096 % 64 + 128),
        UInt8.ofNat (v / 64 % 64 + 128), UInt8.ofNat (v % 64 + 128)] := by
  have isValid : v.isValidChar := valid
  have back : (Char.ofNat v).val.toNat = v := by
    rw [Char.ofNat, dif_pos isValid]
    rfl
  rw [String.utf8EncodeChar, back]

theorem secondFits_bounds {a b : Nat} (fits : secondFits a b = true) :
    (0x80 ≤ b ∧ b < 0xc0) ∧ (a = 0xe0 → 0xa0 ≤ b) ∧ (a = 0xed → b < 0xa0) ∧ (a = 0xf0 → 0x90 ≤ b) ∧
      (a = 0xf4 → b < 0x90) := by
  simp only [secondFits, isContinuation, Bool.and_eq_true, decide_eq_true_eq] at fits
  obtain ⟨second, bounds⟩ := fits
  refine ⟨second, ?_⟩
  split_ifs at bounds <;> simp at bounds <;> omega

/-- A character that is read is written by the bytes that it was read from. -/
theorem encodeChar_of_next {a : Nat} {rest : List Nat} {c : Char} {width : Nat}
    (read : next a rest = .char c width) :
    String.utf8EncodeChar c = UInt8.ofNat a :: (rest.take (width - 1)).map UInt8.ofNat ∧ width ≤ 4 := by
  have byte : ∀ {x y : Nat} {bs cs : List UInt8}, x = y → bs = cs →
      UInt8.ofNat x :: bs = UInt8.ofNat y :: cs := by
    rintro x y bs cs rfl rfl
    rfl
  revert read
  fun_cases next a rest <;> simp only [Unit.char.injEq, reduceCtorEq, false_implies]
  case case1 ascii =>
    rintro ⟨rfl, rfl⟩
    rw [encodeChar_ofNat (by omega), if_pos (by omega)]
    exact ⟨rfl, by decide⟩
  case case5 lead b more second two =>
    simp only [Bool.or_eq_true, decide_eq_true_eq, Bool.not_eq_true', Bool.not_eq_false] at *
    obtain ⟨second, overlong, surrogate, overlong', last⟩ := secondFits_bounds second
    rintro ⟨rfl, rfl⟩
    rw [encodeChar_ofNat (by omega), if_neg (by omega), if_pos (by omega)]
    exact ⟨byte (by omega) (byte (by omega) rfl), by decide⟩
  case case8 lead b second two d more third three =>
    simp only [isContinuation, Bool.or_eq_true, Bool.and_eq_true, decide_eq_true_eq,
      Bool.not_eq_true', Bool.not_eq_false] at *
    obtain ⟨second, overlong, surrogate, overlong', last⟩ := secondFits_bounds second
    rintro ⟨rfl, rfl⟩
    rw [encodeChar_ofNat (by omega), if_neg (by omega), if_neg (by omega), if_pos (by omega)]
    exact ⟨byte (by omega) (byte (by omega) (byte (by omega) rfl)), by decide⟩
  case case11 lead b second two d third three e more fourth =>
    simp only [isContinuation, Bool.or_eq_true, Bool.and_eq_true, decide_eq_true_eq,
      Bool.not_eq_true', Bool.not_eq_false] at *
    obtain ⟨second, overlong, surrogate, overlong', last⟩ := secondFits_bounds second
    rintro ⟨rfl, rfl⟩
    rw [encodeChar_ofNat (by omega), if_neg (by omega), if_neg (by omega), if_neg (by omega)]
    exact ⟨byte (by omega) (byte (by omega) (byte (by omega) (byte (by omega) rfl))), by decide⟩

/-- Bytes that are read as a text are those that write it. -/
theorem encode_of_decodeFrom {pos skip : Nat} {bs : List UInt8} {cs : List Char}
    (read : decodeFrom pos skip bs = .ok cs) : encode cs = bs.drop skip := by
  induction bs generalizing pos skip cs with
  | nil =>
    cases read
    simp [encode]
  | cons a rest ih =>
    cases skip with
    | succ skip => exact ih read
    | zero =>
      unfold decodeFrom at read
      dsimp only at read
      split at read
      · cases read
      · next c width found =>
        obtain ⟨more, later, built⟩ := bind_eq_ok_iff.mp read
        obtain rfl := Except.ok.inj built
        obtain ⟨bytes, few⟩ := encodeChar_of_next found
        have taken : (((rest.take 3).map UInt8.toNat).take (width - 1)).map UInt8.ofNat =
            rest.take (width - 1) := by
          have back : UInt8.ofNat ∘ UInt8.toNat = id := funext fun _ => UInt8.ofNat_toNat
          simp [← List.map_take, List.take_take, Nat.min_eq_left (show width - 1 ≤ 3 by omega), back]
        rw [encode, List.flatMap_cons, bytes, taken, ← encode, ih later, List.cons_append,
          List.take_append_drop, UInt8.ofNat_toNat, List.drop_zero]

/-- Bytes are read as a text if they are those that write it. -/
theorem decode_eq_ok_iff {bs : List UInt8} {cs : List Char} : decode bs = .ok cs ↔ bs = encode cs := by
  constructor
  · intro read
    rw [encode_of_decodeFrom read, List.drop_zero]
  · rintro rfl
    exact decode_encode cs

/-! ### Single bytes -/

/-- Below the first continuation, a byte of a character is that character. -/
theorem mem_encodeChar {c : Char} {b : UInt8} (member : b ∈ String.utf8EncodeChar c)
    (ascii : b.toNat < 0x80) : b.toNat = c.toNat := by
  have byte : ∀ x, x < 256 → (UInt8.ofNat x).toNat = x := fun x small => UInt8.toNat_ofNat_of_lt' small
  have same : c.toNat = c.val.toNat := rfl
  unfold String.utf8EncodeChar at member
  rw [same]
  generalize c.val.toNat = v at member
  dsimp only at member
  split_ifs at member <;> simp only [List.mem_cons, List.not_mem_nil, or_false] at member
  · rw [member, byte v (by omega)]
  all_goals
    exfalso
    rcases member with rfl | rfl | rfl | rfl <;> rw [byte _ (by omega)] at ascii <;> omega

end Bindery.Text.Utf8

import Bindery.Directive
import Bindery.Proofs.BracketBehind
import Bindery.Proofs.Utf8Texts

/- Places and the bytes that they are the places of. A place counted character by character is the line and
   the column of a byte; a text in brackets has its places moved by the bracket; and a word of such a text
   is what the text goes on with behind the characters that lead to the place of the word. -/
namespace Bindery

open Text.Utf8

/-! ### Places of bytes -/

namespace Place

/-- The line of a byte, and how many bytes of the line stand before it. -/
def ofByte (bytes : List UInt8) (k : Nat) : Place :=
  ⟨(bytes.take k).count 10 + 1, ((bytes.take k).reverse.takeWhile (· ≠ 10)).length⟩

/-- No byte of another character ends a line. -/
theorem lineFeed_of_mem {c : Char} {b : UInt8} (member : b ∈ String.utf8EncodeChar c) (feed : b = 10) :
    c = '\n' := by
  subst feed
  have same : c.toNat = 10 := (mem_encodeChar member (by decide)).symm
  exact Char.toNat_inj.mp same

/-- By induction from the end. -/
theorem afterAll_origin (cs : List Char) : origin.afterAll cs =
    ⟨(encode cs).count 10 + 1, ((encode cs).reverse.takeWhile (· ≠ 10)).length⟩ := by
  induction cs using List.reverseRecOn with
  | nil => rfl
  | append_singleton cs c ih =>
    have bytes : encode (cs ++ [c]) = encode cs ++ String.utf8EncodeChar c := by simp [encode]
    rw [afterAll_concat, ih, bytes, after]
    by_cases feed : c = '\n'
    · subst feed
      simp [show String.utf8EncodeChar '\n' = [10] from rfl]
    · have other : ∀ b ∈ String.utf8EncodeChar c, b ≠ 10 :=
        fun b member same => feed (lineFeed_of_mem member same)
      have none : (String.utf8EncodeChar c).count 10 = 0 :=
        List.count_eq_zero.mpr fun member => other 10 member rfl
      have all : ∀ b ∈ (String.utf8EncodeChar c).reverse, decide (b ≠ 10) = true :=
        fun b member => decide_eq_true (other b (List.mem_reverse.mp member))
      rw [if_neg feed, List.count_append, none, List.reverse_append, List.takeWhile_append_of_pos all,
        List.length_append, List.length_reverse, String.length_utf8EncodeChar, Nat.add_zero,
        Nat.add_comm c.utf8Size]

/-- The place behind some characters is that of the byte behind theirs. -/
theorem afterAll_eq_ofByte (front back : List Char) :
    origin.afterAll front = ofByte (encode (front ++ back)) (encode front).length := by
  have taken : (encode (front ++ back)).take (encode front).length = encode front := by
    have bytes : encode (front ++ back) = encode front ++ encode back := List.flatMap_append
    rw [bytes]
    exact List.take_left
  rw [afterAll_origin, ofByte, taken]

/-- The bracket moves what is behind it on its line, and nothing on later lines. By induction from the
    end. -/
theorem afterAll_bracketed (p : Place) (cs : List Char) :
    1 ≤ (origin.afterAll ('(' :: cs)).line ∧
    (p.afterAll cs).line + 1 = p.line + (origin.afterAll ('(' :: cs)).line ∧
    ((origin.afterAll ('(' :: cs)).line = 1 →
      (p.afterAll cs).column + 1 = p.column + (origin.afterAll ('(' :: cs)).column) ∧
    ((origin.afterAll ('(' :: cs)).line ≠ 1 →
      (p.afterAll cs).column = (origin.afterAll ('(' :: cs)).column) := by
  induction cs using List.reverseRecOn with
  | nil => exact ⟨Nat.le_refl 1, rfl, fun _ => rfl, fun later => absurd rfl later⟩
  | append_singleton cs c ih =>
    obtain ⟨positive, line, first, later⟩ := ih
    rw [← List.cons_append, afterAll_concat, afterAll_concat]
    generalize origin.afterAll ('(' :: cs) = q at positive line first later
    generalize p.afterAll cs = r at line first later
    by_cases feed : c = '\n'
    · simp only [after, if_pos feed]
      exact ⟨by omega, by omega, fun own => absurd own (by omega), fun _ => trivial⟩
    · simp only [after, if_neg feed]
      refine ⟨positive, line, fun own => ?_, fun away => congrArg (· + c.utf8Size) (later away)⟩
      have column := first own
      omega

end Place

/-- The place of a byte in a file. -/
def Span.ofByte (path : Option String) (bytes : List UInt8) (k : Nat) : Span :=
  { path, line := some (Place.ofByte bytes k).line, col := some ((Place.ofByte bytes k).column + 1) }

/-- A place in the brackets leads back to where it is in the file. -/
theorem Directive.placeIn_bracketed (path : Option String) (p : Place) (cs : List Char) :
    placeIn { path, line := some p.line, col := some (p.column + 1) } (Place.origin.afterAll ('(' :: cs)) =
      { path, line := some (p.afterAll cs).line, col := some ((p.afterAll cs).column + 1) } := by
  obtain ⟨positive, line, first, later⟩ := p.afterAll_bracketed cs
  generalize Place.origin.afterAll ('(' :: cs) = q at positive line first later
  unfold placeIn
  by_cases own : q.line = 1
  · have column := first own
    simp only [own, ↓reduceIte, Option.map_some, Span.mk.injEq, Option.some.injEq, true_and]
    omega
  · have column := later own
    simp only [own, ↓reduceIte, Option.map_some, Span.mk.injEq, Option.some.injEq, true_and]
    omega

/-! ### Places of words -/

namespace Token

open Reader

/-- Each word is what the text goes on with at its place, and more of the text is left before each further
    one. Lines end outside of brackets only. -/
def InPlace (opened : Nat) (place : Place) (cs : List Char) (ts : List Lexeme) : Prop :=
  ∀ before t after, ts = before ++ t :: after →
    (t.token = .newline ∧ opened + depth before = 0) ∨
    ∃ front back rest, cs = front ++ back ∧ t.start = place.afterAll front ∧
      next? back = some (t.token, rest) ∧ (rest = [] → after = [])

variable {opened inside : Nat} {place : Place} {cs rest : List Char} {t : Lexeme} {ts : List Lexeme}

theorem InPlace.behind (front : List Char) (placed : InPlace opened (place.afterAll front) rest ts) :
    InPlace opened place (front ++ rest) ts := by
  intro before t after split
  refine (placed before t after split).imp id ?_
  rintro ⟨inner, back, left, rfl, start, read, last⟩
  exact ⟨front ++ inner, back, left, (List.append_assoc ..).symm,
    by rw [start, Place.afterAll_append], read, last⟩

theorem InPlace.cons (here : (inside : Int) = opened + weight t)
    (first : (t.token = .newline ∧ opened = 0) ∨ ∃ front back rest, cs = front ++ back ∧
      t.start = place.afterAll front ∧ next? back = some (t.token, rest) ∧ (rest = [] → ts = []))
    (placed : InPlace inside place cs ts) : InPlace opened place cs (t :: ts) := by
  rintro (_ | ⟨u, before⟩) t' after split
  · obtain ⟨rfl, rfl⟩ := List.cons.inj split
    refine first.imp ?_ id
    rintro ⟨newline, outside⟩
    exact ⟨newline, by simp [outside]⟩
  · obtain ⟨rfl, rfl⟩ := List.cons.inj split
    refine (placed before t' after rfl).imp ?_ id
    rintro ⟨newline, outside⟩
    exact ⟨newline, by rw [depth_cons]; omega⟩

theorem scan_nil {fuel : Nat} {opened : List Char} {started : Bool} {ts : List Lexeme}
    (found : scan fuel place opened started [] = some ts) : ts = [] := by
  cases fuel with
  | zero => cases found
  | succ fuel => exact (scan_nil_iff.mp found).2

/-- By induction on the fuel. -/
theorem scan_inPlace (fuel : Nat) (place : Place) (opened : List Char) (started : Bool) (cs : List Char) :
    Whenever (InPlace opened.length place cs) (scan fuel place opened started cs) := by
  induction fuel generalizing place opened started cs with
  | zero => exact .none
  | succ fuel ih =>
    cases cs with
    | nil =>
      intro ts found before t after split
      simp [scan_nil found] at split
    | cons c more =>
      rcases character_cases c with starts | blank | rfl | rfl | rfl
      · intro ts found
        obtain ⟨token, rest, inside, next, tail, read, nests, later, rfl, rfl⟩ :=
          (scan_word_iff starts).mp found
        obtain ⟨word, whole⟩ := (next?_leaves _ _ read).1
        have taken : (c :: more).take ((c :: more).length - rest.length) = word := by
          simp [← whole]
        rw [taken] at later
        have behind := (ih _ _ _ _ tail later).behind word
        rw [whole] at behind
        refine behind.cons (weight_word place read nests) (.inr ⟨[], _, rest, rfl, rfl, read, ?_⟩)
        rintro rfl
        exact scan_nil later
      · rw [scan_blank blank]
        exact fun ts found => (ih _ _ _ _ ts found).behind [c]
      · rw [scan_comment]
        intro ts found
        have whole : ('#' :: more).takeWhile (· ≠ '\n') ++
            ('#' :: more).drop (('#' :: more).takeWhile (· ≠ '\n')).length = '#' :: more :=
          (List.prefix_iff_eq_append.mp (List.takeWhile_prefix _))
        have behind := (ih _ _ _ _ ts found).behind _
        rwa [whole] at behind
      · rw [scan_break]
        split
        · next ends =>
          have outside : opened = [] := List.isEmpty_iff.mp (Bool.and_eq_true_iff.mp ends).1
          have level : (opened.length : Int) = opened.length + weight ⟨.newline, place⟩ := by
            simp [weight, isOpening, isClosing]
          exact (ih _ _ _ _).map fun tail placed =>
            (placed.behind ['\n']).cons level (.inl ⟨rfl, by simp [outside]⟩)
        · exact fun ts found => (ih _ _ _ _ ts found).behind ['\n']
      · intro ts found
        obtain ⟨rest, rfl, -, later⟩ := scan_join_iff.mp found
        have joined : place.afterAll ['\\', '\n'] = ⟨place.line + 1, 0⟩ := rfl
        rw [← joined] at later
        exact (ih _ _ _ _ ts later).behind _

/-- Behind these characters, where its place is when the text stands in brackets, a text goes on with a
    word. -/
structure BeginsAt (cs front : List Char) (t : Lexeme) : Prop where
  start : t.start = Place.origin.afterAll ('(' :: front)
  reads : ∃ back rest, cs = front ++ back ∧ next? back = some (t.token, rest)

theorem unifyBreaks_of_notMem {cs : List Char} (none : '\r' ∉ cs) : Text.unifyBreaks cs = cs := by
  fun_induction Text.unifyBreaks cs with
  | case1 => rfl
  | case2 | case3 => simp at none
  | case4 c cs _ _ ih => rw [ih fun member => none (List.mem_cons_of_mem c member)]

/-- A word of a text in brackets, which is neither the first bracket nor the last, begins in the text. -/
theorem beginsAt_of_scanAll {s : List Char} {words before after : List Lexeme} {t : Lexeme}
    (unbroken : '\r' ∉ s) (scanned : scanAll ('(' :: s ++ [')']) = some words)
    (split : words = before ++ t :: after) (begun : before ≠ []) (more : after ≠ [])
    (inside : t.token = .newline → 0 < depth before) : ∃ front, BeginsAt s front t := by
  obtain ⟨fuel, tail, rfl, later⟩ := scanAll_opened scanned
  rw [unifyBreaks_of_notMem unbroken] at later
  cases before with
  | nil => exact absurd rfl begun
  | cons o before =>
    obtain ⟨rfl, rfl⟩ := List.cons.inj split
    rcases scan_inPlace _ _ _ _ _ _ later before t after rfl with
      ⟨newline, outside⟩ | ⟨front, back, rest, whole, start, read, last⟩
    · have inside := inside newline
      have opening : weight ⟨.mark "(", .origin⟩ = 1 := rfl
      rw [depth_cons, opening] at inside
      simp at outside
      omega
    · -- The last bracket is no part of the text: nothing follows it, and it changes no other word.
      obtain rfl | ⟨back, last', rfl⟩ := List.eq_nil_or_concat' back
      · cases read
      · rw [← List.append_assoc] at whole
        obtain ⟨rfl, ends⟩ := List.append_inj' whole rfl
        obtain rfl : ')' = last' := List.head_eq_of_cons_eq ends
        have filled : back ≠ [] := by
          rintro rfl
          rw [List.nil_append, next?_bracket (.inr rfl)] at read
          exact more (last (Prod.mk.inj (Option.some.inj read)).2.symm)
        rw [next?_behind filled, Option.map_eq_some_iff] at read
        obtain ⟨⟨token, left⟩, read, same⟩ := read
        cases same
        exact ⟨front, start, back, left, rfl, read⟩

end Token
end Bindery

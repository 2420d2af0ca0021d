import Mathlib.Data.List.Find
import Mathlib.Data.List.TakeWhile
import Bindery.Proofs.WordTexts

/- What stands behind a text changes none of its words, when it begins with a character that ends every
   word. -/
namespace Bindery.Token

/-- What is left has more text behind it. -/
def followed {α : Type} (tail : List Char) (r : α × List Char) : α × List Char := (r.1, r.2 ++ tail)

variable {α β : Type} {tail : List Char}

theorem bind_followed {r : Option (α × List Char)} {f g : α × List Char → Option (β × List Char)}
    (same : ∀ a, f (followed tail a) = (g a).map (followed tail)) :
    (r.map (followed tail) >>= f) = (r >>= g).map (followed tail) := by
  cases r with
  | none => rfl
  | some a => exact same a

theorem map_followed {r : Option (α × List Char)} {f g : α × List Char → β × List Char}
    (same : ∀ a, f (followed tail a) = followed tail (g a)) :
    (r.map (followed tail)).map f = (r.map g).map (followed tail) := by
  cases r with
  | none => rfl
  | some a => exact congrArg some (same a)

theorem ite_followed {c : Prop} [Decidable c] {x y x' y' : Option (α × List Char)}
    (yes : x = x'.map (followed tail)) (no : y = y'.map (followed tail)) :
    (if c then x else y) = (if c then x' else y').map (followed tail) := by
  split
  · exact yes
  · exact no

/-! ### Numbers -/

/-- No number has the character. -/
def endsNumbers (d : Char) : Bool := !isWordPart d && d ≠ '.' && d ≠ '+' && d ≠ '-'

theorem isWordPart_of_isDigit {c : Char} (digit : c.isDigit = true) : isWordPart c = true := by
  simp [isWordPart, Char.isAlphanum, digit]

theorem isWordPart_of_isAlpha {c : Char} (letter : c.isAlpha = true) : isWordPart c = true := by
  simp [isWordPart, Char.isAlphanum, letter]

open TextLiteral in
theorem isWordPart_of_isHex (c : Char) (digit : isHex c = true) : isWordPart c = true := by
  simp only [isHex, Bool.or_eq_true, Bool.and_eq_true, decide_eq_true_eq] at digit
  rcases digit with (digit | ⟨first, last⟩) | ⟨first, last⟩
  · exact isWordPart_of_isDigit digit
  · have last : c ≤ 'z' := Char.le_trans last (by decide)
    have lower : c.isLower = true := Bool.and_eq_true_iff.mpr ⟨decide_eq_true first, decide_eq_true last⟩
    exact isWordPart_of_isAlpha (Bool.or_eq_true_iff.mpr (.inr lower))
  · have last : c ≤ 'Z' := Char.le_trans last (by decide)
    have upper : c.isUpper = true := decide_eq_true ⟨first, last⟩
    exact isWordPart_of_isAlpha (Bool.or_eq_true_iff.mpr (.inl upper))

open TextLiteral in
theorem isWordPart_of_isOctal (c : Char) (digit : isOctal c = true) : isWordPart c = true := by
  simp only [isOctal, Bool.and_eq_true, decide_eq_true_eq] at digit
  obtain ⟨first, last⟩ := digit
  have last : c ≤ '9' := Char.le_trans last (by decide)
  exact isWordPart_of_isDigit (Bool.and_eq_true_iff.mpr ⟨decide_eq_true first, decide_eq_true last⟩)

theorem isWordPart_of_isBinary (c : Char) (digit : isBinary c = true) : isWordPart c = true := by
  rcases (by simpa [isBinary] using digit : c = '0' ∨ c = '1') with rfl | rfl <;> rfl

section
variable {d : Char} {more : List Char}

theorem head_followed {p : Char → Bool} (other : p d = false) (cs : List Char) :
    ((cs ++ d :: more).head?.map p).getD false = (cs.head?.map p).getD false := by
  cases cs <;> simp [other]

/-- The text itself begins with a word without the character. -/
theorem isPrefixOf_followed {w cs : List Char} (absent : d ∉ w) :
    w.isPrefixOf (cs ++ d :: more) = w.isPrefixOf cs := by
  rw [Bool.eq_iff_iff, List.isPrefixOf_iff_prefix, List.isPrefixOf_iff_prefix]
  refine ⟨fun begins => ?_, fun begins => begins.trans (List.prefix_append _ _)⟩
  rcases List.prefix_or_prefix_of_prefix begins (List.prefix_append cs (d :: more)) with short | ⟨rest, rfl⟩
  · exact short
  · rcases rest with _ | ⟨e, rest⟩
    · simp
    · rw [List.prefix_append_right_inj, List.cons_prefix_cons] at begins
      simp [begins.1] at absent

variable (ends : endsNumbers d = true)
include ends

theorem isWordPart_of_endsNumbers : isWordPart d = false := by
  simp only [endsNumbers, Bool.and_eq_true, Bool.not_eq_true'] at ends
  exact ends.1.1.1

/-- Neither a letter nor a digit is such a character. -/
theorem apart_of_endsNumbers {c : Char} (part : isWordPart c = true) : d ≠ c := by
  rintro rfl
  rw [isWordPart_of_endsNumbers ends] at part
  cases part

theorem isDigit_of_endsNumbers : d.isDigit = false := by
  by_contra digit
  rw [Bool.not_eq_false] at digit
  exact apart_of_endsNumbers ends (isWordPart_of_isDigit digit) rfl

theorem digitGroup_followed {isDigit : Char → Bool} (other : isDigit d = false) (lead : Bool)
    (cs : List Char) :
    digitGroup isDigit lead (cs ++ d :: more) = (digitGroup isDigit lead cs).map (followed (d :: more)) := by
  have underscore : d ≠ '_' := apart_of_endsNumbers ends rfl
  have none : ∀ lead, digitGroup isDigit lead (d :: more) = none := by
    intro lead
    rw [digitGroup.eq_def]
    simp [other, underscore]
  fun_induction digitGroup isDigit lead cs with
  | case1 lead => exact none lead
  | case2 lead c digit rest ih =>
    simp only [List.cons_append, digitGroup, digit, ↓reduceIte, ih]
    exact map_followed fun _ => rfl
  | case3 lead c digit e rest unlike digit' ih =>
    simp only [List.cons_append, digitGroup, digit, digit', ↓reduceIte] at ih ⊢
    rw [ih]
    exact map_followed fun _ => rfl
  | case4 lead c digit e rest unlike other' =>
    simp [digitGroup, digit, other', followed]
  | case5 lead c digit => simp [digitGroup, digit, other, followed]
  | case6 lead c cs unlike leads ih =>
    rw [List.cons_append, digitGroup.eq_def]
    dsimp only
    rw [if_neg unlike, if_pos leads, ih]
  | case7 lead c cs unlike leads =>
    rw [List.cons_append, digitGroup.eq_def]
    dsimp only
    rw [if_neg unlike, if_neg leads]
    rfl

theorem fractionPart_followed (cs : List Char) :
    fractionPart (cs ++ d :: more) = (fractionPart cs).map (followed (d :: more)) := by
  have other := isDigit_of_endsNumbers ends
  unfold fractionPart
  rw [head_followed other, digitGroup_followed ends other]
  split <;> rfl

theorem pointPart_followed (cs : List Char) :
    pointPart (cs ++ d :: more) = (pointPart cs).map (followed (d :: more)) := by
  have noPoint : d ≠ '.' := by rintro rfl; cases ends
  have other : ∀ {c : Char} {cs : List Char}, c ≠ '.' → pointPart (c :: cs) = some (none, c :: cs) := by
    intro c cs unlike
    unfold pointPart
    split
    · next more same => exact absurd (List.cons.inj same).1 unlike
    · rfl
  cases cs with
  | nil => exact other noPoint
  | cons c cs =>
    by_cases point : c = '.'
    · subst point
      simp only [pointPart, List.cons_append, fractionPart_followed ends]
      exact map_followed fun _ => rfl
    · rw [List.cons_append, other point, other point]
      rfl

theorem mayFollowNumber_followed (cs : List Char) :
    mayFollowNumber (cs ++ d :: more) = mayFollowNumber cs := by
  have absent : ∀ w : String, w.toList.all isWordPart = true → d ∉ w.toList := fun w parts member =>
    apart_of_endsNumbers ends (List.all_eq_true.mp parts d member) rfl
  have near : ∀ w : String, w.toList.all isWordPart = true →
      w.toList.isPrefixOf (cs ++ d :: more) = w.toList.isPrefixOf cs :=
    fun w parts => isPrefixOf_followed (absent w parts)
  have apart : ∀ w : String, w.toList.all isWordPart = true →
      (w.toList.isPrefixOf (cs ++ d :: more) &&
        !(((cs ++ d :: more).drop w.length).head?.map isWordPart).getD false) =
      (w.toList.isPrefixOf cs && !((cs.drop w.length).head?.map isWordPart).getD false) := by
    intro w parts
    rw [near w parts]
    by_cases begins : w.toList <+: cs
    · have fits : w.length ≤ cs.length := begins.length_le
      rw [List.drop_append_of_le_length fits, head_followed (isWordPart_of_endsNumbers ends)]
    · have never : w.toList.isPrefixOf cs = false :=
        Bool.eq_false_iff.mpr fun is => begins (List.isPrefixOf_iff_prefix.mp is)
      rw [never, Bool.false_and, Bool.false_and]
  unfold mayFollowNumber
  simp only [apart "and" (by decide), apart "else" (by decide), apart "for" (by decide),
    apart "or" (by decide), apart "not" (by decide), List.any_cons, List.any_nil,
    near "if" (by decide), near "in" (by decide), near "is" (by decide)]

theorem endsNumber_followed (cs : List Char) : endsNumber (cs ++ d :: more) = endsNumber cs := by
  unfold endsNumber
  rw [mayFollowNumber_followed ends, head_followed (isWordPart_of_endsNumbers ends)]

theorem exponentPart_followed (cs : List Char) :
    exponentPart (cs ++ d :: more) = (exponentPart cs).map (followed (d :: more)) := by
  have other := isDigit_of_endsNumbers ends
  have digits (cs : List Char) : digitGroup Char.isDigit false (cs ++ d :: more) =
      (digitGroup Char.isDigit false cs).map (followed (d :: more)) := digitGroup_followed ends other false cs
  have unmarked : (decide (d = 'e') || decide (d = 'E')) = false := by
    simp [apart_of_endsNumbers ends (c := 'e') rfl, apart_of_endsNumbers ends (c := 'E') rfl]
  have unsigned : d ≠ '+' ∧ d ≠ '-' := by constructor <;> (rintro rfl; cases ends)
  match cs with
  | [] => simp [exponentPart, unmarked, followed]
  | [e] =>
    by_cases marks : (e = 'e' || e = 'E') = true
    · simp only [exponentPart, List.cons_append, List.nil_append, marks, ↓reduceIte]
      split
      · next same => exact absurd (List.cons.inj same).1 unsigned.1
      · next same => exact absurd (List.cons.inj same).1 unsigned.2
      · next f _ _ _ same =>
        obtain rfl : d = f := (List.cons.inj same).1
        simp [other, followed]
      · next same => cases same
    · simp [exponentPart, marks, followed]
  | e :: f :: rest =>
    by_cases marks : (e = 'e' || e = 'E') = true
    · by_cases plus : f = '+'
      · subst plus
        simp only [exponentPart, List.cons_append, marks, ↓reduceIte, digits]
        exact map_followed fun _ => rfl
      · by_cases minus : f = '-'
        · subst minus
          simp only [exponentPart, List.cons_append, marks, ↓reduceIte, digits]
          exact map_followed fun _ => rfl
        · have here := digits (f :: rest)
          simp only [exponentPart, List.cons_append, marks, ↓reduceIte] at here ⊢
          split
          · rw [here]
            exact map_followed fun _ => rfl
          · rfl
    · simp only [exponentPart, List.cons_append, marks, ↓reduceIte, Bool.false_eq_true]
      rfl

theorem basedNumber_followed (base : Nat) {isDigit : Char → Bool} (other : isDigit d = false)
    (cs : List Char) : basedNumber base isDigit (cs ++ d :: more) =
      (basedNumber base isDigit cs).map (followed (d :: more)) := by
  unfold basedNumber
  rw [digitGroup_followed ends other]
  refine bind_followed fun r => ?_
  dsimp only [followed]
  rw [head_followed (isDigit_of_endsNumbers ends), endsNumber_followed ends]
  split
  · rfl
  · split <;> rfl

theorem decimalTail_followed (whole cs : List Char) :
    decimalTail whole (cs ++ d :: more) = (decimalTail whole cs).map (followed (d :: more)) := by
  unfold decimalTail
  rw [pointPart_followed ends]
  refine bind_followed fun front => ?_
  simp only [followed, exponentPart_followed ends]
  refine bind_followed fun r => ?_
  obtain ⟨exponent, _ | ⟨c, rest⟩⟩ := r
  · have unmarked : (decide (d = 'j') || decide (d = 'J')) = false := by
      simp [apart_of_endsNumbers ends (c := 'j') rfl, apart_of_endsNumbers ends (c := 'J') rfl]
    have none : endsNumber (d :: more) = endsNumber [] := endsNumber_followed ends []
    simp only [followed, List.nil_append, unmarked, none, Bool.false_eq_true, ↓reduceIte]
    exact ite_followed rfl (ite_followed rfl (ite_followed rfl rfl))
  · have here : endsNumber (c :: (rest ++ d :: more)) = endsNumber (c :: rest) :=
      endsNumber_followed ends (c :: rest)
    simp only [followed, List.cons_append, endsNumber_followed ends rest, here]
    exact ite_followed (ite_followed rfl rfl)
      (ite_followed rfl (ite_followed rfl (ite_followed rfl rfl)))

theorem number?_followed {cs : List Char} (filled : cs ≠ []) :
    number? (cs ++ d :: more) = (number? cs).map (followed (d :: more)) := by
  have decimal : ∀ cs : List Char,
      ((digitGroup Char.isDigit false (cs ++ d :: more)).bind fun r => decimalTail r.1 r.2) =
        ((digitGroup Char.isDigit false cs).bind fun r => decimalTail r.1 r.2).map
          (followed (d :: more)) := by
    intro cs
    rw [digitGroup_followed ends (isDigit_of_endsNumbers ends)]
    exact bind_followed fun r => decimalTail_followed ends r.1 r.2
  have plain : ∀ {c : Char} (cs : List Char), c ≠ '0' → number? (c :: cs) =
      (digitGroup Char.isDigit false (c :: cs)).bind fun r => decimalTail r.1 r.2 := by
    intro c cs nonzero
    unfold number?
    split
    · next same => exact absurd (List.cons.inj same).1 nonzero
    · rfl
  have other : ∀ {isDigit : Char → Bool}, (∀ c, isDigit c = true → isWordPart c = true) →
      isDigit d = false := by
    intro isDigit parts
    by_contra digit
    exact apart_of_endsNumbers ends (parts d (Bool.not_eq_false _ ▸ digit)) rfl
  match cs with
  | [] => exact absurd rfl filled
  | c :: cs =>
    by_cases zero : c = '0'
    · subst zero
      cases cs with
      | nil =>
        have letters : ∀ x, isWordPart x = true → d ≠ x := fun _ => apart_of_endsNumbers ends
        simp only [number?, List.cons_append, List.nil_append, letters 'x' rfl, letters 'X' rfl,
          letters 'o' rfl, letters 'O' rfl, letters 'b' rfl, letters 'B' rfl, decide_false,
          Bool.or_self, Bool.false_eq_true, ↓reduceIte]
        exact decimal ['0']
      | cons x rest =>
        simp only [number?, List.cons_append]
        exact ite_followed (basedNumber_followed ends 16 (other isWordPart_of_isHex) rest)
          (ite_followed (basedNumber_followed ends 8 (other isWordPart_of_isOctal) rest)
            (ite_followed (basedNumber_followed ends 2 (other isWordPart_of_isBinary) rest)
              (decimal ('0' :: x :: rest))))
    · rw [List.cons_append, plain _ zero, plain _ zero]
      exact decimal (c :: cs)

end

/-! ### Quoted text -/

theorem isQuote_apart {quote : Char} (isQuote : isQuote quote = true) : quote ≠ ')' ∧ quote ≠ '\\' := by
  constructor <;> rintro rfl <;> contradiction

/-- What is read is read with the tail behind it; when nothing is read and the tail is `inert`, nothing is
    read with it either. -/
def Follows {α : Type} (tail : List Char) (inert : Prop) (x x' : Option (α × List Char)) : Prop :=
  x = x'.map (followed tail) ∨ ¬inert ∧ x' = none

namespace Follows

variable {inert : Prop} {x y : Option (α × List Char)} {x' y' : Option (α × List Char)}

theorem none (unread : inert → x = none) : Follows tail inert x none := by
  by_cases here : inert
  · exact .inl (unread here)
  · exact .inr ⟨here, rfl⟩

theorem bind {f g : α × List Char → Option (β × List Char)} (follows : Follows tail inert x x')
    (same : ∀ a, f (followed tail a) = (g a).map (followed tail)) :
    Follows tail inert (x >>= f) (x' >>= g) := by
  rcases follows with rfl | ⟨here, rfl⟩
  · exact .inl (bind_followed same)
  · exact .inr ⟨here, rfl⟩

theorem map {f g : α × List Char → β × List Char} (follows : Follows tail inert x x')
    (same : ∀ a, f (followed tail a) = followed tail (g a)) :
    Follows tail inert (x.map f) (x'.map g) := by
  rcases follows with rfl | ⟨here, rfl⟩
  · exact .inl (map_followed same)
  · exact .inr ⟨here, rfl⟩

theorem ite {c : Prop} [Decidable c] (yes : Follows tail inert x x') (no : Follows tail inert y y') :
    Follows tail inert (if c then x else y) (if c then x' else y') := by
  split
  · exact yes
  · exact no

end Follows

section
variable {quote : Char} {inert : Prop}

theorem shortBody_eq_none {cs : List Char} (absent : quote ∉ cs) : shortBody quote cs = none := by
  fun_induction shortBody quote cs with
  | case1 => rfl
  | case2 c cs ih =>
    rw [ih fun member => absent (List.mem_cons_of_mem _ (List.mem_cons_of_mem _ member))]
    rfl
  | case3 cs => simp at absent
  | case4 => rfl
  | case5 c cs _ _ _ ih =>
    rw [ih fun member => absent (List.mem_cons_of_mem _ member)]
    rfl

theorem longBody_eq_none {cs : List Char} (few : cs.count quote < 3) : longBody quote cs = none := by
  have fewer : ∀ {c : Char} {cs : List Char}, (c :: cs).count quote < 3 → cs.count quote < 3 :=
    fun few => lt_of_le_of_lt List.count_le_count_cons few
  fun_induction longBody quote cs with
  | case1 => rfl
  | case2 c cs ih =>
    rw [ih (fewer (fewer few))]
    rfl
  | case3 c d e more ends =>
    simp only [Bool.and_eq_true, decide_eq_true_eq] at ends
    obtain ⟨⟨rfl, rfl⟩, rfl⟩ := ends
    simp only [List.count_cons_self] at few
    omega
  | case4 c d e more _ _ ih | case5 c cs _ _ ih =>
    rw [ih (fewer few)]
    rfl

theorem shortBody_follows (isQuote : isQuote quote = true) (absent : inert → quote ∉ tail) (cs : List Char) :
    Follows tail inert (shortBody quote (cs ++ tail)) (shortBody quote cs) := by
  obtain ⟨-, apart⟩ := isQuote_apart isQuote
  fun_induction shortBody quote cs with
  | case1 => exact .none fun here => shortBody_eq_none (absent here)
  | case2 c cs ih => exact ih.map fun _ => rfl
  | case3 cs =>
    rw [List.cons_append, shortBody.eq_3 _ _ _ fun _ _ is _ => apart is, if_pos rfl]
    exact .inl rfl
  | case4 cs _ unlike =>
    rw [List.cons_append, shortBody.eq_3 _ _ _ (by simp), if_neg unlike, if_pos rfl]
    exact .inl rfl
  | case5 c cs slash unlike unbroken ih =>
    by_cases escapes : c = '\\'
    · cases cs with
      | nil => exact .none fun here => shortBody_eq_none (by simpa [Ne.symm unlike] using absent here)
      | cons d ds => exact absurd rfl (slash d ds escapes)
    · rw [List.cons_append, shortBody.eq_3 _ _ _ fun _ _ is _ => escapes is, if_neg unlike,
        if_neg unbroken]
      exact ih.map fun _ => rfl

theorem longBody_follows (absent : inert → quote ∉ tail) (cs : List Char) :
    Follows tail inert (longBody quote (cs ++ tail)) (longBody quote cs) := by
  fun_induction longBody quote cs with
  | case1 => exact .none fun here => longBody_eq_none (by simp [List.count_eq_zero.mpr (absent here)])
  | case2 c cs ih => exact ih.map fun _ => rfl
  | case3 c d e more ends slash =>
    have plain : c ≠ '\\' := fun is => slash d (e :: more) is rfl
    simp only [List.cons_append]
    rw [longBody.eq_3 _ _ _ _ _ fun _ _ is _ => plain is, if_pos ends]
    exact .inl rfl
  | case4 c d e more unlike slash ih =>
    have plain : c ≠ '\\' := fun is => slash d (e :: more) is rfl
    simp only [List.cons_append] at ih ⊢
    rw [longBody.eq_3 _ _ _ _ _ fun _ _ is _ => plain is, if_neg unlike]
    exact ih.map fun _ => rfl
  | case5 c cs slash short ih =>
    have few : cs.length ≤ 1 := by
      rcases cs with _ | ⟨d, _ | ⟨e, more⟩⟩
      · simp
      · simp
      · exact absurd rfl (short d e more)
    have unread : longBody quote cs = none :=
      longBody_eq_none (lt_of_le_of_lt List.count_le_length (by omega))
    rw [unread]
    refine .none fun here => longBody_eq_none ?_
    rw [List.count_append, List.count_eq_zero.mpr (absent here)]
    exact lt_of_le_of_lt List.count_le_length (by simp only [List.length_cons]; omega)

end

/-- What stands behind a quoted text may not begin with a quote. -/
theorem quotedBody_follows {d : Char} {more cs : List Char} {inert : Prop} (unquoted : isQuote d = false)
    (absent : inert → ∀ q, isQuote q = true → q ∉ d :: more)
    (quoted : (cs.head?.map isQuote).getD false = true) :
    Follows (d :: more) inert (quotedBody (cs ++ d :: more)) (quotedBody cs) := by
  obtain ⟨q, cs, rfl⟩ := List.exists_cons_of_ne_nil (show cs ≠ [] by rintro rfl; cases quoted)
  have isQuote : isQuote q = true := quoted
  have apart : q ≠ d := by
    rintro rfl
    rw [unquoted] at isQuote
    cases isQuote
  have short (cs : List Char) : Follows (d :: more) inert (shortBody q (cs ++ d :: more)) (shortBody q cs) :=
    shortBody_follows isQuote (fun here => absent here q isQuote) cs
  match cs with
  | [] =>
    refine .none fun here => ?_
    have none := shortBody_eq_none (absent here q isQuote)
    cases more <;> simp [quotedBody, apart, none]
  | [c] =>
    by_cases same : q = c
    · subst same
      exact .inl (by simp [quotedBody, apart, followed])
    · have unclosed : shortBody q [c] = none := shortBody_eq_none (by simpa using same)
      have further := short [c]
      rw [unclosed] at further
      simpa [quotedBody, same] using further
  | c :: e :: rest =>
    simp only [List.cons_append, quotedBody]
    refine .ite (longBody_follows (fun here => absent here q isQuote) rest) (.ite (.inl rfl) ?_)
    exact short (c :: e :: rest)

/-! ### Words -/

/-- No word goes on with the character. -/
def endsWords (d : Char) : Bool :=
  endsNumbers d && !isQuote d && longMarks.all fun m => !m.toList.tail.contains d

section
variable {d : Char} {more : List Char}

theorem takeWhile_followed {p : Char → Bool} (other : p d = false) (cs : List Char) :
    (cs ++ d :: more).takeWhile p = cs.takeWhile p := by
  induction cs with
  | nil => simp [other]
  | cons c cs ih => rw [List.cons_append, List.takeWhile_cons, List.takeWhile_cons, ih]

theorem longMark_followed (ends : endsWords d = true) {cs : List Char} (filled : cs ≠ []) :
    (longMarks.find? fun m => m.toList.isPrefixOf (cs ++ d :: more)) =
      longMarks.find? fun m => m.toList.isPrefixOf cs := by
  simp only [endsWords, Bool.and_eq_true, List.all_eq_true] at ends
  obtain ⟨c, cs, rfl⟩ := List.exists_cons_of_ne_nil filled
  refine List.find?_congr fun m member => ?_
  have absent : d ∉ m.toList.tail := by simpa using ends.2 m member
  cases shape : m.toList with
  | nil => rfl
  | cons e w =>
    rw [shape, List.tail_cons] at absent
    have same : w.isPrefixOf (cs ++ d :: more) = w.isPrefixOf cs := isPrefixOf_followed absent
    rw [List.cons_append, List.isPrefixOf_cons_cons, List.isPrefixOf_cons_cons, same]

/-- A tail without quotes leaves also what is no word as it is. -/
theorem next?_follows (ends : endsWords d = true) {inert : Prop}
    (absent : inert → ∀ q, isQuote q = true → q ∉ d :: more) {cs : List Char} (filled : cs ≠ []) :
    Follows (d :: more) inert (next? (cs ++ d :: more)) (next? cs) := by
  have longMark : (longMarks.find? fun m => m.toList.isPrefixOf (cs ++ d :: more)) =
      longMarks.find? fun m => m.toList.isPrefixOf cs := longMark_followed ends filled
  simp only [endsWords, Bool.and_eq_true, Bool.not_eq_true'] at ends
  obtain ⟨⟨ends, unquoted⟩, -⟩ := ends
  have number : number? (cs ++ d :: more) = (number? cs).map (followed (d :: more)) :=
    number?_followed ends filled
  have decimal : decimalTail [] (cs ++ d :: more) = (decimalTail [] cs).map (followed (d :: more)) :=
    decimalTail_followed ends [] cs
  have letters : (cs ++ d :: more).takeWhile isWordPart = cs.takeWhile isWordPart :=
    takeWhile_followed (isWordPart_of_endsNumbers ends) cs
  have dropped : ∀ n ≤ cs.length, (cs ++ d :: more).drop n = cs.drop n ++ d :: more :=
    fun n fits => List.drop_append_of_le_length fits
  have fits := (List.takeWhile_prefix isWordPart (l := cs)).length_le
  obtain ⟨c, cs, rfl⟩ := List.exists_cons_of_ne_nil filled
  simp only [List.cons_append] at longMark number decimal letters dropped
  simp only [List.cons_append, next?, letters, dropped _ fits, head_followed (p := isQuote) unquoted,
    head_followed (p := Char.isDigit) (isDigit_of_endsNumbers ends), number, decimal, longMark]
  refine .ite ?_ ?_
  · split
    · next kind named =>
      have quoted : ((((c :: cs).drop ((c :: cs).takeWhile isWordPart).length).head?.map isQuote).getD
          false) = true := by
        by_contra unquoted
        rw [if_neg unquoted] at named
        cases named
      exact (quotedBody_follows unquoted absent quoted).map fun _ => rfl
    · exact .ite (.inl rfl) (.inl rfl)
  · by_cases quoted : isQuote c = true
    · rw [if_pos quoted, if_pos quoted]
      have body : Follows (d :: more) inert (quotedBody (c :: cs ++ d :: more)) (quotedBody (c :: cs)) :=
        quotedBody_follows unquoted absent quoted
      exact body.bind fun _ => rfl
    · rw [if_neg quoted, if_neg quoted]
      refine .ite (.inl (map_followed fun _ => rfl)) (.ite (.inl (map_followed fun _ => rfl)) ?_)
      split
      · next m found =>
        have begins := List.find?_some (p := fun m : String => m.toList.isPrefixOf (c :: cs)) found
        have short := (List.isPrefixOf_iff_prefix.mp begins).length_le
        exact .inl (congrArg (fun rest => some (Token.mark m, rest)) (dropped _ short))
      · exact .ite (.inl rfl) (.inl rfl)

/-- A word is read as it is, whatever follows the character that ends it. -/
theorem next?_followed (ends : endsWords d = true) {cs : List Char} {r : Token × List Char}
    (read : next? cs = some r) : next? (cs ++ d :: more) = some (followed (d :: more) r) := by
  have filled : cs ≠ [] := by rintro rfl; cases read
  have follows : Follows (d :: more) False (next? (cs ++ d :: more)) (next? cs) :=
    next?_follows ends nofun filled
  rcases follows with same | ⟨-, none⟩
  · rw [same, read]
    rfl
  · rw [none] at read
    cases read

end

/-- A closing bracket behind a text changes none of its words. -/
theorem next?_behind {cs : List Char} (filled : cs ≠ []) :
    next? (cs ++ [')']) = (next? cs).map (followed [')']) := by
  have absent : ∀ q, isQuote q = true → q ∉ [')'] := by
    intro q isQuote
    simpa using (isQuote_apart isQuote).1
  have follows : Follows [')'] True (next? (cs ++ [')'])) (next? cs) :=
    next?_follows (by decide) (fun _ => absent) filled
  rcases follows with same | ⟨none, -⟩
  · exact same
  · exact absurd trivial none

end Bindery.Token

import Bindery.Proofs.BracketBehind

/- The source of a field of formatted text. Outside of its quotes it closes the brackets that it opens and
   has no comment, so the words of the source in brackets are one pair of brackets. -/
namespace Bindery

namespace Text

theorem unifyBreaks_cons {c : Char} (other : c ≠ '\r') (cs : List Char) :
    unifyBreaks (c :: cs) = c :: unifyBreaks cs :=
  unifyBreaks.eq_4 c cs (fun _ is _ => other is) other

theorem unifyBreaks_return (cs : List Char) :
    unifyBreaks ('\r' :: cs) = '\n' :: unifyBreaks cs ∨ unifyBreaks ('\r' :: cs) = unifyBreaks cs := by
  by_cases paired : ∃ more, cs = '\n' :: more
  · obtain ⟨more, rfl⟩ := paired
    exact .inr (by rw [unifyBreaks, unifyBreaks_cons (by decide)])
  · exact .inl (unifyBreaks.eq_3 cs fun more is => paired ⟨more, is⟩)

end Text

namespace Token

open Reader

/-! ### Brackets among characters -/

/-- Quotes and brackets. -/
def special : List Char := ['\'', '"'] ++ openers ++ closers

theorem endsNumbers_of_special : ∀ c ∈ special, endsNumbers c = true := List.all_eq_true.mp (by decide)

theorem plain_of_isWordPart {c : Char} (part : isWordPart c = true) : c ∉ special := by
  intro listed
  exact apart_of_endsNumbers (endsNumbers_of_special c listed) part rfl

theorem unquoted_of_plain {c : Char} (plain : c ∉ special) : isQuote c = false := by
  by_contra quoted
  rw [Bool.not_eq_false] at quoted
  simp only [isQuote, Bool.or_eq_true, decide_eq_true_eq] at quoted
  rcases quoted with rfl | rfl <;> exact plain (by decide)

theorem nest_of_plain {c : Char} (plain : c ∉ special) (opened : List Char) : nest opened c = some opened := by
  have opener : openers.contains c = false := by
    by_contra listed
    exact plain (by simp_all [special])
  have closer : closers.contains c = false := by
    by_contra listed
    exact plain (by simp_all [special])
  simp only [nest, opener, closer, Bool.false_eq_true, ↓reduceIte]

/-- Outside of quotes the text closes the brackets that are open and those that it opens, and it has neither
    comments nor backslashes there. -/
inductive Nests : List Char → List Char → Prop
  | nil : Nests [] []
  | char {opened inside : List Char} {c : Char} {cs : List Char} (unquoted : isQuote c = false)
      (apart : c ≠ '#' ∧ c ≠ '\\') (nests : nest opened c = some inside) (rest : Nests inside cs) :
      Nests opened (c :: cs)
  | quoted {opened : List Char} {c : Char} {cs : List Char} (quoted : isQuote c = true)
      (rest : ∀ body left, quotedBody (c :: cs) = some (body, left) → Nests opened left) :
      Nests opened (c :: cs)

section
variable {opened inside cs rest : List Char} {c : Char}

theorem Nests.outside (nests : Nests opened (c :: cs)) (unquoted : isQuote c = false) :
    (c ≠ '#' ∧ c ≠ '\\') ∧ ∃ inside, nest opened c = some inside ∧ Nests inside cs := by
  cases nests with
  | char _ apart nests rest => exact ⟨apart, _, nests, rest⟩
  | quoted quoted =>
    rw [unquoted] at quoted
    cases quoted

theorem Nests.behindQuotes {body : List Char} (nests : Nests opened cs)
    (quoted : (cs.head?.map isQuote).getD false = true) (read : quotedBody cs = some (body, rest)) :
    Nests opened rest := by
  cases nests with
  | nil => cases quoted
  | char unquoted =>
    rw [show isQuote _ = true from quoted] at unquoted
    cases unquoted
  | quoted _ behind => exact behind body rest read

theorem Nests.behindPlain {w : List Char} (nests : Nests opened (w ++ rest)) (plain : ∀ c ∈ w, c ∉ special) :
    Nests opened rest := by
  induction w with
  | nil => exact nests
  | cons c w ih =>
    obtain ⟨here, plain⟩ := List.forall_mem_cons.mp plain
    obtain ⟨-, inside, same, nests⟩ := nests.outside (unquoted_of_plain here)
    rw [nest_of_plain here] at same
    cases same
    exact ih nests plain

/-- A reading that does not go on at a quote or a bracket passes none. -/
theorem plain_of_followed {α : Type} {read : List Char → Option (α × List Char)} {a : α} (begins : c ∉ special)
    (leaves : Leaves (c :: cs) (read (c :: cs)))
    (ends : ∀ d ∈ special, ∀ more cs, cs ≠ [] →
      read (cs ++ d :: more) = (read cs).map (followed (d :: more)))
    (found : read (c :: cs) = some (a, rest)) : ∃ w, c :: cs = w ++ rest ∧ ∀ d ∈ w, d ∉ special := by
  obtain ⟨w, whole⟩ := leaves _ found
  refine ⟨w, whole.symm, fun d member listed => ?_⟩
  obtain ⟨u, v, rfl⟩ := List.append_of_mem member
  have filled : u ≠ [] := by
    rintro rfl
    rw [(List.cons.inj whole).1] at listed
    exact begins listed
  rw [← whole, List.append_assoc, List.cons_append, ends d listed _ u filled] at found
  obtain ⟨r, -, same⟩ := Option.map_eq_some_iff.mp found
  have lengths := congrArg (List.length ∘ Prod.snd) same
  simp only [followed, Function.comp_apply, List.length_append, List.length_cons] at lengths
  omega

theorem number?_plain {n : Constant} (digit : c.isDigit = true) (read : number? (c :: cs) = some (n, rest)) :
    ∃ w, c :: cs = w ++ rest ∧ ∀ d ∈ w, d ∉ special := by
  refine plain_of_followed (fun listed => ?_) (number?_leaves _) ?_ read
  · rw [isDigit_of_endsNumbers (endsNumbers_of_special c listed)] at digit
    cases digit
  · exact fun d listed more cs filled => number?_followed (endsNumbers_of_special d listed) filled

theorem decimalTail_plain {n : Constant} (read : decimalTail [] ('.' :: cs) = some (n, rest)) :
    ∃ w, '.' :: cs = w ++ rest ∧ ∀ d ∈ w, d ∉ special :=
  plain_of_followed (by decide) (decimalTail_leaves [] _)
    (fun d listed more cs _ => decimalTail_followed (endsNumbers_of_special d listed) [] cs) read

/-- A longer mark has neither quotes nor brackets. -/
theorem longMarks_apart : ∀ m ∈ longMarks, ∀ c ∈ m.toList, c ∉ special := by
  have apart : (longMarks.all fun m => m.toList.all fun c => !special.contains c) = true := by decide
  simpa using apart

theorem longMark_plain {m : String} (listed : m ∈ longMarks) (begins : m.toList <+: c :: cs) :
    c ∉ special ∧ ∃ w, c :: cs = w ++ (c :: cs).drop m.length ∧ ∀ d ∈ w, d ∉ special := by
  have plain := longMarks_apart m listed
  obtain ⟨d, ds, whole⟩ := List.exists_cons_of_ne_nil (longMarks_plain m listed).1
  refine ⟨plain c ?_, m.toList, (List.prefix_iff_eq_append.mp begins).symm, plain⟩
  rw [whole] at begins ⊢
  rw [(List.cons_prefix_cons.mp begins).1]
  exact List.mem_cons_self

/-- Behind a word as many brackets are open as the word leaves open. -/
theorem Nests.next {token : Token} (nests : Nests opened (c :: cs))
    (read : next? (c :: cs) = some (token, rest)) :
    ∃ inside, opens token opened c = some inside ∧ Nests inside rest := by
  have letters := List.prefix_iff_eq_append.mp (List.takeWhile_prefix isWordPart (l := c :: cs))
  have parts : ∀ d ∈ (c :: cs).takeWhile isWordPart, d ∉ special := fun d member =>
    plain_of_isWordPart (List.mem_takeWhile_imp member)
  have behindLetters : Nests opened ((c :: cs).drop ((c :: cs).takeWhile isWordPart).length) :=
    Nests.behindPlain (letters.symm ▸ nests) parts
  have behindPlain : ∀ {rest}, (∃ w, c :: cs = w ++ rest ∧ ∀ c ∈ w, c ∉ special) → Nests opened rest := by
    rintro rest ⟨w, whole, plain⟩
    exact Nests.behindPlain (whole ▸ nests) plain
  unfold next? at read
  dsimp only at read
  split at read
  · split at read
    · next kind named =>
      have quoted : ((((c :: cs).drop ((c :: cs).takeWhile isWordPart).length).head?.map isQuote).getD
          false) = true := by
        by_contra unquoted
        rw [if_neg unquoted] at named
        cases named
      obtain ⟨⟨body, rest⟩, body', same⟩ := Option.map_eq_some_iff.mp read
      cases same
      exact ⟨opened, rfl, behindLetters.behindQuotes quoted body'⟩
    · split at read
      · cases read
        exact ⟨opened, rfl, behindLetters⟩
      · cases read
  split at read
  · next quoted =>
    obtain ⟨⟨body, rest⟩, body', read⟩ := Option.bind_eq_some_iff.mp read
    obtain ⟨kind, -, same⟩ := Option.map_eq_some_iff.mp read
    cases same
    exact ⟨opened, rfl, nests.behindQuotes quoted body'⟩
  next unquoted =>
  rw [Bool.not_eq_true] at unquoted
  split at read
  · next digit =>
    obtain ⟨⟨n, rest⟩, digits, same⟩ := Option.map_eq_some_iff.mp read
    cases same
    exact ⟨opened, rfl, behindPlain (number?_plain digit digits)⟩
  split at read
  · next point =>
    obtain ⟨⟨n, rest⟩, digits, same⟩ := Option.map_eq_some_iff.mp read
    cases same
    simp only [Bool.and_eq_true, decide_eq_true_eq] at point
    obtain ⟨rfl, -⟩ := point
    exact ⟨opened, rfl, behindPlain (decimalTail_plain digits)⟩
  split at read
  · next m found =>
    have begins := List.isPrefixOf_iff_prefix.mp
      (List.find?_some (p := fun m : String => m.toList.isPrefixOf (c :: cs)) found)
    obtain ⟨plain, passed⟩ := longMark_plain (List.mem_of_find?_eq_some found) begins
    cases read
    exact ⟨opened, nest_of_plain plain opened, behindPlain passed⟩
  · split at read
    · cases read
      obtain ⟨-, inside, nest, nests⟩ := nests.outside unquoted
      exact ⟨inside, nest, nests⟩
    · cases read

/-- The words before a closing bracket close those that are open. -/
theorem scan_nested {fuel : Nat} {place : Place} {opened : List Char} {started : Bool} {cs : List Char}
    {words : List Lexeme} (nests : Nests opened cs)
    (found : scan fuel place (opened ++ ['(']) started (cs ++ [')']) = some words) :
    ∃ inner c, words = inner ++ [c] ∧ c.token = .mark ")" ∧ Closes opened.length inner := by
  induction fuel generalizing place opened started cs words with
  | zero => cases found
  | succ fuel ih =>
    cases cs with
    | nil =>
      cases nests
      obtain rfl := scan_end found
      exact ⟨[], _, rfl, rfl, .nil⟩
    | cons c cs =>
      rw [List.cons_append] at found
      have blank (plain : c ∉ special) : Nests opened cs := by
        obtain ⟨-, inside, same, further⟩ := nests.outside (unquoted_of_plain plain)
        rw [nest_of_plain plain] at same
        cases same
        exact further
      rcases character_cases c with starts | isBlank | rfl | rfl | rfl
      · obtain ⟨token, rest, inside, behind, tail, read, opens, later, rfl, -⟩ :=
          (scan_word_iff starts).mp found
        have read : next? ((c :: cs) ++ [')']) = some (token, rest) := read
        rw [next?_behind (by simp), Option.map_eq_some_iff] at read
        obtain ⟨⟨token, rest⟩, own, same⟩ := read
        cases same
        obtain ⟨inside, opens', nests⟩ := nests.next own
        obtain rfl := opens_append opens' opens
        obtain ⟨inner, d, rfl, closes, whole⟩ := ih nests later
        exact ⟨⟨token, place⟩ :: inner, d, rfl, closes, whole.cons (weight_word place own opens')⟩
      · have plain : c ∉ special := by
          simp only [Bool.or_eq_true, decide_eq_true_eq] at isBlank
          rcases isBlank with (rfl | rfl) | rfl <;> decide
        rw [scan_blank isBlank] at found
        exact ih (blank plain) found
      · exact absurd rfl (nests.outside rfl).1.1
      · -- A line break is a blank too, since a bracket is open.
        rw [scan_break, if_neg (by simp)] at found
        exact ih (blank (by decide)) found
      · exact absurd rfl (nests.outside rfl).1.2

end

/-! ### One character of a quoted text -/

section
variable {q c : Char} {cs : List Char}

theorem unifyBreaks_quote (isQuote : isQuote q = true) : Text.unifyBreaks (q :: cs) = q :: Text.unifyBreaks cs :=
  Text.unifyBreaks_cons (by rintro rfl; cases isQuote) cs

theorem longBody_cons (unescaped : c ≠ '\\') (goesOn : ¬(c = q ∧ [q, q] <+: cs)) :
    longBody q (c :: cs) = (longBody q cs).map fun r => (c :: r.1, r.2) := by
  match cs with
  | d :: e :: more =>
    rw [longBody.eq_3 _ _ _ _ _ fun _ _ is _ => unescaped is, if_neg]
    intro ends
    simp only [Bool.and_eq_true, decide_eq_true_eq] at ends
    obtain ⟨⟨rfl, rfl⟩, rfl⟩ := ends
    exact goesOn ⟨rfl, more, rfl⟩
  | [] | [_] =>
    rw [longBody.eq_4 _ _ _ (fun _ _ is _ => unescaped is) (by simp)]

theorem shortBody_cons (unescaped : c ≠ '\\') (other : c ≠ q) :
    shortBody q (c :: cs) = if c = '\n' then none else (shortBody q cs).map fun r => (c :: r.1, r.2) := by
  rw [shortBody.eq_3 _ _ _ fun _ _ is _ => unescaped is, if_neg other]

theorem shortBody_closed (isQuote : isQuote q = true) (cs : List Char) : shortBody q (q :: cs) = some ([], cs) := by
  rw [shortBody.eq_3 _ _ _ fun _ _ is _ => (isQuote_apart isQuote).2 is, if_pos rfl]

/-- A quote that is not tripled begins a text on one line. -/
theorem quotedBody_short (isQuote : isQuote q = true) (apart : ¬[q, q] <+: cs) :
    quotedBody (q :: cs) = shortBody q cs := by
  match cs with
  | [] => rfl
  | [r] =>
    by_cases same : q = r
    · subst same
      simp [quotedBody, shortBody_closed isQuote]
    · have unclosed : shortBody q [r] = none := shortBody_eq_none (by simpa using same)
      simp [quotedBody, same, unclosed]
  | r :: s :: more =>
    simp only [quotedBody]
    by_cases same : q = r
    · subst same
      have single : q ≠ s := by
        rintro rfl
        exact apart (List.prefix_append [q, q] more)
      simp [single, shortBody_closed isQuote]
    · simp [same]

end

end Token

namespace Formatted

open Reader Token
open Text (unifyBreaks unifyBreaks_cons unifyBreaks_return)

/-! ### Sources of fields -/

/-- The words of the text in brackets are one pair of brackets. -/
def Encloses (source : List Char) : Prop :=
  Whenever (fun ts => ∃ o inner c, ts = o :: (inner ++ [c]) ∧ o.token = .mark "(" ∧ c.token = .mark ")" ∧
    Balanced inner) (scanAll ('(' :: source ++ [')']))

theorem encloses_of_nests {source : List Char} (nests : Nests [] (unifyBreaks source)) : Encloses source := by
  intro ts found
  obtain ⟨fuel, tail, rfl, later⟩ := scanAll_opened found
  obtain ⟨inner, c, rfl, closes, whole⟩ := scan_nested nests later
  exact ⟨_, inner, c, rfl, rfl, closes, whole.balanced⟩

/-- A body in quotes, of one of the two kinds. -/
def quotedRest (q : Char) (long : Bool) (cs : List Char) : Option (List Char × List Char) :=
  if long then longBody q cs else shortBody q cs

/-- What is left of the source of a field, inside quotes or outside of them. -/
def Nesting (quote : Option (Char × Bool)) (opened cs : List Char) : Prop :=
  match quote with
  | none => Nests opened (unifyBreaks cs)
  | some (q, long) => ∀ body left, quotedRest q long (unifyBreaks cs) = some (body, left) → Nests opened left

theorem quotedRest_cons {q c : Char} {long : Bool} {cs body left : List Char} (unescaped : c ≠ '\\') (other : c ≠ q)
    (found : quotedRest q long (c :: cs) = some (body, left)) :
    ∃ body, quotedRest q long cs = some (body, left) := by
  unfold quotedRest at *
  cases long with
  | true =>
    rw [if_pos rfl, longBody_cons unescaped fun ends => other ends.1] at found
    obtain ⟨r, later, same⟩ := Option.map_eq_some_iff.mp found
    cases same
    exact ⟨r.1, later⟩
  | false =>
    rw [if_neg Bool.false_ne_true, shortBody_cons unescaped other] at found
    split at found
    · cases found
    · obtain ⟨r, later, same⟩ := Option.map_eq_some_iff.mp found
      cases same
      exact ⟨r.1, later⟩

/-! #### One character more -/

namespace Nesting

variable {q c : Char} {long : Bool} {opened inside cs : List Char}

theorem outside (nesting : Nesting none inside cs) (unquoted : isQuote c = false) (apart : c ≠ '#' ∧ c ≠ '\\')
    (nests : nest opened c = some inside) : Nesting none opened (c :: cs) := by
  unfold Nesting at *
  dsimp only at *
  by_cases returns : c = '\r'
  · subst returns
    obtain rfl : opened = inside := by simpa [nest, openers, closers] using nests
    rcases unifyBreaks_return cs with here | here <;> rw [here]
    · exact .char rfl (by decide) (by simp [nest, openers, closers]) nesting
    · exact nesting
  · rw [unifyBreaks_cons returns]
    exact .char unquoted apart nests nesting

theorem within (nesting : Nesting (some (q, long)) opened cs) (isQuote : isQuote q = true) (unescaped : c ≠ '\\')
    (other : c ≠ q) : Nesting (some (q, long)) opened (c :: cs) := by
  intro body left found
  by_cases returns : c = '\r'
  · subst returns
    rcases unifyBreaks_return cs with here | here <;> rw [here] at found
    · obtain ⟨body, found⟩ := quotedRest_cons (by decide) (by rintro rfl; cases isQuote) found
      exact nesting body left found
    · exact nesting body left found
  · rw [unifyBreaks_cons returns] at found
    obtain ⟨body, found⟩ := quotedRest_cons unescaped other found
    exact nesting body left found

/-- Behind its last quote. -/
theorem closed (nesting : Nesting none opened cs) (isQuote : isQuote q = true) :
    Nesting (some (q, false)) opened (q :: cs) := by
  intro body left found
  rw [unifyBreaks_quote isQuote, quotedRest, if_neg Bool.false_ne_true, shortBody_closed isQuote] at found
  cases found
  exact nesting

theorem closedLong (nesting : Nesting none opened cs) (isQuote : isQuote q = true) :
    Nesting (some (q, true)) opened (q :: q :: q :: cs) := by
  intro body left found
  rw [unifyBreaks_quote isQuote, unifyBreaks_quote isQuote, unifyBreaks_quote isQuote, quotedRest, if_pos rfl,
    longBody.eq_3 _ _ _ _ _ fun _ _ is _ => (isQuote_apart isQuote).2 is, if_pos (by simp)] at found
  cases found
  exact nesting

theorem apart_of_unify (isQuote : isQuote q = true) (apart : ¬[q, q] <+: cs) : ¬[q, q] <+: unifyBreaks cs := by
  refine fun begins => apart (prefix_of_unbroken ?_ begins)
  have plain : '\n' ≠ q := by rintro rfl; cases isQuote
  simpa using plain

/-- A quote among the characters between three quotes and three quotes. -/
theorem withinLong (nesting : Nesting (some (q, true)) opened cs) (isQuote : isQuote q = true)
    (apart : ¬[q, q] <+: cs) : Nesting (some (q, true)) opened (q :: cs) := by
  intro body left found
  rw [unifyBreaks_quote isQuote, quotedRest, if_pos rfl,
    longBody_cons (isQuote_apart isQuote).2 fun ends => apart_of_unify isQuote apart ends.2] at found
  obtain ⟨r, later, same⟩ := Option.map_eq_some_iff.mp found
  cases same
  exact nesting r.1 _ later

theorem quoted (nesting : Nesting (some (q, false)) opened cs) (isQuote : isQuote q = true)
    (apart : ¬[q, q] <+: cs) : Nesting none opened (q :: cs) := by
  unfold Nesting
  rw [unifyBreaks_quote isQuote]
  refine .quoted isQuote fun body left found => ?_
  rw [quotedBody_short isQuote (apart_of_unify isQuote apart)] at found
  exact nesting body left found

theorem quotedLong (nesting : Nesting (some (q, true)) opened cs) (isQuote : isQuote q = true) :
    Nesting none opened (q :: q :: q :: cs) := by
  unfold Nesting
  rw [unifyBreaks_quote isQuote, unifyBreaks_quote isQuote, unifyBreaks_quote isQuote]
  refine .quoted isQuote fun body left found => ?_
  have long : quotedBody (q :: q :: q :: unifyBreaks cs) = longBody q (unifyBreaks cs) := by
    simp [quotedBody]
  rw [long] at found
  exact nesting body left found

end Nesting

theorem nest_comparing : ∀ c ∈ ['!', '=', '<', '>'], nest [] c = some [] := by
  simp [nest, openers, closers]

/-- The text is parted, and its first part closes what is open. -/
def PartNests (quote : Option (Char × Bool)) (opened cs : List Char)
    (read : Option (List Char × List Char)) : Prop :=
  Whenever (fun r => cs = r.1 ++ r.2 ∧ Nesting quote opened r.1) read

theorem PartNests.keep {quote quote' : Option (Char × Bool)} {opened opened' cs : List Char}
    {read : Option (List Char × List Char)} (nests : PartNests quote' opened' cs read) (front : List Char)
    (extend : ∀ source rest, cs = source ++ rest → Nesting quote' opened' source →
      Nesting quote opened (front ++ source)) :
    PartNests quote opened (front ++ cs) (read.map fun r => (front ++ r.1, r.2)) := by
  refine Whenever.map nests ?_
  rintro ⟨source, rest⟩ ⟨whole, nesting⟩
  exact ⟨by rw [whole, List.append_assoc], extend source rest whole nesting⟩

/-- With this fuel the parts of sources close what is open, inside quotes and outside of them. -/
structure PartsNest (fuel : Nat) : Prop where
  outside : ∀ opened cs, PartNests none opened cs (sourcePart fuel none opened cs)
  within : ∀ q long opened cs, isQuote q = true →
    PartNests (some (q, long)) opened cs (sourcePart fuel (some (q, long)) opened cs)

namespace PartsNest

section
variable {c : Char} {cs : List Char}

theorem tripled (triple : (cs.take 2 == [c, c]) = true) : c :: cs = [c, c, c] ++ cs.drop 2 := by
  rw [List.cons_append, ← beq_iff_eq.mp triple, List.take_append_drop]

theorem apart (single : ¬(cs.take 2 == [c, c]) = true) : ∀ source rest, cs = source ++ rest → ¬[c, c] <+: source := by
  rintro source rest rfl ⟨more, rfl⟩
  simp at single

end

variable {fuel : Nat} (parts : PartsNest fuel)
include parts

theorem next_within {q : Char} (isQuote : isQuote q = true) (long : Bool) (opened cs : List Char) :
    PartNests (some (q, long)) opened cs (sourcePart (fuel + 1) (some (q, long)) opened cs) := by
  cases cs with
  | nil => exact .none
  | cons c cs =>
    unfold sourcePart
    dsimp only
    split
    · exact .none
    next unescaped =>
    split
    · next other =>
      exact (parts.within q long opened cs isQuote).keep [c] fun _ _ _ nesting =>
        nesting.within isQuote unescaped other
    next same =>
    obtain rfl : c = q := not_not.mp same
    cases long with
    | false => exact (parts.outside opened cs).keep [c] fun _ _ _ nesting => nesting.closed isQuote
    | true =>
      rw [if_neg (by decide)]
      split
      · next triple =>
        rw [tripled triple]
        exact (parts.outside opened _).keep [c, c, c] fun _ _ _ nesting => nesting.closedLong isQuote
      · next single =>
        exact (parts.within c true opened cs isQuote).keep [c] fun source rest whole nesting =>
          nesting.withinLong isQuote (apart single source rest whole)

/-- What ends a source there ends it with nothing open. -/
theorem next_outside (opened cs : List Char) :
    PartNests none opened cs (sourcePart (fuel + 1) none opened cs) := by
  cases cs with
  | nil => exact .none
  | cons c cs =>
    unfold sourcePart
    dsimp only
    split
    · exact .none
    next unescaped =>
    split
    · next isQuote =>
      split
      · next triple =>
        rw [tripled triple]
        exact (parts.within c true opened _ isQuote).keep [c, c, c] fun _ _ _ nesting =>
          nesting.quotedLong isQuote
      · next single =>
        exact (parts.within c false opened cs isQuote).keep [c] fun source rest whole nesting =>
          nesting.quoted isQuote (apart single source rest whole)
    next unquoted =>
    rw [Bool.not_eq_true] at unquoted
    split
    · exact .none
    next noComment =>
    have further {inside : List Char} (nests : nest opened c = some inside) : PartNests none opened (c :: cs)
        ((sourcePart fuel none inside cs).map fun r => ([c] ++ r.1, r.2)) :=
      (parts.outside inside cs).keep [c] fun _ _ _ nesting =>
        nesting.outside unquoted ⟨noComment, unescaped⟩ nests
    split
    · next ends =>
      obtain rfl := List.isEmpty_iff.mp (Bool.and_eq_true_iff.mp ends).1
      split
      · next compares =>
        obtain ⟨listed, equals⟩ := Bool.and_eq_true_iff.mp compares
        obtain ⟨more, rfl⟩ := List.head?_eq_some_iff.mp (beq_iff_eq.mp equals)
        have same := nest_comparing c (List.contains_iff_mem.mp listed)
        refine (parts.outside [] more).keep [c, '='] fun _ _ _ nesting => ?_
        exact (nesting.outside rfl (by decide) rfl).outside unquoted ⟨noComment, unescaped⟩ same
      split
      · next angle =>
        refine further (nest_comparing c ?_)
        rcases Bool.or_eq_true_iff.mp angle with is | is <;> simp [of_decide_eq_true is]
      · exact .some ⟨rfl, Nests.nil⟩
    · split
      · exact .none
      · next nests => exact further nests

end PartsNest

theorem partsNest (fuel : Nat) : PartsNest fuel := by
  induction fuel with
  | zero => exact ⟨fun _ _ => .none, fun _ _ _ _ _ => .none⟩
  | succ fuel ih => exact ⟨ih.next_outside, fun _ long opened cs isQuote => ih.next_within isQuote long opened cs⟩

/-! ### Segments -/

mutual

/-- The source of every field, and of those in formats, stays in its brackets. -/
def Segment.Enclosed : Segment → Prop
  | .literal _ => True
  | .field source _ _ format => Encloses source ∧ EnclosedFormat format

def EnclosedFormat : Option (List Segment) → Prop
  | none => True
  | some segments => EnclosedSegments segments

def EnclosedSegments : List Segment → Prop
  | [] => True
  | segment :: more => segment.Enclosed ∧ EnclosedSegments more

end

theorem formatPart_enclosed {read : List Char → Option (List Segment × List Char)}
    (enclosed : ∀ cs, Whenever (fun r => EnclosedSegments r.1) (read cs)) (cs : List Char) :
    Whenever (fun r => EnclosedFormat r.1) (formatPart read cs) := by
  unfold formatPart
  split
  · exact .ite .none ((enclosed _).map fun _ enclosed => enclosed)
  · exact .some trivial

theorem segmentsFrom_enclosed (isRaw : Bool) (fuel depth : Nat) (cs : List Char) :
    Whenever (fun r => EnclosedSegments r.1) (segmentsFrom isRaw fuel depth cs) := by
  induction fuel generalizing depth cs with
  | zero => exact .none
  | succ fuel ih =>
    unfold segmentsFrom
    refine (Whenever.trivial _).bind fun r _ => ?_
    obtain ⟨raw, doubled, rest⟩ := r
    dsimp only
    suffices behind : ∀ value : List Char, _ from
      .ite ((Whenever.trivial _).bind fun value _ => behind value)
        ((Whenever.trivial _).bind fun value _ => behind value)
    intro value
    refine .ite ((ih depth rest).bind fun _ enclosed => .some ⟨trivial, enclosed⟩) ?_
    split
    · refine .guarded (((partsNest _).outside [] _).bind fun source nested => .guarded ?_)
      obtain ⟨-, nests⟩ := nested
      refine (Whenever.trivial _).bind fun converted _ => ?_
      refine (formatPart_enclosed (ih _) _).bind fun format inFormat => ?_
      split
      · exact (ih depth _).bind fun _ enclosed =>
          .some ⟨trivial, ⟨encloses_of_nests nests, inFormat⟩, enclosed⟩
      · exact .none
    · exact .ite (.some ⟨trivial, trivial⟩) .none
    · exact .some ⟨trivial, trivial⟩

theorem segments_enclosed (isRaw : Bool) (body : List Char) :
    Whenever EnclosedSegments (segments isRaw body) := by
  unfold segments
  exact (segmentsFrom_enclosed isRaw _ _ body).bind fun _ enclosed => .ite (.some enclosed) .none

end Formatted
end Bindery

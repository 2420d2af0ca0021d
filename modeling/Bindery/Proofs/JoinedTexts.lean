import Bindery.Proofs.BracketBehind
import Bindery.Proofs.WordPlaces

/- The words of a text that is made of other texts. A text on one line has its words also where more text
   follows, when that begins with a character that ends a word. -/
namespace Bindery.Token

open Reader

/-- The words of a text that is scanned while these brackets are open, wherever it stands. -/
def Speaks (opened cs : List Char) (tokens : List Token) : Prop :=
  ∀ fuel place started, cs.length < fuel →
    ∃ ts, scan fuel place opened started cs = some ts ∧ ts.map Lexeme.token = tokens

namespace Speaks

variable {opened inside cs more rest : List Char} {tokens : List Token} {c : Char} {token : Token}

theorem nil : Speaks [] [] [] := by
  intro fuel place started enough
  obtain ⟨fuel, rfl⟩ := Nat.exists_eq_succ_of_ne_zero enough.ne'
  exact ⟨[], rfl, rfl⟩

theorem blank (isBlank : (c = ' ' || c = '\t' || c = '\x0c') = true) (speaks : Speaks opened cs tokens) :
    Speaks opened (c :: cs) tokens := by
  intro fuel place started enough
  obtain ⟨fuel, rfl⟩ := Nat.exists_eq_succ_of_ne_zero (Nat.ne_zero_of_lt enough)
  obtain ⟨ts, found, same⟩ := speaks fuel (place.after c) started (by simpa using enough)
  exact ⟨ts, (scan_blank isBlank).trans found, same⟩

theorem word (starts : startsWord c = true) (read : next? (c :: more) = some (token, rest))
    (opens : opens token opened c = some inside) (shorter : rest.length ≤ more.length)
    (speaks : Speaks inside rest tokens) : Speaks opened (c :: more) (token :: tokens) := by
  intro fuel place started enough
  obtain ⟨fuel, rfl⟩ := Nat.exists_eq_succ_of_ne_zero (Nat.ne_zero_of_lt enough)
  rw [List.length_cons, Nat.succ_eq_add_one, Nat.add_lt_add_iff_right] at enough
  obtain ⟨ts, found, rfl⟩ := speaks fuel
    (place.afterAll ((c :: more).take ((c :: more).length - rest.length))) true (lt_of_le_of_lt shorter enough)
  exact ⟨_, (scan_word_iff starts).mpr ⟨token, rest, inside, _, ts, read, opens, found, rfl, rfl⟩, rfl⟩

/-- A word of letters, before a character that ends it. -/
theorem letters {w : String} {d : Char} (read : next? w.toList = some (.word w, []))
    (starts : (w.toList.head?.map startsWord).getD false = true) (ends : endsWords d = true)
    (speaks : Speaks opened (d :: more) tokens) :
    Speaks opened (w.toList ++ d :: more) (.word w :: tokens) := by
  have read : next? (w.toList ++ d :: more) = some (.word w, d :: more) := next?_followed ends read
  obtain ⟨c, cs, whole⟩ := List.exists_cons_of_ne_nil (show w.toList ≠ [] by rintro none; simp [none] at starts)
  rw [whole] at starts read ⊢
  refine word starts read rfl ?_ speaks
  simp

theorem bracket (outer : List Char) (room : outer.length < nestingLimit) (speaks : Speaks ('(' :: outer) cs tokens) :
    Speaks outer ('(' :: cs) (.mark "(" :: tokens) :=
  word rfl (next?_bracket (.inl rfl) cs) (if_pos room) le_rfl speaks

theorem closed (speaks : Speaks opened cs tokens) : Speaks ('(' :: opened) (')' :: cs) (.mark ")" :: tokens) :=
  word rfl (next?_bracket (.inr rfl) cs) rfl le_rfl speaks

theorem scanAll (speaks : Speaks [] cs tokens) (unbroken : '\r' ∉ cs) :
    ∃ ts, scanAll cs = some ts ∧ ts.map Lexeme.token = tokens := by
  unfold Token.scanAll
  rw [unifyBreaks_of_notMem unbroken]
  exact speaks _ _ _ (Nat.lt_succ_self _)

end Speaks

section
variable {opened cs : List Char} {alone words : List Lexeme}

/-- A word that takes nothing is never passed. -/
theorem scan_stuck {c : Char} {more : List Char} {token : Token} (starts : startsWord c = true)
    (stuck : next? (c :: more) = some (token, c :: more)) (fuel : Nat) (place : Place) (opened : List Char)
    (started : Bool) : scan fuel place opened started (c :: more) = none := by
  induction fuel generalizing place opened started with
  | zero => rfl
  | succ fuel ih =>
    refine Option.eq_none_iff_forall_not_mem.mpr fun ts found => ?_
    obtain ⟨_, _, inside, behind, tail, read, -, later, -⟩ := (scan_word_iff starts).mp found
    rw [stuck] at read
    cases read
    rw [ih] at later
    cases later

/-- The words of a text on one line stand wherever the text does, when a closing bracket behind it would
    be its last word. -/
theorem speaks_followed {fuel fuel' : Nat} {place place' : Place} {started started' : Bool} {outer : List Char}
    {d : Char} {more : List Char} {tokens : List Token} (unbroken : '\n' ∉ cs)
    (apart : scan fuel place opened started cs = some alone)
    (found : scan fuel' place' (opened ++ ['(']) started' (cs ++ [')']) = some words)
    (outside : outer = [] ∨ outer = ['(']) (ends : endsWords d = true)
    (speaks : Speaks outer (d :: more) tokens) :
    Speaks (opened ++ outer) (cs ++ d :: more) ((spoken alone).map Lexeme.token ++ tokens) := by
  induction fuel generalizing fuel' place place' opened started started' cs alone words with
  | zero => cases apart
  | succ fuel ih =>
    cases fuel' with
    | zero => cases found
    | succ fuel' =>
      cases cs with
      | nil =>
        obtain ⟨rfl, rfl⟩ := scan_nil_iff.mp apart
        exact speaks
      | cons c cs =>
        have later : '\n' ∉ cs := fun member => unbroken (List.mem_cons_of_mem c member)
        rcases (character_cases c).symm with (blank | rfl | rfl | rfl) | starts
        · rw [List.cons_append, scan_blank blank] at found
          rw [scan_blank blank] at apart
          exact .blank blank (ih later apart found)
        · rw [scan_comment_behind (List.takeWhile_eq_self_iff.mpr fun c member => ?_)] at found
          · cases found
          · refine decide_eq_true fun breaks => unbroken ?_
            simpa [breaks] using member
        · exact absurd List.mem_cons_self unbroken
        · obtain ⟨rest, rfl, -, -⟩ := scan_join_iff.mp apart
          exact absurd List.mem_cons_self later
        obtain ⟨token, rest, inside, next, tail, read, opens, further, rfl, -⟩ := (scan_word_iff starts).mp apart
        have found : scan (fuel' + 1) place' (opened ++ ['(']) started' ((c :: cs) ++ [')']) = some words := found
        obtain ⟨token', rest', inside', next', tail', read', opens', found, rfl, -⟩ :=
          (scan_word_iff starts).mp found
        have behind : next? ((c :: cs) ++ [')']) = some (token', rest') := read'
        rw [next?_behind (by simp), read] at behind
        cases behind
        obtain rfl := opens_append opens opens'
        have suffix : rest <:+ c :: cs := (next?_leaves _ _ read).1
        have shorter : rest.length ≤ cs.length := by
          rcases List.suffix_cons_iff.mp suffix with rfl | within
          · rw [scan_stuck starts read] at further
            cases further
          · exact within.length_le
        have unbroken : '\n' ∉ rest := fun member => unbroken (suffix.subset member)
        have wordy : token ≠ .newline := next?_wordy _ _ read
        have kept : spoken (⟨token, place⟩ :: tail) = ⟨token, place⟩ :: spoken tail :=
          List.filter_cons_of_pos (by simpa using wordy)
        rw [kept]
        refine .word starts (next?_followed ends read) ?_ (by simpa using shorter) (ih unbroken further found)
        rcases outside with rfl | rfl
        · simpa using opens
        · exact opens'

/-! ### A text on one line -/

variable {s : List Char} {d : Char} {more : List Char} {tokens : List Token}
  (unbroken : ∀ c ∈ s, c ≠ '\n' ∧ c ≠ '\r') (apart : scanAll s = some alone)
  (found : scanAll ('(' :: s ++ [')']) = some words)
include unbroken apart found

theorem speaks_before {outer : List Char} (outside : outer = [] ∨ outer = ['(']) (ends : endsWords d = true)
    (speaks : Speaks outer (d :: more) tokens) :
    Speaks outer (s ++ d :: more) ((spoken alone).map Lexeme.token ++ tokens) := by
  obtain ⟨fuel, tail, rfl, later⟩ := scanAll_opened found
  have same : Text.unifyBreaks s = s := unifyBreaks_of_notMem fun member => (unbroken _ member).2 rfl
  unfold scanAll at apart
  rw [same] at apart later
  have flat : '\n' ∉ s := fun member => (unbroken _ member).1 rfl
  exact speaks_followed flat apart later outside ends speaks

/-- In brackets the text may stand before anything. -/
theorem speaks_bracketed (speaks : Speaks [] (d :: more) tokens) : Speaks [] ('(' :: s ++ ')' :: d :: more)
    (.mark "(" :: (spoken alone).map Lexeme.token ++ .mark ")" :: tokens) :=
  .bracket [] (by decide) (speaks_before unbroken apart found (.inr rfl) (by decide) speaks.closed)

end

end Bindery.Token

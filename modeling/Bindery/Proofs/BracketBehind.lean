import Bindery.Proofs.FollowedTexts
import Bindery.Proofs.ScannedBrackets

/- A closing bracket behind a text changes none of its words. -/
namespace Bindery.Token

open Reader

/-- Brackets that are open further out do not matter. -/
theorem opens_append {token : Token} {opened outer inside inside' : List Char} {c : Char}
    (alone : opens token opened c = some inside) (within : opens token (opened ++ outer) c = some inside') :
    inside' = inside ++ outer := by
  cases token with
  | mark m =>
    have alone : nest opened c = some inside := alone
    have within : nest (opened ++ outer) c = some inside' := within
    have before := nest_cases alone
    have after := nest_cases within
    grind
  | _ =>
    cases alone
    cases within
    rfl

/-- A round bracket is a word of its own. -/
theorem next?_bracket {c : Char} (isBracket : c = '(' ∨ c = ')') (rest : List Char) :
    next? (c :: rest) = some (.mark (String.ofList [c]), rest) := by
  have short : (longMarks.find? fun m => m.toList.isPrefixOf (c :: rest)) = none := by
    rcases isBracket with rfl | rfl <;> simp [longMarks]
  unfold next?
  rw [short]
  rcases isBracket with rfl | rfl <;> rfl

theorem next?_wordy (cs : List Char) : Whenever (fun r => r.1 ≠ .newline) (next? cs) := by
  unfold next?
  split
  · exact .none
  · refine .ite ?_ (.ite ?_ (.ite ?_ (.ite ?_ ?_)))
    · dsimp only
      split
      · exact (Whenever.trivial _).map fun _ _ => nofun
      · exact .ite (.some nofun) .none
    · exact (Whenever.trivial _).bind fun _ _ => (Whenever.trivial _).map fun _ _ => nofun
    · exact (Whenever.trivial _).map fun _ _ => nofun
    · exact (Whenever.trivial _).map fun _ _ => nofun
    · split
      · exact .some nofun
      · exact .ite (.some nofun) .none

/-- The bracket that closes the outer one is the last word. -/
theorem scan_end {fuel : Nat} {place : Place} {started : Bool} {words : List Lexeme}
    (found : scan fuel place ['('] started [')'] = some words) : words = [⟨.mark ")", place⟩] := by
  cases fuel with
  | zero => cases found
  | succ fuel =>
    obtain ⟨token, rest, inside, behind, tail, read, opens, found, rfl, -⟩ :=
      (scan_word_iff (c := ')') rfl).mp found
    rw [next?_bracket (.inr rfl)] at read
    cases read
    cases opens
    cases fuel with
    | zero => cases found
    | succ fuel =>
      cases found
      rfl

/-- A comment reaches to the end of the line, and over the bracket when there is no further line. -/
theorem comment_behind (cs : List Char) :
    ((cs ++ [')']).takeWhile (· ≠ '\n') = cs.takeWhile (· ≠ '\n') ∧
      (cs ++ [')']).drop (cs.takeWhile (· ≠ '\n')).length =
        cs.drop (cs.takeWhile (· ≠ '\n')).length ++ [')']) ∨
    (cs ++ [')']).takeWhile (· ≠ '\n') = cs ++ [')'] := by
  by_cases broken : '\n' ∈ cs
  · obtain ⟨line, rest, rfl, unbroken⟩ := List.eq_append_cons_of_mem broken
    have stops : ∀ rest, (line ++ '\n' :: rest).takeWhile (· ≠ '\n') = line := by
      intro rest
      have kept : ∀ c ∈ line, decide (c ≠ '\n') = true := by
        rintro c member
        exact decide_eq_true fun same => unbroken (same ▸ member)
      rw [List.takeWhile_append_of_pos kept, List.takeWhile_cons_of_neg (by simp), List.append_nil]
    rw [stops rest, List.append_assoc, List.cons_append, stops, List.drop_left, List.drop_left]
    exact .inl ⟨rfl, rfl⟩
  · refine .inr (List.takeWhile_eq_self_iff.mpr ?_)
    rintro c member
    rcases List.mem_append.mp member with inside | last
    · exact decide_eq_true fun same => broken (same ▸ inside)
    · rw [List.mem_singleton.mp last]
      rfl

/-- A comment takes the bracket behind it, and the outer one stays open. -/
theorem scan_comment_behind {cs : List Char}
    (whole : ('#' :: cs ++ [')']).takeWhile (· ≠ '\n') = '#' :: cs ++ [')']) (fuel : Nat) (place : Place)
    (opened : List Char) (started : Bool) :
    scan fuel place (opened ++ ['(']) started ('#' :: cs ++ [')']) = none := by
  rw [List.cons_append] at whole ⊢
  cases fuel with
  | zero => rfl
  | succ fuel =>
    rw [scan_comment, whole, List.drop_length]
    cases fuel with
    | zero => rfl
    | succ fuel =>
      refine Option.eq_none_iff_forall_ne_some.mpr fun ts found => ?_
      simpa using (scan_nil_iff.mp found).1

/-- Where a line ends does not matter between brackets. -/
def spoken (ts : List Lexeme) : List Lexeme := ts.filter (·.token ≠ .newline)

/-- A text whose words are read when it stands alone has the same words before a closing bracket. -/
theorem scan_behind {fuel fuel' : Nat} {place place' : Place} {opened : List Char} {started started' : Bool}
    {cs : List Char} {alone words : List Lexeme}
    (apart : scan fuel place opened started cs = some alone)
    (found : scan fuel' place' (opened ++ ['(']) started' (cs ++ [')']) = some words) :
    ∃ inner c, words = inner ++ [c] ∧ c.token = .mark ")" ∧
      inner.map Lexeme.token = (spoken alone).map Lexeme.token := by
  induction fuel generalizing fuel' place place' opened started started' cs alone words with
  | zero => cases apart
  | succ fuel ih =>
    cases fuel' with
    | zero => cases found
    | succ fuel' =>
      cases cs with
      | nil =>
        obtain ⟨rfl, rfl⟩ := scan_nil_iff.mp apart
        obtain rfl := scan_end found
        exact ⟨[], ⟨.mark ")", place'⟩, rfl, rfl, rfl⟩
      | cons c more =>
        rw [List.cons_append] at found
        rcases character_cases c with starts | blank | rfl | rfl | rfl
        · obtain ⟨token, rest, inside, next, tail, read, nests, later, rfl, -⟩ :=
            (scan_word_iff starts).mp apart
          obtain ⟨token', rest', inside', next', tail', read', nests', later', rfl, -⟩ :=
            (scan_word_iff starts).mp found
          rw [← List.cons_append, next?_behind (by simp), read] at read'
          cases read'
          obtain rfl := opens_append nests nests'
          obtain ⟨inner, d, rfl, closes, same⟩ := ih later later'
          refine ⟨⟨token, place'⟩ :: inner, d, rfl, closes, ?_⟩
          have wordy : token ≠ .newline := next?_wordy _ _ read
          have kept : spoken (⟨token, place⟩ :: tail) = ⟨token, place⟩ :: spoken tail :=
            List.filter_cons_of_pos (by simpa using wordy)
          rw [kept]
          exact congrArg (token :: ·) same
        · rw [scan_blank blank] at apart found
          exact ih apart found
        · rw [scan_comment] at apart
          rcases comment_behind ('#' :: more) with ⟨same, shorter⟩ | whole
          · rw [List.cons_append] at same shorter
            rw [scan_comment, same, shorter] at found
            exact ih apart found
          · rw [← List.cons_append, scan_comment_behind whole] at found
            cases found
        · rw [scan_break] at apart found
          rw [if_neg (by simp)] at found
          split at apart
          · obtain ⟨tail, later, rfl⟩ := Option.map_eq_some_iff.mp apart
            have further := ih later found
            exact further
          · exact ih apart found
        · obtain ⟨rest, rfl, -, apart⟩ := scan_join_iff.mp apart
          obtain ⟨rest', same, -, found⟩ := scan_join_iff.mp found
          obtain rfl := (List.cons.inj same).2
          exact ih apart found

theorem unifyBreaks_behind (s : List Char) :
    Text.unifyBreaks (s ++ [')']) = Text.unifyBreaks s ++ [')'] := by
  fun_induction Text.unifyBreaks s with
  | case1 => simp [Text.unifyBreaks]
  | case2 cs ih => simp [Text.unifyBreaks, ih]
  | case3 cs lone ih =>
    have lone : ∀ more, cs ++ [')'] ≠ '\n' :: more := by
      intro more same
      cases cs with
      | nil => cases same
      | cons c cs => exact lone cs (by rw [(List.cons.inj same).1])
    rw [List.cons_append, Text.unifyBreaks.eq_3 _ lone, ih]
    rfl
  | case4 c cs other lone ih =>
    rw [List.cons_append, Text.unifyBreaks.eq_4 _ _ (fun _ is _ => lone is) lone, ih]
    rfl

/-- The words of a text in brackets begin with the first of them. -/
theorem scanAll_opened {s : List Char} {words : List Lexeme}
    (found : scanAll ('(' :: s ++ [')']) = some words) : ∃ fuel tail, words = ⟨.mark "(", .origin⟩ :: tail ∧
      scan fuel (Place.origin.afterAll ['(']) ['('] true (Text.unifyBreaks s ++ [')']) = some tail := by
  unfold scanAll at found
  have whole : Text.unifyBreaks ('(' :: s ++ [')']) = '(' :: (Text.unifyBreaks s ++ [')']) :=
    congrArg ('(' :: ·) (unifyBreaks_behind s)
  rw [whole] at found
  obtain ⟨token, rest, inside, place, tail, read, opens, later, rfl, came⟩ :=
    (scan_word_iff (c := '(') rfl).mp found
  rw [next?_bracket (.inl rfl)] at read
  cases read
  cases opens
  have behind : place = Place.origin.afterAll ['('] := by
    rw [came]
    congr 1
    simp
  exact ⟨_, tail, rfl, behind ▸ later⟩

/-- The words of a text in brackets are those of the text itself when it has any, without its line breaks.
    They stand between two brackets that belong to each other. -/
theorem scanAll_alone {s : List Char} {alone words : List Lexeme} (apart : scanAll s = some alone)
    (found : scanAll ('(' :: s ++ [')']) = some words) :
    ∃ o inner c, words = o :: (inner ++ [c]) ∧ o.token = .mark "(" ∧ c.token = .mark ")" ∧
      inner.map Lexeme.token = (spoken alone).map Lexeme.token ∧ Balanced inner := by
  have balanced : Balanced alone := scanAll_balanced s alone apart
  obtain ⟨fuel, tail, rfl, later⟩ := scanAll_opened found
  obtain ⟨inner, c, rfl, closes, same⟩ := scan_behind apart later
  refine ⟨_, inner, c, rfl, rfl, closes, same, ?_⟩
  refine (balanced.filter ?_).of_tokens same
  intro t ends
  have newline : t.token = .newline := by simpa using ends
  simp [weight, isOpening, isClosing, newline]

end Bindery.Token

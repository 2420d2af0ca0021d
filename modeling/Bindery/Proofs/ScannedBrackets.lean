import Bindery.Proofs.Brackets
import Bindery.Proofs.Outcomes

/- The brackets among the words of a text. Scanning keeps those that are open, so when a text begins and ends
   with none of them open its words are balanced. -/
namespace Bindery.Token

open Reader

/-! ### One word -/

/-- The brackets that are open behind a word. Only marks open or close any. -/
def opens (token : Token) (opened : List Char) (c : Char) : Option (List Char) :=
  match token with
  | .mark _ => nest opened c
  | _ => some opened

theorem nest_cases {opened inside : List Char} {c : Char} (nests : nest opened c = some inside) :
    (openers.contains c = true ∧ inside = c :: opened) ∨
    (openers.contains c = false ∧ closers.contains c = true ∧ ∃ o, opened = o :: inside) ∨
    (openers.contains c = false ∧ closers.contains c = false ∧ inside = opened) := by
  unfold nest at nests
  split at nests
  · next opener =>
    split at nests
    · exact .inl ⟨opener, (Option.some.inj nests).symm⟩
    · cases nests
  · next other =>
    rw [Bool.not_eq_true] at other
    split at nests
    · next closer =>
      split at nests
      · next o rest =>
        split at nests
        · exact .inr (.inl ⟨other, closer, o, by rw [Option.some.inj nests]⟩)
        · cases nests
      · cases nests
    · next plain =>
      exact .inr (.inr ⟨other, Bool.not_eq_true _ ▸ plain, (Option.some.inj nests).symm⟩)

/-- A character with which neither a blank nor a comment nor a line break begins. -/
def startsWord (c : Char) : Bool :=
  !(c = ' ' || c = '\t' || c = '\x0c') && c ≠ '#' && c ≠ '\n' && c ≠ '\\'

theorem character_cases (c : Char) : startsWord c = true ∨ (c = ' ' || c = '\t' || c = '\x0c') = true ∨
    c = '#' ∨ c = '\n' ∨ c = '\\' := by
  by_cases blank : (c = ' ' || c = '\t' || c = '\x0c') = true
  · exact .inr (.inl blank)
  · simp only [startsWord, blank, Bool.not_false, Bool.true_and, Bool.and_eq_true, decide_eq_true_eq]
    tauto

/-! ### One step -/

section
variable {fuel : Nat} {place : Place} {opened : List Char} {started : Bool} {c : Char} {more : List Char}
  {ts : List Lexeme}

theorem scan_nil_iff : scan (fuel + 1) place opened started [] = some ts ↔ opened = [] ∧ ts = [] := by
  by_cases none : opened = []
  · simp only [scan, none, List.isEmpty_nil, ↓reduceIte, Option.some.injEq, true_and]
    exact eq_comm
  · simp [scan, none]

theorem scan_blank (blank : (c = ' ' || c = '\t' || c = '\x0c') = true) :
    scan (fuel + 1) place opened started (c :: more) = scan fuel (place.after c) opened started more := by
  simp only [scan, blank, ↓reduceIte]

theorem scan_comment : scan (fuel + 1) place opened started ('#' :: more) =
    scan fuel (place.afterAll (('#' :: more).takeWhile (· ≠ '\n'))) opened started
      (('#' :: more).drop (('#' :: more).takeWhile (· ≠ '\n')).length) := rfl

theorem scan_break : scan (fuel + 1) place opened started ('\n' :: more) =
    if opened.isEmpty && started then
      (scan fuel (place.after '\n') opened false more).map (⟨.newline, place⟩ :: ·)
    else scan fuel (place.after '\n') opened started more := rfl

theorem scan_join_iff : scan (fuel + 1) place opened started ('\\' :: more) = some ts ↔
    ∃ rest, more = '\n' :: rest ∧ rest ≠ [] ∧ scan fuel ⟨place.line + 1, 0⟩ opened started rest = some ts := by
  constructor
  · intro found
    simp [scan] at found
    split at found
    · next rest =>
      split at found
      · cases found
      · next filled => exact ⟨rest, rfl, filled, found⟩
    · cases found
  · rintro ⟨rest, rfl, filled, found⟩
    refine Eq.trans (if_neg ?_) found
    simpa using filled

theorem scan_word_iff (starts : startsWord c = true) :
    scan (fuel + 1) place opened started (c :: more) = some ts ↔ ∃ token rest inside behind tail,
      next? (c :: more) = some (token, rest) ∧ opens token opened c = some inside ∧
        scan fuel behind inside true rest = some tail ∧ ts = ⟨token, place⟩ :: tail ∧
        behind = place.afterAll ((c :: more).take ((c :: more).length - rest.length)) := by
  simp only [startsWord, Bool.and_eq_true, Bool.not_eq_true', decide_eq_true_eq] at starts
  obtain ⟨⟨⟨blank, comment⟩, breaks⟩, continues⟩ := starts
  simp only [scan, blank, comment, breaks, continues, ↓reduceIte, Bool.false_eq_true,
    Option.bind_eq_bind, Option.bind_eq_some_iff]
  constructor
  · rintro ⟨⟨token, rest⟩, read, found⟩
    have found : ((opens token opened c).bind fun inside => (scan fuel
        (place.afterAll ((c :: more).take ((c :: more).length - rest.length))) inside true rest).bind
          fun tail => some (⟨token, place⟩ :: tail)) = some ts := by
      cases token <;> exact found
    obtain ⟨inside, nests, found⟩ := Option.bind_eq_some_iff.mp found
    obtain ⟨tail, found, whole⟩ := Option.bind_eq_some_iff.mp found
    exact ⟨token, rest, inside, _, tail, read, nests, found, (Option.some.inj whole).symm, rfl⟩
  · rintro ⟨token, rest, inside, behind, tail, read, nests, found, rfl, rfl⟩
    refine ⟨(token, rest), read, ?_⟩
    cases token with
    | mark m =>
      have nests : nest opened c = some inside := nests
      simp only [nests, Option.bind_some, found]
      rfl
    | _ =>
      cases nests
      simp only [Option.bind_some, found]
      rfl

end

/-! ### The depth of the words -/

/-- A mark is the text that it stands for: one of the longer ones, or a single character. -/
theorem next?_mark (c : Char) (more : List Char) : Whenever
    (fun r => ∀ m, r.1 = .mark m → (m ∈ longMarks ∧ m.toList <+: c :: more) ∨ m = String.ofList [c])
    (next? (c :: more)) := by
  unfold next?
  refine .ite ?_ (.ite ?_ (.ite ?_ (.ite ?_ ?_)))
  · dsimp only
    split
    · exact (Whenever.trivial _).map fun _ _ => nofun
    · exact .ite (.some nofun) .none
  · exact (Whenever.trivial _).bind fun _ _ => (Whenever.trivial _).map fun _ _ => nofun
  · exact (Whenever.trivial _).map fun _ _ => nofun
  · exact (Whenever.trivial _).map fun _ _ => nofun
  · split
    · next m found =>
      have begins := List.find?_some (p := fun m : String => m.toList.isPrefixOf (c :: more)) found
      refine .some ?_
      rintro _ ⟨⟩
      exact .inl ⟨List.mem_of_find?_eq_some found, List.isPrefixOf_iff_prefix.mp begins⟩
    · refine .ite (.some ?_) .none
      rintro _ ⟨⟩
      exact .inr rfl

/-- A longer mark is no bracket and does not begin with one. -/
theorem longMarks_plain : ∀ m ∈ longMarks, m.toList ≠ [] ∧
    (m.toList.head?.any fun c => openers.contains c || closers.contains c) = false ∧
      weight ⟨.mark m, .origin⟩ = 0 := by
  decide

theorem weight_single (c : Char) (place : Place) : weight ⟨.mark (String.ofList [c]), place⟩ =
    if openers.contains c then 1 else if closers.contains c then -1 else 0 := by
  have marks : ∀ d : Char, (Token.mark (String.ofList [c]) = .mark (String.ofList [d])) ↔ c = d := by
    intro d
    rw [Token.mark.injEq, String.ofList_inj]
    simp
  have opening : isOpening ⟨.mark (String.ofList [c]), place⟩ = openers.contains c := by
    have round : Token.mark (String.ofList [c]) = .mark "(" ↔ c = '(' := marks '('
    have square : Token.mark (String.ofList [c]) = .mark "[" ↔ c = '[' := marks '['
    have curly : Token.mark (String.ofList [c]) = .mark "\x7b" ↔ c = '\x7b' := marks '\x7b'
    simp only [isOpening, openers, round, square, curly]
    simp [Bool.or_assoc]
  have closing : isClosing ⟨.mark (String.ofList [c]), place⟩ = closers.contains c := by
    have round : Token.mark (String.ofList [c]) = .mark ")" ↔ c = ')' := marks ')'
    have square : Token.mark (String.ofList [c]) = .mark "]" ↔ c = ']' := marks ']'
    have curly : Token.mark (String.ofList [c]) = .mark "\x7d" ↔ c = '\x7d' := marks '\x7d'
    simp only [isClosing, closers, round, square, curly]
    simp [Bool.or_assoc]
  rw [weight, opening, closing]

theorem weight_word {c : Char} {more rest opened inside : List Char} {token : Token} (place : Place)
    (read : next? (c :: more) = some (token, rest)) (nests : opens token opened c = some inside) :
    (inside.length : Int) = opened.length + weight ⟨token, place⟩ := by
  cases token with
  | mark m =>
    have nests := nest_cases nests
    rcases next?_mark c more _ read m rfl with ⟨long, begins⟩ | rfl
    · obtain ⟨filled, plain, weightless⟩ := longMarks_plain m long
      obtain ⟨d, ds, whole⟩ := List.exists_cons_of_ne_nil filled
      rw [whole] at begins plain
      obtain ⟨opener, closer⟩ := Bool.or_eq_false_iff.mp plain
      obtain rfl : d = c := (List.cons_prefix_cons.mp begins).1
      have weightless : weight ⟨.mark m, place⟩ = 0 := weightless
      rw [weightless]
      grind
    · rw [weight_single]
      grind
  | _ =>
    cases nests
    simp [weight, isOpening, isClosing]

/-- The words close what was open before them, and nothing more. -/
structure Closes (opened : Nat) (ts : List Lexeme) : Prop where
  nonneg : ∀ before, before <+: ts → 0 ≤ opened + depth before
  whole : opened + depth ts = 0

theorem Closes.nil : Closes 0 [] := ⟨fun before begins => by simp [List.prefix_nil.mp begins], rfl⟩

theorem Closes.cons {opened inside : Nat} {t : Lexeme} {ts : List Lexeme}
    (here : (inside : Int) = opened + weight t) (rest : Closes inside ts) : Closes opened (t :: ts) := by
  constructor
  · intro before begins
    rcases List.prefix_cons_iff.mp begins with rfl | ⟨more, rfl, later⟩
    · simp
    · have := rest.nonneg more later
      rw [depth_cons]
      omega
  · have := rest.whole
    rw [depth_cons]
    omega

theorem Closes.balanced {ts : List Lexeme} (closes : Closes 0 ts) : Balanced ts := by
  constructor
  · intro before begins
    simpa using closes.nonneg before begins
  · simpa using closes.whole

theorem scan_closes (fuel : Nat) (place : Place) (opened : List Char) (started : Bool) (cs : List Char) :
    Whenever (Closes opened.length) (scan fuel place opened started cs) := by
  induction fuel generalizing place opened started cs with
  | zero => exact .none
  | succ fuel ih =>
    cases cs with
    | nil =>
      intro ts found
      obtain ⟨rfl, rfl⟩ := scan_nil_iff.mp found
      exact .nil
    | cons c more =>
      rcases character_cases c with starts | blank | rfl | rfl | rfl
      · intro ts found
        obtain ⟨token, rest, inside, next, tail, read, nests, later, rfl, -⟩ :=
          (scan_word_iff starts).mp found
        exact (ih _ _ _ _ tail later).cons (weight_word place read nests)
      · rw [scan_blank blank]
        exact ih _ _ _ _
      · rw [scan_comment]
        exact ih _ _ _ _
      · rw [scan_break]
        refine .ite ((ih _ _ _ _).map ?_) (ih _ _ _ _)
        intro tail closes
        exact closes.cons (by simp [weight, isOpening, isClosing])
      · intro ts found
        obtain ⟨rest, -, -, later⟩ := scan_join_iff.mp found
        exact ih _ _ _ _ ts later

theorem scanAll_balanced (s : List Char) : Whenever Balanced (scanAll s) :=
  fun ts found => (scan_closes _ _ _ _ _ ts found).balanced

end Bindery.Token

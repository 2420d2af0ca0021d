import Bindery.Proofs.SoundWords

/- Where the words of an expression stand: every word that is scanned is a stretch of the text, since
   each reading leaves an end of the text that it began with. Line breaks and brackets are no part of
   a word, so it stands in the text without the brackets around it, as the text was written. -/
namespace Bindery.Token

/-- A reading leaves an end of the text. -/
def Leaves {α : Type} (cs : List Char) (read : Option (α × List Char)) : Prop :=
  Whenever (fun r => r.2 <:+ cs) read

namespace Leaves

variable {α β : Type} {cs ds : List Char} {read : Option (α × List Char)}

theorem none : Leaves cs (none : Option (α × List Char)) := Whenever.none

theorem some {a : α} (suffix : ds <:+ cs) : Leaves cs (some (a, ds)) := Whenever.some suffix

theorem weaken (leaves : Leaves ds read) (suffix : ds <:+ cs) : Leaves cs read :=
  fun r found => (leaves r found).trans suffix

theorem bind {f : α × List Char → Option (β × List Char)} (first : Leaves cs read)
    (rest : ∀ r, r.2 <:+ cs → Leaves cs (f r)) : Leaves cs (read >>= f) := Whenever.bind first rest

theorem map (leaves : Leaves ds read) (suffix : ds <:+ cs) {f : α × List Char → β × List Char}
    (rest : ∀ r, (f r).2 = r.2) : Leaves cs (read.map f) :=
  Whenever.map (leaves.weaken suffix) fun r suffix => (rest r).symm ▸ suffix

end Leaves

/-! ### Numbers -/

theorem digitGroup_leaves (isDigit : Char → Bool) (lead : Bool) (cs : List Char) :
    Leaves cs (digitGroup isDigit lead cs) := by
  fun_induction digitGroup isDigit lead cs with
  | case1 => exact .none
  | case2 lead c _ more ih => exact ih.map (List.suffix_append [c, '_'] more) fun _ => rfl
  | case3 lead c _ d more _ _ ih => exact ih.map (List.suffix_cons c _) fun _ => rfl
  | case4 lead c _ d more => exact .some (List.suffix_cons c _)
  | case5 lead c => exact .some List.nil_suffix
  | case6 lead c cs _ _ ih => exact ih.weaken (List.suffix_cons c cs)
  | case7 => exact .none

theorem fractionPart_leaves (cs : List Char) : Leaves cs (fractionPart cs) := by
  unfold fractionPart
  exact Whenever.ite (digitGroup_leaves _ _ _) (.some (List.suffix_refl _))

theorem pointPart_leaves (cs : List Char) : Leaves cs (pointPart cs) := by
  unfold pointPart
  split
  · rename_i more
    exact (fractionPart_leaves more).map (List.suffix_cons '.' more) fun _ => rfl
  · exact .some (List.suffix_refl _)

theorem exponentPart_leaves (cs : List Char) : Leaves cs (exponentPart cs) := by
  have digits := digitGroup_leaves Char.isDigit false
  have same : ∀ {a : Option Int}, Leaves cs (some (a, cs)) := .some (List.suffix_refl cs)
  unfold exponentPart
  split
  · rename_i e more
    refine Whenever.ite ?_ same
    split
    · rename_i ds
      exact (digits ds).map (List.suffix_append [e, '+'] ds) fun _ => rfl
    · rename_i ds
      exact (digits ds).map (List.suffix_append [e, '-'] ds) fun _ => rfl
    · exact Whenever.ite ((digits _).map (List.suffix_cons e _) fun _ => rfl) same
    · exact same
  · exact same

/-- What is left behind the fraction, the exponent and the mark of an imaginary number. -/
theorem decimalTail_leaves (whole cs : List Char) : Leaves cs (decimalTail whole cs) := by
  unfold decimalTail
  refine Leaves.bind (pointPart_leaves cs) fun front here => ?_
  refine Leaves.bind ((exponentPart_leaves _).weaken here) fun behind here => ?_
  dsimp only
  split
  · rename_i c more text
    have there := (List.suffix_cons c more).trans (text ▸ here)
    refine .ite (.ite (.some there) .refused) ?_
    exact .guarded (.ite (.some here) (.guarded (.some here)))
  · exact .guarded (.ite (.some here) (.guarded (.some here)))

theorem basedNumber_leaves (base : Nat) (isDigit : Char → Bool) (cs : List Char) :
    Leaves cs (basedNumber base isDigit cs) := by
  unfold basedNumber
  refine Whenever.bind (digitGroup_leaves _ _ _) fun r suffix => ?_
  exact .guarded (.ite (.some suffix) .none)

theorem number?_leaves (cs : List Char) : Leaves cs (number? cs) := by
  have decimal : Leaves cs
      ((digitGroup Char.isDigit false cs).bind fun r => decimalTail r.1 r.2) :=
    Whenever.bind (digitGroup_leaves _ _ _) fun r suffix =>
      Leaves.weaken (decimalTail_leaves r.1 r.2) suffix
  unfold number?
  split
  · rename_i x more
    have behind : more <:+ '0' :: x :: more := List.suffix_append ['0', x] more
    have based : ∀ base isDigit, Leaves ('0' :: x :: more) (basedNumber base isDigit more) :=
      fun base isDigit => (basedNumber_leaves base isDigit more).weaken behind
    exact Whenever.ite (based _ _) (.ite (based _ _) (.ite (based _ _) decimal))
  · exact decimal

/-! ### Quoted text -/

theorem shortBody_leaves (quote : Char) (cs : List Char) : Leaves cs (shortBody quote cs) := by
  fun_induction shortBody quote cs with
  | case1 => exact .none
  | case2 c cs ih => exact ih.map (List.suffix_append ['\\', c] cs) fun _ => rfl
  | case3 cs => exact .some (List.suffix_cons _ cs)
  | case4 => exact .none
  | case5 c cs _ _ _ ih => exact ih.map (List.suffix_cons c cs) fun _ => rfl

theorem longBody_leaves (quote : Char) (cs : List Char) : Leaves cs (longBody quote cs) := by
  fun_induction longBody quote cs with
  | case1 => exact .none
  | case2 c cs ih => exact ih.map (List.suffix_append ['\\', c] cs) fun _ => rfl
  | case3 c d e more => exact .some (List.suffix_append [c, d, e] more)
  | case4 c d e more _ _ ih => exact ih.map (List.suffix_cons c _) fun _ => rfl
  | case5 c cs _ _ ih => exact ih.map (List.suffix_cons c cs) fun _ => rfl

theorem quotedBody_leaves (cs : List Char) : Leaves cs (quotedBody cs) := by
  unfold quotedBody
  split
  · rename_i q r s more
    refine Whenever.ite ((longBody_leaves q more).weaken (List.suffix_append [q, r, s] more))
      (.ite (.some (List.suffix_append [q, r] (s :: more))) ?_)
    exact (shortBody_leaves q _).weaken (List.suffix_cons q _)
  · exact Whenever.ite (.some List.nil_suffix) .none
  · exact .none

/-! ### Words -/

/-- A stretch of a text whose characters may all belong to a word. -/
structure WordIn (cs w : List Char) : Prop where
  inside : w <:+: cs
  parts : ∀ c ∈ w, isWordPart c = true

/-- Words that stand in a text. -/
def WordsIn (cs : List Char) (ts : List Lexeme) : Prop :=
  ∀ t ∈ ts, ∀ w, t.token = .word w → WordIn cs w.toList

section
variable {cs ds w : List Char} {t : Lexeme} {ts : List Lexeme}

theorem WordIn.weaken (stands : WordIn ds w) (within : ds <:+: cs) : WordIn cs w :=
  ⟨stands.inside.trans within, stands.parts⟩

theorem WordsIn.weaken (stand : WordsIn ds ts) (within : ds <:+: cs) : WordsIn cs ts :=
  fun t member w own => (stand t member w own).weaken within

theorem WordsIn.cons (first : ∀ w, t.token = .word w → WordIn cs w.toList) (stand : WordsIn cs ts) :
    WordsIn cs (t :: ts) :=
  List.forall_mem_cons.mpr ⟨first, stand⟩

theorem WordIn.avoids (stands : WordIn cs w) {c : Char} (apart : isWordPart c = false) : c ∉ w :=
  fun member => by simp [stands.parts c member] at apart

end

/-- A word that is read begins the text. -/
theorem next?_leaves (cs : List Char) : Whenever
    (fun r => r.2 <:+ cs ∧ ∀ w, r.1 = .word w → WordIn cs w.toList) (next? cs) := by
  unfold next?
  split
  · exact .none
  · rename_i c more
    refine .ite ?_ (.ite ?_ (.ite ?_ (.ite ?_ ?_)))
    · dsimp only
      split
      · exact Whenever.map (Leaves.weaken (quotedBody_leaves _) (List.drop_suffix _ _))
          fun _ suffix => ⟨suffix, nofun⟩
      · refine .ite (.some ⟨List.drop_suffix _ _, ?_⟩) .none
        rintro w ⟨⟩
        rw [String.toList_ofList]
        exact ⟨(List.takeWhile_prefix _).isInfix, List.all_eq_true.mp List.all_takeWhile⟩
    · exact Whenever.bind (quotedBody_leaves _) fun _ suffix =>
        (Whenever.trivial _).map fun _ _ => ⟨suffix, nofun⟩
    · exact Whenever.map (number?_leaves _) fun _ suffix => ⟨suffix, nofun⟩
    · exact Whenever.map (decimalTail_leaves _ _) fun _ suffix => ⟨suffix, nofun⟩
    · split
      · exact .some ⟨List.drop_suffix _ _, nofun⟩
      · exact .ite (.some ⟨List.suffix_cons c more, nofun⟩) .none

theorem scan_wordsIn (fuel : Nat) (place : Place) (opened : List Char) (started : Bool)
    (cs : List Char) : Whenever (WordsIn cs) (scan fuel place opened started cs) := by
  induction fuel generalizing place opened started cs with
  | zero => exact .none
  | succ fuel ih =>
    have later : ∀ {place opened started} {ds : List Char}, ds <:+ cs →
        Whenever (WordsIn cs) (scan fuel place opened started ds) :=
      fun suffix ts found => (ih _ _ _ _ ts found).weaken suffix.isInfix
    unfold scan
    split
    · exact .ite (.some (by simp [WordsIn])) .none
    · rename_i c more
      have behind : more <:+ c :: more := List.suffix_cons c more
      refine .ite (later behind) (.ite (later (List.drop_suffix _ _)) (.ite ?_ (.ite ?_ ?_)))
      · exact .ite ((later behind).map fun _ stand => stand.cons nofun) (later behind)
      · split
        · rename_i rest
          exact .ite .none (later (List.suffix_append [c, '\n'] rest))
        · exact .none
      · refine (next?_leaves _).bind fun r begun => ?_
        dsimp only
        split <;> exact (Whenever.trivial _).bind fun _ _ => (later begun.1).bind fun _ stand =>
          .some (stand.cons begun.2)

/-! ### The text as it was written -/

section
variable {w : List Char} {c : Char} (absent : c ∉ w) {cs : List Char}
include absent

theorem eq_nil_of_prefix_cons (begins : w <+: c :: cs) : w = [] := by
  rcases List.prefix_cons_iff.mp begins with none | ⟨more, rfl, _⟩
  · exact none
  · exact absurd (List.mem_cons_self ..) absent

theorem infix_of_cons (inside : w <:+: c :: cs) : w <:+: cs := by
  rcases List.infix_cons_iff.mp inside with begins | later
  · rw [eq_nil_of_prefix_cons absent begins]
    exact List.nil_infix
  · exact later

theorem infix_of_concat (inside : w <:+: cs ++ [c]) : w <:+: cs := by
  rcases List.infix_concat_iff.mp inside with ends | earlier
  · rcases List.suffix_concat_iff.mp ends with rfl | ⟨front, rfl, _⟩
    · exact List.nil_infix
    · exact absurd (List.mem_append_right front (List.mem_singleton_self c)) absent
  · exact earlier

end

section
variable {w : List Char} (unbroken : '\n' ∉ w) {s : List Char}
include unbroken

theorem prefix_of_unbroken (begins : w <+: Text.unifyBreaks s) : w <+: s := by
  fun_induction Text.unifyBreaks s generalizing w with
  | case1 => exact begins
  | case2 | case3 =>
    rw [eq_nil_of_prefix_cons unbroken begins]
    exact List.nil_prefix
  | case4 c cs _ _ ih =>
    rcases List.prefix_cons_iff.mp begins with rfl | ⟨more, rfl, later⟩
    · exact List.nil_prefix
    · exact List.cons_prefix_cons.mpr ⟨rfl, ih (fun member => unbroken (.tail c member)) later⟩

theorem infix_of_unbroken (inside : w <:+: Text.unifyBreaks s) : w <:+: s := by
  fun_induction Text.unifyBreaks s with
  | case1 => exact inside
  | case2 cs ih =>
    exact (ih (infix_of_cons unbroken inside)).trans (List.suffix_append ['\r', '\n'] cs).isInfix
  | case3 cs _ ih => exact List.infix_cons (ih (infix_of_cons unbroken inside))
  | case4 c cs other lone ih =>
    rcases List.infix_cons_iff.mp inside with begins | later
    · rw [← Text.unifyBreaks.eq_4 c cs other lone] at begins
      exact (prefix_of_unbroken unbroken begins).isInfix
    · exact List.infix_cons (ih later)

end

/-- A word of bracketed text stands between the brackets. -/
theorem scanAll_bracketed (s : List Char) :
    Whenever (WordsIn s) (scanAll ('(' :: s ++ [')'])) := by
  intro ts scanned t member w own
  have stands : WordIn _ w.toList := scan_wordsIn _ _ _ _ _ ts scanned t member w own
  have inside := infix_of_unbroken (stands.avoids (by decide)) stands.inside
  rw [List.cons_append] at inside
  refine ⟨infix_of_concat (c := ')') (stands.avoids (by decide)) ?_, stands.parts⟩
  exact infix_of_cons (stands.avoids (by decide)) inside

end Bindery.Token

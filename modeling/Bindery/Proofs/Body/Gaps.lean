import Bindery.Proofs.Body.Moves
import Mathlib.Data.List.Basic
import Mathlib.Data.List.TakeWhile
import Mathlib.Tactic.Common

/- What a reader passes without reading it: separators, comments, and the ends of joined lines. Where a
   line is over, the next visible character stands on a later one. -/
namespace Bindery.Body

/-- White text: separators, comments with the ends of their lines, and joined lines. -/
inductive White : List Char → Prop where
  | nil : White []
  | separator {x : Char} {cs : List Char} : isSeparator x = true → White cs → White (x :: cs)
  | comment {words cs : List Char} : '\n' ∉ words → White cs → White ('#' :: (words ++ '\n' :: cs))
  | joined {cs : List Char} : White cs → White ('\\' :: '\n' :: cs)
  | joinedReturn {cs : List Char} : White cs → White ('\\' :: '\r' :: '\n' :: cs)

/-- White text up to the end of a body, whose last comment may want the end of its line. -/
inductive Ending : List Char → Prop where
  | white {w : List Char} : White w → Ending w
  | comment {w words : List Char} : White w → '\n' ∉ words → Ending (w ++ '#' :: words)

/-- A text begins with a character that is neither white nor joins a line. -/
def Shows (cs : List Char) : Prop :=
  ∃ x rest, cs = x :: rest ∧ isSeparator x = false ∧ x ≠ '#' ∧ x ≠ '\\'

/-- Nothing visible follows on the line. -/
def LineOver (cs : List Char) : Prop :=
  ∀ x ∈ (cs.dropWhile fun x => isSeparator x && x != '\n').head?, x = '\n' ∨ x = '\\' ∨ x = '#'

namespace White

theorem separators {seps : List Char} (each : ∀ x ∈ seps, isSeparator x = true) : White seps := by
  induction seps with
  | nil => exact .nil
  | cons x xs ih =>
    obtain ⟨own, more⟩ := List.forall_mem_cons.mp each
    exact .separator own (ih more)

theorem append {v w : List Char} (first : White v) (second : White w) : White (v ++ w) := by
  induction first with
  | nil => exact second
  | separator own _ ih => exact .separator own ih
  | comment own _ ih => simpa using White.comment own ih
  | joined _ ih => exact .joined ih
  | joinedReturn _ ih => exact .joinedReturn ih

theorem tail {cs : List Char} (white : White ('\n' :: cs)) : White cs := by
  cases white with
  | separator _ rest => exact rest

theorem append_ending {v w : List Char} (first : White v) (second : Ending w) : Ending (v ++ w) := by
  cases second with
  | white more => exact .white (first.append more)
  | comment more own => simpa using Ending.comment (first.append more) own

theorem feed {words : List Char} (single : '\n' ∉ words) : White ('#' :: (words ++ ['\n'])) :=
  .comment single .nil

/-- Without the end of a line white text is nothing but separators. -/
theorem separators_of_notMem {w : List Char} (white : White w) (single : '\n' ∉ w) :
    ∀ x ∈ w, isSeparator x = true := by
  induction white with
  | nil => simp
  | separator own _ ih =>
    simp only [List.mem_cons, not_or] at single
    exact List.forall_mem_cons.mpr ⟨own, ih single.2⟩
  | comment | joined | joinedReturn => simp at single

/-- White text ends with a separator. -/
theorem last {w : List Char} (white : White w) : ∀ x ∈ w.getLast?, isSeparator x = true := by
  have behind : ∀ (front : List Char) {cs : List Char} {y : Char}, isSeparator y = true →
      (∀ x ∈ cs.getLast?, isSeparator x = true) → ∀ x ∈ (front ++ y :: cs).getLast?, isSeparator x = true := by
    intro front cs y own ih
    rw [List.getLast?_append_of_ne_nil _ (List.cons_ne_nil _ _), List.getLast?_cons]
    cases ends : cs.getLast? with
    | none => simpa using own
    | some x => simpa using ih x ends
  induction white with
  | nil => nofun
  | separator own _ ih => exact behind [] own ih
  | @comment words _ _ _ ih => exact behind ('#' :: words) rfl ih
  | joined _ ih => exact behind ['\\'] rfl ih
  | joinedReturn _ ih => exact behind ['\\', '\r'] rfl ih

end White

theorem Ending.tail {cs : List Char} (ending : Ending ('\n' :: cs)) : Ending cs := by
  generalize text : '\n' :: cs = whole at ending
  cases ending with
  | white white => exact .white (text ▸ white).tail
  | @comment w words white single =>
    cases w with
    | nil => simp at text
    | cons x w =>
      obtain ⟨rfl, rfl⟩ := List.cons.inj text
      exact .comment white.tail single

/-- Behind the end of a line the next visible character is on a later line. -/
theorem LineOver.breaks {w rest : List Char} (closed : LineOver (w ++ rest)) (white : White w)
    (shows : Shows rest) : '\n' ∈ w := by
  by_contra single
  obtain ⟨x, more, rfl, visible, notComment, notJoin⟩ := shows
  have blank : ∀ y ∈ w, (isSeparator y && y != '\n') = true := by
    intro y member
    have other : y ≠ '\n' := fun same => single (same ▸ member)
    simp [white.separators_of_notMem single y member, other]
  have first := closed x (by simp [List.dropWhile_append_of_pos blank, visible])
  rcases first with rfl | rfl | rfl
  · exact absurd visible (by decide)
  · exact notJoin rfl
  · exact notComment rfl

/-! ### Layout -/

section
variable {x : Char} {rest : List Char}

theorem LineOver.end_ : LineOver [] := by
  simp [LineOver]

theorem LineOver.at_ (first : x = '\n' ∨ x = '\\' ∨ x = '#') : LineOver (x :: rest) := by
  intro y member
  have stays : (isSeparator x && x != '\n') = false := by rcases first with rfl | rfl | rfl <;> decide
  rw [List.dropWhile_cons_of_neg (by simp [stays])] at member
  cases member
  exact first

theorem LineOver.behind (blank : isSeparator x = true) (closed : LineOver rest) : LineOver (x :: rest) := by
  by_cases feed : x = '\n'
  · exact .at_ (.inl feed)
  · unfold LineOver
    rwa [List.dropWhile_cons_of_pos (by simp [blank, feed])]

theorem LineOver.behindAll {seps : List Char} (blank : ∀ y ∈ seps, isSeparator y = true)
    (closed : LineOver rest) : LineOver (seps ++ rest) := by
  induction seps with
  | nil => exact closed
  | cons y ys ih =>
    obtain ⟨own, more⟩ := List.forall_mem_cons.mp blank
    exact .behind own (ih more)

end

/-- When only blanks and joined lines stand before the end of a line, the line is over. -/
theorem Gap.measure_over {comments : Bool} {fuel : Nat} {g gap : Gap}
    (measured : Gap.measure comments fuel g = some gap) (inLine : g.endOfLine = false)
    (ended : gap.endOfLine = true) : LineOver g.rest := by
  induction fuel generalizing g with
  | zero =>
    cases measured
    simp [inLine] at ended
  | succ fuel ih =>
    unfold Gap.measure at measured
    split at measured
    · rename_i text
      exact text ▸ .end_
    · rename_i c rest text
      rw [text]
      split_ifs at measured with feed space turn tab comment inLine' join
      · exact .at_ (.inl feed)
      · exact .behind (by rw [space]; decide) (ih measured inLine)
      · refine .behind ?_ (ih measured inLine)
        simp only [Bool.or_eq_true, decide_eq_true_eq] at turn
        rcases turn with rfl | rfl <;> decide
      · exact .behind (by rw [tab]; decide) (ih measured inLine)
      · simp [inLine] at inLine'
      · exact .at_ (.inr (.inl join))
      · cases measured
        simp [inLine] at ended

theorem Cursor.layout_over {x : Expect} {c d : Cursor} {found : Found}
    (seen : c.layout? x = some (found, d)) :
    d.rest = c.rest ∧ LineOver c.rest ∧ found ≠ .visible := by
  simp only [Cursor.layout?, Option.bind_eq_bind, Option.bind_eq_some_iff] at seen
  obtain ⟨gap, measured, seen⟩ := seen
  split at seen
  · contradiction
  · rename_i ended
    have closed : LineOver c.rest := Gap.measure_over measured rfl (by simpa using ended)
    repeat' split at seen
    all_goals cases seen
    all_goals exact ⟨rfl, closed, by simp⟩

/-! ### Passages -/

theorem afterAll_line (p : Place) (cs : List Char) :
    (p.afterAll cs).line = p.line + cs.count '\n' := by
  induction cs generalizing p with
  | nil => rfl
  | cons c cs ih =>
    have first : p.afterAll (c :: cs) = (p.after c).afterAll cs := rfl
    rw [first, ih, Place.after]
    by_cases feed : c = '\n'
    · simp [feed, Nat.add_assoc, Nat.add_comm 1]
    · simp [feed]

/-- The text between two places of a reader. -/
structure Passed (c : Cursor) (text : List Char) (d : Cursor) : Prop where
  rest : c.rest = text ++ d.rest
  offset : d.offset = c.offset + text.length
  place : d.place = c.place.afterAll text

namespace Passed

variable {c d e : Cursor} {text more : List Char}

theorem refl (c : Cursor) : Passed c [] c := ⟨rfl, rfl, rfl⟩

theorem trans (first : Passed c text d) (second : Passed d more e) : Passed c (text ++ more) e where
  rest := by rw [first.rest, second.rest, List.append_assoc]
  offset := by rw [second.offset, first.offset, List.length_append, Nat.add_assoc]
  place := by rw [second.place, first.place, Place.afterAll_append]

theorem line (passed : Passed c text d) : d.place.line = c.place.line + text.count '\n' := by
  rw [passed.place, afterAll_line]

theorem step {x : Char} {rest : List Char} (next : c.rest = x :: rest) : Passed c [x] c.step := by
  unfold Cursor.step
  rw [next]
  exact ⟨next, rfl, rfl⟩

theorem skip {n : Nat} (next : c.rest = text ++ more) (length : text.length = n) :
    Passed c text (c.skip n) := by
  induction text generalizing c n with
  | nil =>
    subst length
    exact refl c
  | cons x xs ih =>
    subst length
    have first := step next
    have rest : c.step.rest = xs ++ more := by
      have same := next.symm.trans first.rest
      simpa using same.symm
    exact first.trans (ih rest rfl)

theorem skipWhile (p : Char → Bool) : Passed c (c.rest.takeWhile p) (c.skipWhile p) :=
  skip List.takeWhile_append_dropWhile.symm rfl

theorem shorter (passed : Passed c text d) (some_ : text ≠ []) : d.rest.length < c.rest.length := by
  rw [passed.rest, List.length_append]
  exact Nat.lt_add_of_pos_left (List.length_pos_iff.mpr some_)

theorem notLonger (passed : Passed c text d) : d.rest.length ≤ c.rest.length := by
  rw [passed.rest, List.length_append]
  exact Nat.le_add_left _ _

theorem textUpTo (passed : Passed c text d) : c.textUpTo d.offset = String.ofList text := by
  rw [Cursor.textUpTo, passed.rest, passed.offset, Nat.add_sub_cancel_left, List.take_left]

/-- What lies between two places is one text. -/
theorem unique {text' : List Char} (passed : Passed c text d) (passed' : Passed c text' d) :
    text = text' := List.append_cancel_right (passed.rest.symm.trans passed'.rest)

end Passed

theorem Moved.passed {c d : Cursor} (moved : Moved c d) : ∃ text, Passed c text d := by
  induction moved with
  | here => exact ⟨[], .refl c⟩
  | @step d _ ih =>
    obtain ⟨text, passed⟩ := ih
    cases next : d.rest with
    | nil =>
      have still : d.step = d := by simp [Cursor.step, next]
      exact ⟨text, still.symm ▸ passed⟩
    | cons x rest => exact ⟨_, passed.trans (.step next)⟩
  | indents _ _ ih => exact ih.imp fun _ passed => ⟨passed.rest, passed.offset, passed.place⟩
  | inField _ _ ih => exact ih.imp fun _ passed => ⟨passed.rest, passed.offset, passed.place⟩

/-- What stands between a place and the next visible character. -/
structure Parted (c : Cursor) (w : List Char) (d : Cursor) : Prop where
  passed : Passed c w d
  between : d.rest = [] ∧ Ending w ∨ White w ∧ (Shows d.rest ∨ d.rest.head? = some '\\')

theorem Parted.white {c d : Cursor} {gap : List Char} (parted : Parted c gap d) (more : d.rest ≠ []) : White gap := by
  rcases parted.between with ⟨nothing, -⟩ | ⟨white, -⟩
  · exact absurd nothing more
  · exact white

theorem Parted.behind {c d e : Cursor} {v w : List Char} (first : Passed c v d) (white : White v)
    (second : Parted d w e) : Parted c (v ++ w) e where
  passed := first.trans second.passed
  between := second.between.imp (fun ⟨nothing, ending⟩ => ⟨nothing, white.append_ending ending⟩)
    fun ⟨more, shows⟩ => ⟨white.append more, shows⟩

theorem Cursor.rest_skipWhile (p : Char → Bool) (c : Cursor) :
    (c.skipWhile p).rest = c.rest.dropWhile p :=
  List.append_cancel_left
    ((Passed.skipWhile p).rest.symm.trans List.takeWhile_append_dropWhile.symm)

theorem Cursor.head_skipWhile {p : Char → Bool} {c : Cursor} {x : Char}
    (next : (c.skipWhile p).rest.head? = some x) : p x = false := by
  have stop := List.head?_dropWhile_not p c.rest
  rw [← c.rest_skipWhile, next] at stop
  simpa using stop

theorem Passed.comment {c : Cursor} {more : List Char} (text : c.rest = '#' :: more) :
    Passed c ('#' :: more.takeWhile (· ≠ '\n')) (c.skipWhile (· ≠ '\n')) := by
  simpa [text] using Passed.skipWhile (c := c) (· ≠ '\n')

/-- A comment goes up to the end of its line, or of the body. -/
theorem Parted.behind_comment {c e : Cursor} {more w : List Char} (text : c.rest = '#' :: more)
    (second : Parted (c.skipWhile (· ≠ '\n')) w e) :
    Parted c ('#' :: more.takeWhile (· ≠ '\n') ++ w) e := by
  refine ⟨(Passed.comment text).trans second.passed, ?_⟩
  have single : '\n' ∉ more.takeWhile (· ≠ '\n') := fun member => by
    simpa using List.mem_takeWhile_imp member
  have atEnd : ∀ x, (c.skipWhile (· ≠ '\n')).rest.head? = some x → x = '\n' := by
    intro x next
    simpa using Cursor.head_skipWhile next
  have line := White.feed single
  rw [second.passed.rest] at atEnd
  cases w with
  | nil =>
    rw [List.nil_append] at atEnd
    rcases second.between with ⟨nothing, -⟩ | ⟨-, ⟨x, rest, shown, visible, -⟩ | joins⟩
    · exact .inl ⟨nothing, by simpa using Ending.comment .nil single⟩
    · obtain rfl := atEnd x (by simp [shown])
      exact absurd visible (by decide)
    · exact absurd (atEnd _ joins) (by decide)
  | cons x w =>
    obtain rfl := atEnd x rfl
    have feed : '#' :: more.takeWhile (· ≠ '\n') ++ '\n' :: w =
        '#' :: (more.takeWhile (· ≠ '\n') ++ ['\n']) ++ w := by simp
    rw [feed]
    exact second.between.imp (fun ⟨nothing, ending⟩ => ⟨nothing, line.append_ending ending.tail⟩)
      fun ⟨white, shows⟩ => ⟨line.append white.tail, shows⟩

theorem separators_white (cs : List Char) : White (cs.takeWhile isSeparator) :=
  .separators fun _ member => List.mem_takeWhile_imp member

/-- What is no separator ends the way, unless a comment begins with it. -/
theorem Parted.stopped {c : Cursor} (noComment : ∀ more, (c.skipWhile isSeparator).rest ≠ '#' :: more) :
    Parted c (c.rest.takeWhile isSeparator) (c.skipWhile isSeparator) := by
  refine ⟨.skipWhile isSeparator, ?_⟩
  have white := separators_white c.rest
  cases text : (c.skipWhile isSeparator).rest with
  | nil => exact .inl ⟨rfl, .white white⟩
  | cons x more =>
    have visible : isSeparator x = false := Cursor.head_skipWhile (c := c) (by simp [text])
    by_cases join : x = '\\'
    · exact .inr ⟨white, .inr (by rw [join]; rfl)⟩
    · have other : x ≠ '#' := fun same => noComment more (by rw [text, same])
      exact .inr ⟨white, .inl ⟨x, more, rfl, visible, other, join⟩⟩

/-- Looking for what is visible passes white text only. -/
theorem lookFrom_parted {x : Expect} {fuel : Nat} {c d : Cursor} (enough : c.rest.length < fuel)
    (seen : c.lookFrom x fuel = (.visible, d)) : ∃ w, Parted c w d := by
  induction fuel generalizing c with
  | zero => simp at enough
  | succ fuel ih =>
    have seps : Passed c _ (c.skipWhile isSeparator) := .skipWhile isSeparator
    have white := separators_white c.rest
    have bound := seps.notLonger
    rw [Cursor.lookFrom] at seen
    split at seen
    · rename_i found layout
      subst seen
      exact absurd rfl (Cursor.layout_over layout).2.2
    · dsimp only at seen
      split at seen
      · rename_i more text
        have shorter := (Passed.comment text).shorter (by simp)
        obtain ⟨w, parted⟩ := ih (by omega) seen
        exact ⟨_, .behind seps white (.behind_comment text parted)⟩
      · rename_i more text
        have join : Passed _ ['\\', '\n'] ((c.skipWhile isSeparator).skip 2) := .skip text rfl
        have shorter := join.shorter (by simp)
        obtain ⟨w, parted⟩ := ih (by omega) seen
        exact ⟨_, .behind seps white (.behind join (.joined .nil) parted)⟩
      · rename_i more text
        have join : Passed _ ['\\', '\r', '\n'] ((c.skipWhile isSeparator).skip 3) := .skip text rfl
        have shorter := join.shorter (by simp)
        obtain ⟨w, parted⟩ := ih (by omega) seen
        exact ⟨_, .behind seps white (.behind join (.joinedReturn .nil) parted)⟩
      · rename_i noComment _ _
        obtain rfl := (Prod.mk.inj seen).2
        exact ⟨_, .stopped noComment⟩

theorem look_parted {x : Expect} {c d : Cursor} (seen : c.look x = (.visible, d)) :
    ∃ w, Parted c w d := lookFrom_parted (Nat.lt_succ_self _) seen

theorem see_parted {x : Expect} {c d : Cursor} (seen : c.see x = .ok d) : ∃ w, Parted c w d := by
  unfold Cursor.see at seen
  split at seen
  · rename_i looked
    cases seen
    exact look_parted looked
  · contradiction

theorem visible_parted {x : Expect} {c d : Cursor} (seen : c.visible? x = some d) : ∃ gap, Parted c gap d := by
  unfold Cursor.visible? at seen
  split at seen
  · next looked =>
    cases seen
    exact look_parted looked
  · cases seen

/-- Where a layout mark is found, the line is over; the place of the mark is on the way. -/
theorem lookFrom_over {x : Expect} {fuel : Nat} {c d : Cursor} {found : Found}
    (seen : c.lookFrom x fuel = (found, d)) (mark : found ≠ .visible) :
    LineOver c.rest ∧ LineOver d.rest := by
  induction fuel generalizing c with
  | zero =>
    obtain ⟨rfl, -⟩ := Prod.mk.inj seen
    exact absurd rfl mark
  | succ fuel ih =>
    rw [Cursor.lookFrom] at seen
    split at seen
    · rename_i layout
      subst seen
      obtain ⟨rest, closed, -⟩ := Cursor.layout_over layout
      exact ⟨closed, rest ▸ closed⟩
    · have seps : Passed c _ _ := .skipWhile isSeparator
      have behind : ∀ {y rest}, (c.skipWhile isSeparator).rest = y :: rest →
          y = '\\' ∨ y = '#' → LineOver c.rest := fun text first => by
        rw [seps.rest, text]
        exact .behindAll (fun y member => List.mem_takeWhile_imp member) (.at_ (.inr first))
      dsimp only at seen
      split at seen
      · rename_i text
        exact ⟨behind text (.inr rfl), (ih seen).2⟩
      · rename_i text
        exact ⟨behind text (.inl rfl), (ih seen).2⟩
      · rename_i text
        exact ⟨behind text (.inl rfl), (ih seen).2⟩
      · obtain ⟨rfl, -⟩ := Prod.mk.inj seen
        exact absurd rfl mark

theorem look_over {x : Expect} {c d : Cursor} {found : Found} (seen : c.look x = (found, d))
    (mark : found ≠ .visible) : LineOver c.rest ∧ LineOver d.rest := lookFrom_over seen mark

/-! ### Joined lines -/

/-- A joined line on the way from one place to another. -/
structure Joined (c a b d : Cursor) : Prop where
  before : ∃ v, Passed c v a
  join : Passed a ['\\', '\n'] b ∨ Passed a ['\\', '\r', '\n'] b
  behind : ∃ w, Passed b w d

theorem Joined.after {c c' a b d : Cursor} {v : List Char} (joined : Joined c' a b d)
    (first : Passed c v c') : Joined c a b d where
  before := joined.before.imp' _ fun _ passed => first.trans passed
  join := joined.join
  behind := joined.behind

/-- A joined line that the way to what is visible begins with lies before that. -/
theorem joinFrom_joined {x : Expect} {n m : Nat} {c a b d : Cursor} (enough : c.rest.length < n)
    (seen : c.lookFrom x n = (.visible, d)) (join : c.joinFrom m = some (a, b)) :
    Joined c a b d := by
  induction n generalizing c m with
  | zero => simp at enough
  | succ n ih =>
    cases m with
    | zero => simp [Cursor.joinFrom] at join
    | succ m =>
      have seps : Passed c _ _ := .skipWhile isSeparator
      have bound := seps.notLonger
      rw [Cursor.lookFrom] at seen
      rw [Cursor.joinFrom] at join
      split at join
      · contradiction
      split at seen
      · rename_i layout
        subst seen
        exact absurd rfl (Cursor.layout_over layout).2.2
      dsimp only at seen join
      generalize c.skipWhile isSeparator = e at *
      split at join
      · rename_i text
        have comment : Passed e _ (e.skipWhile (· ≠ '\n')) := .skipWhile _
        have shorter := comment.shorter (by simp [text])
        simp only [text] at seen
        exact ((ih (by omega) seen join).after comment).after seps
      · rename_i text
        cases join
        have join : Passed a ['\\', '\n'] (a.skip 2) := .skip text rfl
        have shorter := join.shorter (by simp)
        simp only [text] at seen
        obtain ⟨w, parted⟩ := lookFrom_parted (by omega) seen
        exact ⟨⟨_, seps⟩, .inl join, ⟨w, parted.passed⟩⟩
      · rename_i text
        cases join
        have join : Passed a ['\\', '\r', '\n'] (a.skip 3) := .skip text rfl
        have shorter := join.shorter (by simp)
        simp only [text] at seen
        obtain ⟨w, parted⟩ := lookFrom_parted (by omega) seen
        exact ⟨⟨_, seps⟩, .inr join, ⟨w, parted.passed⟩⟩
      · contradiction

theorem see_joined {x : Expect} {c a b d : Cursor} (seen : c.see x = .ok d)
    (join : c.join? = some (a, b)) : Joined c a b d := by
  unfold Cursor.see at seen
  split at seen
  · rename_i looked
    cases seen
    exact joinFrom_joined (Nat.lt_succ_self _) looked join
  · contradiction

end Bindery.Body

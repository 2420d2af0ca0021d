import Bindery.Proofs.Body.Gaps
import Bindery.Proofs.Body.Statements

/- The bases of a class in its text. An argument is taken for a base by the last thing that was read of it:
   a word, a word behind a dot, or a subscript, of which the text before its bracket is taken. Anything else,
   brackets around a name too, is no base. -/
namespace Bindery.Body

/-- The last thing that was read between two places, as far as it decides whether that is a base. -/
inductive Spelled (c : Cursor) : Shape → Cursor → Prop where
  | name {w : String} {d : Cursor} (word : c.word? = some (w, d)) : Spelled c .name d
  | dotted {value gap rest : List Char} {w : String} {d e f : Cursor} (before : Passed c value d)
      (dot : d.rest = '.' :: rest) (between : Parted d.step gap e) (word : e.word? = some (w, f)) :
      Spelled c .attribute f
  | subscript {value gap rest text : List Char} {d e f : Cursor} (before : Passed c value d)
      (between : Parted d gap e) (opens : e.rest = '[' :: rest) (behind : Passed e.step text f) :
      Spelled c (.subscript d.offset) f
  | other {shape : Shape} {text : List Char} {d : Cursor} (plain : shape.isSimpleTarget = false)
      (passed : Passed c text d) : Spelled c shape d

/-- The text of a base in the text of a class: a name, an attribute, or what is subscripted. -/
inductive Base (text : List Char) : List Char → Prop where
  | name {front w back : List Char} (whole : text = front ++ w ++ back)
      (word : ∀ x ∈ w, Text.isNameContinue x = true) : Base text w
  | dotted {front value gap w back : List Char}
      (whole : text = front ++ (value ++ '.' :: (gap ++ w)) ++ back) (white : White gap)
      (word : ∀ x ∈ w, Text.isNameContinue x = true) : Base text (value ++ '.' :: (gap ++ w))
  | subscripted {front value gap back : List Char}
      (whole : text = front ++ value ++ (gap ++ '[' :: back)) (white : White gap) : Base text value

section
variable {c d e : Cursor} {shape : Shape} {w : String} {text gap : List Char}

theorem Passed.word (seen : c.word? = some (w, d)) :
    Passed c w.toList d ∧ ∀ x ∈ w.toList, Text.isNameContinue x = true := by
  unfold Cursor.word? at seen
  split at seen
  · cases seen
  · split at seen
    · cases seen
      rw [String.toList_ofList]
      exact ⟨.skipWhile Text.isNameContinue, fun x member => List.mem_takeWhile_imp member⟩
    · cases seen

theorem Cursor.rest_of_word (seen : c.word? = some (w, d)) : c.rest ≠ [] := by
  intro nothing
  simp [word?, nothing] at seen

theorem Cursor.word_of_passName (passed : c.passName = .ok (w, d)) : c.word? = some (w, d) := by
  unfold passName at passed
  split at passed
  · next found =>
    cases passed
    unfold name? at found
    split at found
    · next word =>
      split at found
      · cases found
      · cases found
        exact word
    · cases found
  · cases passed

theorem Spelled.passed (spelled : Spelled c shape d) : ∃ text, Passed c text d := by
  cases spelled with
  | name word => exact ⟨_, (Passed.word word).1⟩
  | dotted before dot between word =>
    exact ⟨_, ((before.trans (.step dot)).trans between.passed).trans (Passed.word word).1⟩
  | subscript before between opens behind =>
    exact ⟨_, ((before.trans between.passed).trans (.step opens)).trans behind⟩
  | other plain passed => exact ⟨_, passed⟩

end

namespace Reader

/-! ### Arguments as bases -/

section
variable {c d : Cursor} {shape : Shape} {t : Tail} {fuel : Nat}

/-- By induction on the fuel: what is attached last decides. -/
theorem attachments_spelled (here : Spelled c shape d) :
    Gives (attachments t fuel shape d) fun r => Spelled c r.1 r.2 := by
  induction fuel generalizing shape d with
  | zero => exact .error
  | succ fuel ih =>
    rw [attachments]
    split
    · exact .ok here
    · next e seen =>
      obtain ⟨value, before⟩ := here.passed
      obtain ⟨gap, parted⟩ := visible_parted seen
      have steady := steady_moved e
      split
      · next rest dot =>
        intro r read
        obtain ⟨f, between, read⟩ := bind_eq_ok_iff.mp read
        obtain ⟨⟨w, g⟩, word, read⟩ := bind_eq_ok_iff.mp read
        obtain ⟨gap', between⟩ := see_parted between
        exact ih (.dotted (before.trans parted.passed) dot between (Cursor.word_of_passName word)) r read
      · next rest opens =>
        have steady := steady_moved e.step
        refine .andThen (steady.see _ .here) fun f moved => ?_
        refine .andThen ((reads steady fuel).subscripts moved) fun g moved => ?_
        obtain ⟨text, behind⟩ := moved.passed
        exact ih (.subscript before parted opens behind)
      · refine .andThen (steady.see _ (steady.step .here)) fun f moved => ?_
        refine .andThen ((reads steady fuel).arguments moved) fun r moved => ?_
        obtain ⟨text, behind⟩ := moved.passed
        exact ih (.other rfl ((before.trans parted.passed).trans behind))
      · exact .ok here

theorem bracketed_plain {close : String} :
    Gives (bracketed close fuel c) fun r => r.1.isSimpleTarget = false := by
  cases fuel with
  | zero => exact .error
  | succ fuel =>
    have elements : ∀ all, (Shape.ofElements all).isSimpleTarget = false := by decide
    rw [bracketed]
    refine .ite (.ok rfl) (.after fun r => .after fun d => .ite ?_ ?_)
    · exact .after fun d => .after fun d => .ok rfl
    · exact .after fun r => .ok (elements _)

theorem braced_plain : Gives (braced fuel c) fun r => r.1.isSimpleTarget = false := by
  cases fuel with
  | zero => exact .error
  | succ fuel =>
    rw [braced]
    refine .ite (.ok rfl) (.ite (.after fun d => .after fun d => .ok rfl) (.ite ?_ ?_))
    · exact .after fun d => .after fun d => .after fun d => .ok rfl
    refine .after fun r => .after fun d => .ite ?_ (.ite ?_ (.after fun r => .ok rfl))
    · refine .after fun d => .after fun r => .after fun d => .ite ?_ (.after fun d => .ok rfl)
      exact .after fun d => .after fun d => .ok rfl
    · exact .after fun d => .after fun d => .ok rfl

/-- An atom is a word, or nothing that a base can end with. -/
theorem atom_plain : Gives (atom t fuel c) fun r =>
    r.1.isSimpleTarget = false ∨ r.1 = .name ∧ ∃ w, c.word? = some (w, r.2) := by
  cases fuel with
  | zero => exact .error
  | succ fuel =>
    rw [atom]
    split
    · exact .after fun d => .after fun d => .ok (.inl rfl)
    split
    · exact .ok (.inl rfl)
    split
    · next w d word => exact .ite (.ok (.inl rfl)) (.ite .error (.ok (.inr ⟨rfl, w, word⟩)))
    split
    · exact .ok (.inl rfl)
    · exact .after fun d r read => .inl (bracketed_plain r read)
    · exact .after fun d r read => .inl (bracketed_plain r read)
    · exact .after fun d r read => .inl (braced_plain r read)
    · exact .error

/-- Where a reading ends, and what it is at last, decide how it is spelled. -/
theorem spelled_of_last {x : Except Cursor (Shape × Cursor)} (moves : Gives x fun r => Moved c r.2)
    (last : Gives x fun r => r.1.isSimpleTarget = false ∨ Spelled c r.1 r.2) :
    Gives x fun r => Spelled c r.1 r.2 := by
  intro r read
  obtain ⟨text, passed⟩ := (moves r read).passed
  exact (last r read).elim (fun plain => .other plain passed) id

theorem atom_spelled : Gives (atom t fuel c) fun r => Spelled c r.1 r.2 := by
  refine spelled_of_last ((reads (steady_moved c) fuel).atom .here) fun r read => ?_
  refine (atom_plain r read).imp id ?_
  rintro ⟨name, w, word⟩
  rw [name]
  exact .name word

theorem operand_spelled : Gives (operand t fuel c) fun r => Spelled c r.1 r.2 := by
  refine spelled_of_last ((reads (steady_moved c) fuel).operand .here) ?_
  cases fuel with
  | zero => exact .error
  | succ fuel =>
    rw [operand]
    split
    · exact .after fun d => .after fun r => .ok (.inl rfl)
    split
    · exact .after fun d => .after fun r => .ite (.ok (.inl rfl)) .error
    split
    · exact .after fun r => .ok (.inl rfl)
    · exact .andThen atom_spelled fun r here s read => .inr (attachments_spelled here s read)

/-- Further operands leave nothing that could be a base. -/
theorem chain_plain : Gives (chain t fuel shape d) fun r => r.1.isSimpleTarget = false ∨ r = (shape, d) := by
  induction fuel generalizing shape d with
  | zero => exact .error
  | succ fuel ih =>
    rw [chain]
    split
    · exact .ok (.inr rfl)
    · refine .after fun e => .after fun s r read => ?_
      rcases ih r read with plain | same
      · exact .inl plain
      · exact .inl (by rw [same]; rfl)

theorem continuation_plain :
    Gives (continuation t fuel shape d) fun r => r.1.isSimpleTarget = false ∨ r = (shape, d) := by
  cases fuel with
  | zero => exact .error
  | succ fuel =>
    rw [continuation]
    split
    · exact .ok (.inr rfl)
    · have larger : ∀ e : Cursor, Gives (do
          let r ← expression t fuel (← e.see .operand)
          return (Shape.other, r.2)) fun r => r.1.isSimpleTarget = false ∨ r = (shape, d) :=
        fun e => .after fun _ => .after fun _ => .ok (.inl rfl)
      refine .ite (larger _) (.ite (larger _) (.ite (larger _) (.ite ?_ (.ok (.inr rfl)))))
      exact .after fun _ => .after fun _ => .after fun _ => .after fun _ => larger _

theorem expression_spelled : Gives (expression t fuel c) fun r => Spelled c r.1 r.2 := by
  refine spelled_of_last ((reads (steady_moved c) fuel).expression .here) ?_
  cases fuel with
  | zero => exact .error
  | succ fuel =>
    rw [expression]
    split
    · exact .after fun d => .after fun r => .ok (.inl rfl)
    split
    · refine .after fun d => ?_
      refine .branch (P := fun _ => True) (fun _ _ => trivial) (fun _ _ => trivial) fun d _ => ?_
      exact .after fun d => .after fun d => .after fun d => .after fun r => .ok (.inl rfl)
    · refine .andThen operand_spelled fun r here => ?_
      refine .andThen chain_plain fun s chained q read => ?_
      rcases continuation_plain q read with plain | rfl
      · exact .inl plain
      · exact chained.imp id fun same => by rwa [same]

theorem argument_spelled : Gives (argument fuel c) fun r => Spelled c r.1 r.2 := by
  refine spelled_of_last ((reads (steady_moved c) fuel).argument .here) ?_
  cases fuel with
  | zero => exact .error
  | succ fuel =>
    rw [argument]
    split
    · exact .after fun d => .after fun r => .ok (.inl rfl)
    split
    · exact .after fun d => .after fun r => .ok (.inl rfl)
    · exact fun r read => .inr (expression_spelled r read)

/-- An argument that was read on the way from one place to another. -/
def Listed (c d : Cursor) (x : Shape × Cursor × Nat) : Prop :=
  ∃ front e back, Passed c front x.2.1 ∧ Spelled x.2.1 x.1 e ∧ x.2.2 = e.offset ∧ Passed e back d

theorem Listed.within {c' d' : Cursor} {front back : List Char} {x : Shape × Cursor × Nat}
    (listed : Listed c d x) (first : Passed c' front c) (last : Passed d back d') : Listed c' d' x := by
  obtain ⟨_, e, _, before, spelled, stop, behind⟩ := listed
  exact ⟨_, e, _, first.trans before, spelled, stop, behind.trans last⟩

/-- An argument and those behind it. -/
theorem listed_cons {e f : Cursor} (before : Moved c d) (spelled : Spelled d shape e) (behind : Moved e f)
    (others : Gives (moreArguments fuel f) fun r => ∀ x ∈ r.1, Listed f r.2 x) :
    Gives (do
      let r ← moreArguments fuel f
      return ((shape, d, e.offset) :: r.1, r.2)) fun r => ∀ x ∈ r.1, Listed c r.2 x := by
  intro r read
  obtain ⟨s, more, same⟩ := bind_eq_ok_iff.mp read
  cases same
  obtain ⟨front, before⟩ := before.passed
  obtain ⟨text, passed⟩ := spelled.passed
  obtain ⟨gap, behind⟩ := behind.passed
  obtain ⟨rest, along⟩ := ((reads (steady_moved f) fuel).moreArguments .here s more).passed
  refine List.forall_mem_cons.mpr ⟨⟨front, e, _, before, spelled, rfl, behind.trans along⟩, ?_⟩
  exact fun x member => (others s more x member).within ((before.trans passed).trans behind) (.refl _)

theorem moreArguments_listed :
    Gives (moreArguments fuel c) fun r => ∀ x ∈ r.1, Listed c r.2 x := by
  induction fuel generalizing c with
  | zero => exact .error
  | succ fuel ih =>
    have nothing : ∀ {d : Cursor}, ∀ x ∈ ([] : List (Shape × Cursor × Nat)), Listed c d x := nofun
    rw [moreArguments]
    refine .ite (.ok nothing) ?_
    refine .andThen ((steady_moved c).pass _ .here) fun d moved => ?_
    refine .andThen ((steady_moved c).see _ moved) fun d moved => ?_
    refine .ite (.ok nothing) ?_
    refine .andThen argument_spelled fun r spelled => ?_
    refine .andThen ((steady_moved r.2).see _ .here) fun e behind => ?_
    exact listed_cons moved spelled behind ih

/-- The arguments that are given with a list of bases were read before its end. -/
theorem arguments_listed {generator : Bool} :
    Gives (arguments generator fuel c) fun r => ∀ x ∈ r.1, Listed c r.2 x := by
  cases fuel with
  | zero => exact .error
  | succ fuel =>
    have nothing : ∀ {d : Cursor}, ∀ x ∈ ([] : List (Shape × Cursor × Nat)), Listed c d x := nofun
    rw [arguments]
    refine .ite (.ok nothing) (.ite (.after fun d => .after fun d => .ok nothing) ?_)
    refine .andThen argument_spelled fun r spelled => ?_
    refine .andThen ((steady_moved r.2).see _ .here) fun e behind => ?_
    refine .ite (.after fun d => .after fun d => .ok nothing) ?_
    exact listed_cons .here spelled behind moreArguments_listed

theorem baseText_plain {start : Cursor} {stop : Nat} (plain : shape.isSimpleTarget = false) :
    baseText (shape, start, stop) = none := by
  cases shape <;> first | rfl | cases plain

/-- The text by which an argument is known stands where it was read, as a base does. -/
theorem base_of_listed {x : Shape × Cursor × Nat} {text : List Char} {base : String}
    (listed : Listed c d x) (found : baseText x = some base) (whole : Passed c text d) :
    Base text base.toList := by
  obtain ⟨shape, start, stop⟩ := x
  obtain ⟨front, e, back, before, spelled, rfl, behind⟩ := listed
  have own : ∀ {value}, Passed start value e → text = front ++ value ++ back ∧
      start.textUpTo e.offset = String.ofList value :=
    fun passed => ⟨whole.unique ((before.trans passed).trans behind), passed.textUpTo⟩
  cases spelled with
  | name word =>
    obtain ⟨passed, name⟩ := Passed.word word
    obtain ⟨text, value⟩ := own passed
    cases found
    rw [value, String.toList_ofList]
    exact .name text name
  | @dotted value gap _ w _ _ _ first dot between word =>
    obtain ⟨passed, name⟩ := Passed.word word
    have along : Passed start (value ++ '.' :: (gap ++ w.toList)) e :=
      first.trans ((Passed.step dot).trans (between.passed.trans passed))
    obtain ⟨text, value⟩ := own along
    cases found
    rw [value, String.toList_ofList]
    exact .dotted text (between.white (Cursor.rest_of_word word)) name
  | @subscript value gap rest more f g _ first between opens after =>
    have along : Passed start (value ++ (gap ++ '[' :: more)) e :=
      first.trans (between.passed.trans ((Passed.step opens).trans after))
    have split : text = front ++ value ++ (gap ++ '[' :: (more ++ back)) := by simp [(own along).1]
    cases found
    rw [first.textUpTo, String.toList_ofList]
    exact .subscripted split (between.white (opens ▸ List.cons_ne_nil _ _))
  | other plain passed =>
    rw [baseText_plain plain] at found
    cases found

theorem classHead_bases : Gives (classHead fuel c) fun r =>
    ∀ base ∈ r.2.1, ∃ x, baseText x = some base ∧ Listed c r.2.2 x := by
  unfold classHead
  refine .andThen ((steady_moved c).see _ .here) fun d moved => ?_
  refine .andThen ((steady_moved c).passName moved) fun r moved => ?_
  refine .andThen (typeParameters_keeps (steady_moved c) fuel moved) fun d moved => ?_
  refine .andThen ((steady_moved c).see _ moved) fun d moved => ?_
  extract_lets colon
  have keeps : ∀ r : List String × Cursor,
      (∀ base ∈ r.1, ∃ x, baseText x = some base ∧ Listed c r.2 x) →
      Gives (colon r) fun r => ∀ base ∈ r.2.1, ∃ x, baseText x = some base ∧ Listed c r.2.2 x := by
    refine fun r found => .andThen ((steady_moved r.2).pass _ .here) fun d behind => .ok ?_
    intro base member
    obtain ⟨x, known, listed⟩ := found base member
    obtain ⟨gap, behind⟩ := behind.passed
    exact ⟨x, known, listed.within (.refl c) behind⟩
  refine .ite ?_ (.andThen (P := (· = ([], d))) (.ok rfl) fun r same => keeps r (by simp [same]))
  refine .andThen ((steady_moved c).see _ (.step moved)) fun e moved => ?_
  refine .andThen arguments_listed fun r listed => ?_
  refine .andThen ((steady_moved r.2).see _ .here) fun f behind => ?_
  refine .andThen (P := (· = (r.1.filterMap baseText, f))) (.ok rfl) fun s same => keeps s ?_
  rw [same]
  intro base member
  obtain ⟨x, among, known⟩ := List.mem_filterMap.mp member
  obtain ⟨front, first⟩ := moved.passed
  obtain ⟨gap, behind⟩ := behind.passed
  exact ⟨x, known, (listed x among).within first behind⟩

/-- The bases of a definition stand in its text. -/
theorem definition_bases : Gives (definition fuel c) fun r =>
    ∀ text, Passed c text r.2 → ∀ base ∈ r.1.bases, Base text base.toList := by
  cases fuel with
  | zero => exact .error
  | succ fuel =>
    rw [definition]
    refine .ite ?_ ?_
    · refine .andThen classHead_bases fun r found => ?_
      refine .andThen ((runs (steady_moved r.2.2) (Q := fun _ => True) (fun _ _ _ => trivial) fuel).suite
        .here) fun d along => .ok ?_
      intro text whole base member
      obtain ⟨x, known, listed⟩ := found base member
      obtain ⟨front, first⟩ := ((steady_moved c).skip .here 5).passed
      obtain ⟨back, last⟩ := along.passed
      exact base_of_listed (listed.within first last) known whole
    · refine .branch (P := fun _ => True) (fun _ _ => trivial) (fun _ _ => trivial) fun d _ => ?_
      exact .after fun d => .after fun r => .after fun d => .ok fun text whole base member =>
        absurd member List.not_mem_nil

end
end Reader

end Bindery.Body

import Bindery.Text.Normal
import Bindery.Proofs.LineBreaks
import Bindery.Proofs.Outcomes

/- The normal form of one line is one line: no character decomposes into one that ends a line, no two
   compose to one, and marks are only moved. -/
namespace Bindery.Text

/-- A code point that ends no line. -/
def Inert (n : Nat) : Prop := ∀ c ∈ lineBreaks, n ≠ c.toNat

/-- The digits, and all behind them but for three. -/
def isInert (n : Nat) : Bool :=
  cond (Nat.ble 0x30 n)
    (cond (Nat.beq n 0x85) false (cond (Nat.beq n 0x2028) false (!Nat.beq n 0x2029))) false

theorem inert_of_isInert {n : Nat} (test : isInert n = true) : Inert n := by
  rintro c ends rfl
  exact notMem_lineBreaks_of (p := fun c => isInert c.toNat) (by decide) test ends

theorem inert_of_lt {n : Nat} (above : 0x85 < n) (below : n < 0x2028) : Inert n := by
  rintro c ends rfl
  exact notMem_lineBreaks_of (p := fun c => 0x85 < c.toNat && c.toNat < 0x2028) (by decide)
    (by simp [above, below]) ends

theorem inert_of_gt {n : Nat} (above : 0x2029 < n) : Inert n := by
  rintro c ends rfl
  exact notMem_lineBreaks_of (p := fun c => 0x2029 < c.toNat) (by decide) (decide_eq_true above) ends

theorem Inert.of_notMem {c : Char} (other : c ∉ lineBreaks) : Inert c.toNat :=
  fun _ ends same => other (Char.toNat_inj.mp same ▸ ends)

theorem Inert.ofNat {n : Nat} (inert : Inert n) : Char.ofNat n ∉ lineBreaks := by
  intro ends
  by_cases valid : n.isValidChar
  · exact inert _ ends (by rw [Char.ofNat, dif_pos valid]; rfl)
  · rw [Char.ofNat, dif_neg valid] at ends
    exact absurd ends (by decide)

/-! ### The tables -/

def isInertRow : Nat → Nat → Bool
  | 0, _ => true
  | room + 1, row =>
    cond (Nat.beq row 0) true
      (cond (isInert (row % 0x1000000)) (isInertRow room (row / 0x1000000)) false)

theorem unpack_inert {room row : Nat} {behind : List Nat} (test : isInertRow room row = true)
    (inert : ∀ n ∈ behind, Inert n) : ∀ n ∈ unpack room row behind, Inert n := by
  induction room generalizing row behind with
  | zero => exact inert
  | succ room ih =>
    unfold unpack
    split
    · exact inert
    · rename_i nonzero
      have here : isInert (row % 0x1000000) = true ∧ isInertRow room (row / 0x1000000) = true := by
        simpa [isInertRow, nonzero, Nat.beq_eq, Bool.cond_eq_ite] using test
      exact ih here.2 (List.forall_mem_cons.mpr ⟨inert_of_isInert here.1, inert⟩)

theorem rows_inert {rows : List Nat} (test : rows.all (isInertRow longestRow) = true) :
    ∀ row ∈ rows.map fun row => unpack longestRow row [], ∀ n ∈ row, Inert n := by
  intro row member
  obtain ⟨packed, among, rfl⟩ := List.mem_map.mp member
  exact unpack_inert (List.all_eq_true.mp test packed among) (by simp)

theorem compositions_inert : ∀ row ∈ compositions, ∀ n ∈ row, Inert n :=
  rows_inert (by decide +kernel)

theorem decompositions_inert : ∀ row ∈ decompositions, ∀ n ∈ row, Inert n := by
  refine rows_inert ?_
  simp only [decompositionRows, List.all_append, Bool.and_eq_true]
  refine ⟨⟨⟨⟨?_, ?_⟩, ?_⟩, ?_⟩, ?_⟩
  all_goals decide +kernel

/-! ### The form -/

theorem decomposeOne_inert {n : Nat} (inert : Inert n) : ∀ m ∈ decomposeOne n, Inert m := by
  unfold decomposeOne
  split
  · rename_i syllable
    simp only [Bool.and_eq_true, decide_eq_true_eq] at syllable
    have lead : Inert (0x1100 + (n - 0xac00) / 588) := inert_of_lt (by omega) (by omega)
    have vowel : Inert (0x1161 + (n - 0xac00) % 588 / 28) := inert_of_lt (by omega) (by omega)
    have trail : Inert (0x11a7 + (n - 0xac00) % 28) := inert_of_lt (by omega) (by omega)
    dsimp only
    split
    · simp [lead, vowel]
    · simp [lead, vowel, trail]
  · split
    · rename_i found
      exact fun m member => decompositions_inert _ (List.mem_of_find?_eq_some found) m
        (List.mem_cons_of_mem _ member)
    · simpa using inert

theorem composePair_inert {a b : Nat} : Whenever Inert (composePair a b) := by
  unfold composePair
  refine .ite (.some (inert_of_gt (by omega))) ?_
  split
  · rename_i syllable
    simp only [Bool.and_eq_true, decide_eq_true_eq] at syllable
    exact .some (inert_of_gt (by omega))
  · split
    · rename_i found
      exact .some (compositions_inert _ (List.mem_of_find?_eq_some found) _ List.mem_cons_self)
    · exact .none

/-- Code points that end no line, each with its class. -/
def InertMarks (marks : List (Nat × Nat)) : Prop := ∀ mark ∈ marks, Inert mark.1

theorem insertMark_inert {n k : Nat} {marks : List (Nat × Nat)} (inert : Inert n)
    (marked : InertMarks marks) : InertMarks (insertMark n k marks) := by
  induction marks with
  | nil => simpa [insertMark, InertMarks] using inert
  | cons mark marks ih =>
    obtain ⟨here, later⟩ := List.forall_mem_cons.mp marked
    unfold insertMark
    split
    · exact List.forall_mem_cons.mpr ⟨here, ih later⟩
    · exact List.forall_mem_cons.mpr ⟨inert, marked⟩

theorem orderMarks_inert {ns : List Nat} (inert : ∀ n ∈ ns, Inert n) : InertMarks (orderMarks ns) := by
  refine fun mark member => List.foldlRecOn (motive := InertMarks) ns _ (by simp [InertMarks])
    (fun marks marked n among => ?_) mark (List.mem_reverse.mp member)
  dsimp only
  split
  · exact List.forall_mem_cons.mpr ⟨inert n among, marked⟩
  · exact insertMark_inert (inert n among) marked

theorem composeFrom_inert {starter : Option Nat} {marks rest : List (Nat × Nat)}
    (started : Whenever Inert starter) (marked : InertMarks marks) (behind : InertMarks rest) :
    ∀ n ∈ composeFrom starter marks rest, Inert n := by
  have passed : ∀ {starter : Option Nat} {marks : List (Nat × Nat)}, Whenever Inert starter →
      InertMarks marks → ∀ n ∈ starter.toList ++ marks.reverse.map (·.1), Inert n := by
    intro starter marks started marked n member
    rcases List.mem_append.mp member with first | later
    · exact started n (Option.mem_toList.mp first)
    · obtain ⟨mark, among, rfl⟩ := List.mem_map.mp later
      exact marked mark (List.mem_reverse.mp among)
  fun_induction composeFrom starter marks rest with
  | case1 starter marks => exact passed started marked
  | case2 starter marks n k rest last blocked c composed ih =>
    refine ih (.some ?_) marked (List.forall_mem_cons.mp behind).2
    have pair : Whenever Inert (if blocked then none else starter.bind (composePair · n)) :=
      .ite .none ((Whenever.trivial _).bind fun _ _ => composePair_inert)
    exact pair c composed
  | case3 starter marks n rest last blocked apart ih =>
    obtain ⟨here, later⟩ := List.forall_mem_cons.mp behind
    exact List.forall_mem_append.mpr ⟨passed started marked, ih (.some here) (by simp [InertMarks]) later⟩
  | case4 starter marks n k rest last blocked apart stays ih =>
    obtain ⟨here, later⟩ := List.forall_mem_cons.mp behind
    exact ih started (List.forall_mem_cons.mpr ⟨here, marked⟩) later

theorem normalForm_oneLine {w : String} (single : OneLine w) : OneLine (normalForm w) := by
  unfold normalForm
  split
  · exact single
  · have parts : ∀ n ∈ w.toList.flatMap fun c => decomposeOne c.toNat, Inert n := by
      intro n member
      obtain ⟨c, among, part⟩ := List.mem_flatMap.mp member
      exact decomposeOne_inert (.of_notMem (oneLine_iff.mp single c among)) n part
    refine oneLine_iff.mpr fun c member => ?_
    obtain ⟨n, among, rfl⟩ := by simpa using member
    exact (composeFrom_inert .none (by simp [InertMarks]) (orderMarks_inert parts) n among).ofNat

end Bindery.Text

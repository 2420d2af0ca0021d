import Bindery.Body.Repair
import Mathlib.Data.List.Basic

/- The search for a fault passes over every branch that says nothing is wrong in it. Where the
   nodes say so truly, it finds what a search through the whole tree finds first. -/
namespace Bindery.Body
namespace SyntaxTree
variable {α : Type}

mutual

/-- The nodes of a tree, each in front of what is below it. -/
def preorder : SyntaxTree α → List (SyntaxTree α)
  | node kind held isMissing hasError children =>
    node kind held isMissing hasError children :: preorderEach children

def preorderEach : List (SyntaxTree α) → List (SyntaxTree α)
  | [] => []
  | t :: ts => t.preorder ++ preorderEach ts

end

/-- Every node says that something is wrong just where it is a fault or has one below it. -/
def Marked (t : SyntaxTree α) : Prop :=
  ∀ u ∈ t.preorder, u.hasError = u.preorder.any isFault

instance (t : SyntaxTree α) : Decidable t.Marked := inferInstanceAs (Decidable (∀ u ∈ _, _ = _))

theorem mem_preorder_self (t : SyntaxTree α) : t ∈ t.preorder := by
  cases t
  simp [preorder]

theorem preorder_subset_preorderEach {t : SyntaxTree α} {ts : List (SyntaxTree α)}
    (member : t ∈ ts) : t.preorder ⊆ preorderEach ts := by
  induction ts with
  | nil => cases member
  | cons first rest ih =>
    cases member with
    | head => exact List.subset_append_left _ _
    | tail _ behind => exact fun _ below => List.mem_append_right _ (ih behind below)

namespace Marked

theorem below {kind : String} {held : α} {isMissing hasError : Bool}
    {children : List (SyntaxTree α)} (marked : Marked (node kind held isMissing hasError children)) :
    ∀ child ∈ children, Marked child := fun _ member u found =>
  marked u (List.mem_cons_of_mem _ (preorder_subset_preorderEach member found))

theorem hasError_eq {t : SyntaxTree α} (marked : Marked t) :
    t.hasError = t.preorder.any isFault := marked t t.mem_preorder_self

theorem find?_eq_none {t : SyntaxTree α} (marked : Marked t) (sound : t.hasError = false) :
    t.preorder.find? isFault = none := by
  have none_found : t.preorder.any isFault = false := marked.hasError_eq ▸ sound
  simpa using none_found

end Marked

mutual

theorem firstFault_eq_find? :
    (t : SyntaxTree α) → Marked t → t.firstFault = t.preorder.find? isFault
  | node kind held isMissing hasError children, marked => by
    have among := firstFaultAmong_eq_find? children marked.below
    by_cases own : kind == errorKind || isMissing
    · have fault : isFault (node kind held isMissing hasError children) = true := own
      simp [firstFault, preorder, own, fault]
    · have fault : isFault (node kind held isMissing hasError children) = false := by
        simpa [isFault, SyntaxTree.kind, SyntaxTree.isMissing] using own
      rw [firstFault, if_neg own, among, preorder, List.find?_cons_of_neg (by simp [fault])]

theorem firstFaultAmong_eq_find? :
    (ts : List (SyntaxTree α)) → (∀ t ∈ ts, Marked t) →
      firstFaultAmong ts = (preorderEach ts).find? isFault
  | [], _ => by simp [firstFaultAmong, preorderEach]
  | child :: rest, marked => by
    have first : Marked child := marked child List.mem_cons_self
    have found := firstFault_eq_find? child first
    have behind := firstFaultAmong_eq_find? rest fun t member => marked t (.tail _ member)
    rw [firstFaultAmong, preorderEach, List.find?_append, ← found, behind]
    split
    · cases firstFault child <;> rfl
    · -- a child that is passed over has no fault
      next passed =>
        have sound : child.hasError = false := by
          simp only [Bool.or_eq_true, not_or, Bool.not_eq_true] at passed
          exact passed.1
        rw [found, first.find?_eq_none sound, Option.none_or]

end

/-- In a tree whose nodes say truly where something is wrong the search finds the first fault of
    the whole tree, so that the problem is never laid to a root that is no fault; where nothing is
    wrong it finds nothing. -/
theorem firstFault_leads_preorder (t : SyntaxTree α) (marked : Marked t) :
    (t.hasError = true → ∃ before found after, t.firstFault = some found ∧ t.problem = found ∧
      t.preorder = before ++ found :: after ∧ found.isFault = true ∧
      ∀ u ∈ before, u.isFault = false) ∧
    (t.hasError = false → t.firstFault = none) := by
  rw [firstFault_eq_find? t marked]
  constructor
  · intro wrong
    have any_fault : t.preorder.any isFault = true := marked.hasError_eq ▸ wrong
    obtain ⟨found, here⟩ : ∃ found, t.preorder.find? isFault = some found :=
      Option.isSome_iff_exists.mp (List.find?_isSome.mpr (List.any_eq_true.mp any_fault))
    obtain ⟨fault, before, after, listed, none_before⟩ := List.find?_eq_some_iff_append.mp here
    refine ⟨before, found, after, here, ?_, listed, fault, fun u member => ?_⟩
    · rw [problem, firstFault_eq_find? t marked, here, Option.getD_some]
    · simpa using none_before u member
  · exact marked.find?_eq_none

/-- A branch without faults, then one whose second leaf is missing, then more that could not be
    placed. -/
def branchingTree : SyntaxTree Nat :=
  .node "module" 0 false true [
    .node "pass_statement" 1 false false [.node "pass" 2 false false []],
    .node "class_definition" 3 false true [
      .node "identifier" 4 false false [],
      .node "block" 5 false true [
        .node ":" 6 true true [],
        .node errorKind 7 false true [.node "identifier" 8 false false []]]],
    .node errorKind 9 false true []]

theorem branchingTree_firstFault :
    branchingTree.Marked ∧ ∃ before found after, branchingTree.firstFault = some found ∧
      branchingTree.problem = found ∧ branchingTree.preorder = before ++ found :: after ∧
      found.isFault = true ∧ ∀ u ∈ before, u.isFault = false := by
  have marked : branchingTree.Marked := by decide
  exact ⟨marked, (firstFault_leads_preorder branchingTree marked).1 rfl⟩

example : branchingTree.problem.held = 6 := by decide

end SyntaxTree

/-- A text that cannot be read has its problem where the repair shows, and where none shows, at
    the beginning of the module. -/
theorem Repair.placeOf_eq (source : String) :
    Repair.placeOf source =
      let cs := source.toList
      Place.origin.afterAll (cs.take ((Repair.faultOffset? cs).getD (Repair.textStart cs))) := by
  cases shown : Repair.faultOffset? source.toList with
  | none => simp [placeOf, tree, shown, SyntaxTree.problem, SyntaxTree.firstFault,
      SyntaxTree.firstFaultAmong, SyntaxTree.held, SyntaxTree.errorKind]
  | some offset => simp [placeOf, tree, shown, SyntaxTree.problem, SyntaxTree.firstFault,
      SyntaxTree.firstFaultAmong, SyntaxTree.held, SyntaxTree.hasError, SyntaxTree.errorKind]

end Bindery.Body

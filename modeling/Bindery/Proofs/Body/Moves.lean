import Bindery.Body.Statements
import Bindery.Proofs.Outcomes

/- How a reader moves over a module body: by single steps, and by changes of the indentations that are
   open. What holds at a place and stays through such a move holds wherever the reader comes to. -/
namespace Bindery.Body

/-- A property of places stays through the moves of a reader. -/
structure Steady (P : Cursor → Prop) : Prop where
  step : ∀ {c : Cursor}, P c → P c.step
  indents : ∀ {c : Cursor} (ns : List Nat), P c → P { c with indents := ns }
  inField : ∀ {c : Cursor} (b : Bool), P c → P { c with inField := b }

/-- A place that a reader can come to from another one. -/
inductive Moved (c : Cursor) : Cursor → Prop where
  | here : Moved c c
  | step {d : Cursor} : Moved c d → Moved c d.step
  | indents {d : Cursor} (ns : List Nat) : Moved c d → Moved c { d with indents := ns }
  | inField {d : Cursor} (b : Bool) : Moved c d → Moved c { d with inField := b }

theorem steady_moved (c : Cursor) : Steady (Moved c) := ⟨.step, .indents, .inField⟩

theorem Steady.moved {P : Cursor → Prop} (steady : Steady P) {c d : Cursor} (moved : Moved c d)
    (here : P c) : P d := by
  induction moved with
  | here => exact here
  | step _ ih => exact steady.step ih
  | indents ns _ ih => exact steady.indents ns ih
  | inField b _ ih => exact steady.inField b ih

theorem Steady.and {P Q : Cursor → Prop} (steady : Steady P) (steady' : Steady Q) :
    Steady fun c => P c ∧ Q c where
  step := fun ⟨here, here'⟩ => ⟨steady.step here, steady'.step here'⟩
  indents := fun ns ⟨here, here'⟩ => ⟨steady.indents ns here, steady'.indents ns here'⟩
  inField := fun b ⟨here, here'⟩ => ⟨steady.inField b here, steady'.inField b here'⟩

/-- A property of the place where a piece of quoted text ends. -/
def Piece.Ends (P : Cursor → Prop) : Piece → Prop
  | .more c | .ended c | .field c => P c
  | .stuck => True

namespace Steady

variable {P : Cursor → Prop} (steady : Steady P) {c d : Cursor}
include steady

theorem skip (here : P c) (n : Nat) : P (c.skip n) := by
  induction n generalizing c with
  | zero => exact here
  | succ n ih => exact ih (steady.step here)

theorem skipWhile (here : P c) (p : Char → Bool) : P (c.skipWhile p) := steady.skip here _

/-! ### Layout -/

theorem layout {x : Expect} {found : Found} (here : P c) (seen : c.layout? x = some (found, d)) :
    P d := by
  simp only [Cursor.layout?, Option.bind_eq_bind, Option.bind_eq_some_iff] at seen
  obtain ⟨gap, -, seen⟩ := seen
  repeat' split at seen
  all_goals cases seen
  all_goals first
    | exact here
    | exact steady.indents _ here

theorem lookFrom (x : Expect) (fuel : Nat) (here : P c) : P (c.lookFrom x fuel).2 := by
  induction fuel generalizing c with
  | zero => exact here
  | succ fuel ih =>
    have passed := steady.skipWhile here isSeparator
    rw [Cursor.lookFrom]
    split
    · rename_i found seen
      exact steady.layout here seen
    · dsimp only
      split
      · exact ih (steady.skipWhile passed _)
      · exact ih (steady.skip passed 2)
      · exact ih (steady.skip passed 3)
      · exact passed

theorem look (x : Expect) (here : P c) : P (c.look x).2 := steady.lookFrom x _ here

theorem look_eq {x : Expect} {found : Found} (here : P c) (seen : c.look x = (found, d)) : P d := by
  have passed := steady.look x here
  rwa [seen] at passed

theorem see (x : Expect) (here : P c) : Gives (c.see x) P := by
  unfold Cursor.see
  split
  · rename_i seen
    exact .ok (steady.look_eq here seen)
  · exact .error

theorem visible {x : Expect} (here : P c) (seen : c.visible? x = some d) : P d := by
  unfold Cursor.visible? at seen
  split at seen
  · rename_i looked
    cases seen
    exact steady.look_eq here looked
  · contradiction

/-! ### Words and marks -/

theorem mark {m : String} (here : P c) (seen : c.mark? m = some d) : P d := by
  unfold Cursor.mark? at seen
  split at seen
  · cases seen
    exact steady.skip here _
  · contradiction

theorem word {w : String} (here : P c) (seen : c.word? = some (w, d)) : P d := by
  unfold Cursor.word? at seen
  split at seen
  · contradiction
  · split at seen
    · cases seen
      exact steady.skip here _
    · contradiction

theorem name {w : String} (here : P c) (seen : c.name? = some (w, d)) : P d := by
  unfold Cursor.name? at seen
  split at seen
  · rename_i found
    split at seen
    · contradiction
    · cases seen
      exact steady.word here found
  · contradiction

theorem number (here : P c) (seen : c.number? = some d) : P d := by
  simp only [Cursor.number?] at seen
  split at seen
  · contradiction
  · cases seen
    exact steady.skip here _

theorem pass (m : String) (here : P c) : Gives (c.pass m) P := by
  unfold Cursor.pass
  split
  · rename_i seen
    exact .ok (steady.mark here seen)
  · exact .error

theorem passWord (w : String) (here : P c) : Gives (c.passWord w) P := by
  unfold Cursor.passWord
  exact .ite (.ok (steady.skip here _)) .error

theorem passName (here : P c) : Gives c.passName fun r => P r.2 := by
  unfold Cursor.passName
  split
  · rename_i seen
    exact .ok (steady.name here seen)
  · exact .error

/-! ### Quoted text -/

theorem quotation {q : Quotation} (here : P c) (seen : c.quotation? = some (q, d)) : P d := by
  simp only [Cursor.quotation?] at seen
  split at seen
  · split at seen
    · cases seen
      exact steady.inField _ (steady.skip here _)
    · contradiction
  · contradiction

theorem joinFrom {fuel : Nat} {e : Cursor} (here : P c) (seen : c.joinFrom fuel = some (d, e)) :
    P d ∧ Moved d e := by
  induction fuel generalizing c with
  | zero => simp [Cursor.joinFrom] at seen
  | succ fuel ih =>
    have passed := steady.skipWhile here isSeparator
    rw [Cursor.joinFrom] at seen
    split at seen
    · contradiction
    · dsimp only at seen
      split at seen
      · exact ih (steady.skipWhile passed _) seen
      · cases seen
        exact ⟨passed, (steady_moved _).skip .here 2⟩
      · cases seen
        exact ⟨passed, (steady_moved _).skip .here 3⟩
      · contradiction

theorem join {e : Cursor} (here : P c) (seen : c.join? = some (d, e)) : P d ∧ Moved d e :=
  steady.joinFrom here seen

theorem behindRawBackslash (q : Quotation) (here : P c) : P (c.behindRawBackslash q) := by
  have here := steady.step here
  unfold Cursor.behindRawBackslash
  extract_lets d e
  have kept : P e := by
    unfold e
    split
    · split
      · exact steady.step here
      · exact here
    · exact here
  split
  · exact steady.skip kept 2
  · exact steady.step kept
  · exact steady.step kept
  · exact kept

theorem contentFrom (q : Quotation) (fuel : Nat) (seen : Bool) (here : P c) :
    (c.contentFrom q fuel seen).Ends P := by
  induction fuel generalizing c seen with
  | zero => trivial
  | succ fuel ih =>
    rw [Cursor.contentFrom]
    repeat' split
    all_goals first
      | trivial
      | exact here
      | exact ih _ (steady.behindRawBackslash q here)
      | exact ih _ (steady.skip here 3)
      | exact ih _ (steady.step here)
      | exact steady.step here
      | exact steady.skip here 2
      | exact steady.inField _ (steady.step here)
      | exact steady.inField _ (steady.skip here 3)

theorem content (q : Quotation) (here : P c) : (c.content q).Ends P := by
  unfold Cursor.content
  split
  · exact steady.skip here _
  · exact steady.contentFrom q _ _ here

theorem piece (q : Quotation) (here : P c) : (c.piece q).Ends P := by
  simp only [Cursor.piece]
  split
  · split
    · exact steady.skip here 2
    · exact steady.skip here 2
    · exact here
    · exact steady.content q here
  · exact steady.content q here

end Steady
end Bindery.Body

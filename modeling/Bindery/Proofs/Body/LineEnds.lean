import Bindery.Proofs.Body.Gaps
import Bindery.Proofs.Body.Statements

/- Where a statement ends its line is over: a simple one ends in front of a line break, and a block in
   front of the line that falls below its indentation. So no two statements meet on one line. -/
namespace Bindery.Body.Reader

/-- What is read ends where the line is over. -/
def Closes (read : Except Cursor Cursor) : Prop := Gives read fun c => LineOver c.rest

theorem simpleStatements_closes (fuel : Nat) (c : Cursor) : Closes (simpleStatements fuel c) := by
  induction fuel generalizing c with
  | zero => exact .error
  | succ fuel ih =>
    rw [simpleStatements]
    refine .after fun d => ?_
    split
    · rename_i seen
      exact .ok (look_over seen (by simp)).1
    · refine .ite ?_ .error
      split
      · rename_i seen
        exact .ok (look_over seen (by simp)).1
      · exact ih _
      · exact .error
    · exact .error

/-- With this much fuel what is read of statements ends where the line is over, an optional clause if it
    began there. -/
structure ClosesAll (fuel : Nat) : Prop where
  statement : ∀ c, Gives (statement fuel c) fun r => LineOver r.2.rest
  definition : ∀ c, Gives (definition fuel c) fun r => LineOver r.2.rest
  suite : ∀ c, Closes (suite fuel c)
  block : ∀ c, Closes (block fuel c)
  ifStatement : ∀ c, Closes (ifStatement fuel c)
  elseClause : ∀ {c}, LineOver c.rest → Closes (elseClause fuel c)
  forStatement : ∀ c, Closes (forStatement fuel c)
  whileStatement : ∀ c, Closes (whileStatement fuel c)
  withStatement : ∀ c, Closes (withStatement fuel c)
  tryStatement : ∀ c, Closes (tryStatement fuel c)
  handlers : ∀ {c}, LineOver c.rest → Closes (handlers fuel c)
  matchStatement : ∀ c, Closes (matchStatement fuel c)
  cases : ∀ c, Closes (cases fuel c)

section
variable {fuel : Nat} (ih : ClosesAll fuel)
include ih

theorem definition_closes (c : Cursor) :
    Gives (definition (fuel + 1) c) fun r => LineOver r.2.rest := by
  rw [definition]
  refine .ite ?_ ?_
  · refine .after fun r => ?_
    exact .andThen (ih.suite _) fun d closed => .ok closed
  · refine .branch (P := fun _ => True) (fun _ _ => trivial) (fun _ _ => trivial) fun d _ => ?_
    refine .after fun d => .after fun r => ?_
    exact .andThen (ih.suite _) fun d closed => .ok closed

theorem statement_closes (c : Cursor) :
    Gives (statement (fuel + 1) c) fun r => LineOver r.2.rest := by
  have simple : Gives (do return (Statement.other, ← simpleStatements fuel c))
      fun r => LineOver r.2.rest :=
    .andThen (simpleStatements_closes fuel c) fun c closed => .ok closed
  have other : ∀ {r : Except Cursor Cursor}, Closes r →
      Gives (r.map fun c => (Statement.other, c)) fun r => LineOver r.2.rest :=
    fun closes => .map closes fun c closed => closed
  have bare : Gives (do
      let r ← definition fuel c
      return (Statement.definition [] r.1, r.2)) fun r => LineOver r.2.rest :=
    .andThen (ih.definition c) fun r closed => .ok closed
  rw [statement]
  dsimp only
  split
  · refine .after fun r => ?_
    exact .andThen (ih.definition _) fun r closed => .ok closed
  split
  · split
    · exact bare
    · exact bare
    · split
      · exact .ite bare (.ite (other (ih.forStatement _)) (.ite (other (ih.withStatement _)) simple))
      · exact simple
    · exact other (ih.ifStatement _)
    · exact other (ih.forStatement _)
    · exact other (ih.whileStatement _)
    · exact other (ih.tryStatement _)
    · exact other (ih.withStatement _)
    · exact firstOf_keeps (other (ih.matchStatement _)) simple
    · exact simple
  · exact simple

theorem suite_closes (c : Cursor) : Closes (suite (fuel + 1) c) := by
  rw [suite]
  split
  · exact ih.block _
  · rename_i seen
    exact .ok (look_over seen (by simp)).1
  · exact simpleStatements_closes _ _
  · exact .error

theorem block_closes (c : Cursor) : Closes (block (fuel + 1) c) := by
  rw [block]
  split
  · rename_i seen
    exact .ok (look_over seen (by simp)).2
  · exact .after fun r => ih.block _
  · exact .error

theorem elseClause_closes {c : Cursor} (closed : LineOver c.rest) :
    Closes (elseClause (fuel + 1) c) := by
  rw [elseClause]
  split
  · exact .after fun d => ih.suite d
  · exact .ok closed

theorem ifStatement_closes (c : Cursor) : Closes (ifStatement (fuel + 1) c) := by
  rw [ifStatement]
  refine .after fun c => .andThen (ih.suite c) fun c closed => ?_
  split
  · exact ih.ifStatement _
  · exact ih.elseClause closed

theorem forStatement_closes (c : Cursor) : Closes (forStatement (fuel + 1) c) := by
  rw [forStatement]
  exact .after fun c => .andThen (ih.suite c) fun c closed => ih.elseClause closed

theorem whileStatement_closes (c : Cursor) : Closes (whileStatement (fuel + 1) c) := by
  rw [whileStatement]
  exact .after fun c => .andThen (ih.suite c) fun c closed => ih.elseClause closed

theorem withStatement_closes (c : Cursor) : Closes (withStatement (fuel + 1) c) := by
  rw [withStatement]
  exact .after fun c => ih.suite c

theorem tryStatement_closes (c : Cursor) : Closes (tryStatement (fuel + 1) c) := by
  rw [tryStatement]
  refine .after fun c => .andThen (ih.suite c) fun c closed => ?_
  split
  · refine .andThen (ih.handlers closed) fun d closed => ?_
    refine .branch (ih.elseClause closed) (.ok closed) fun d closed => ?_
    dsimp only
    split
    · exact .after fun d => ih.suite d
    · exact .ok closed
  · exact .error

theorem handlers_closes {c : Cursor} (closed : LineOver c.rest) : Closes (handlers (fuel + 1) c) := by
  rw [handlers]
  split
  · exact .after fun d => .andThen (ih.suite d) fun d closed => ih.handlers closed
  · exact .ok closed

theorem matchStatement_closes (c : Cursor) : Closes (matchStatement (fuel + 1) c) := by
  rw [matchStatement]
  refine .after fun c => ?_
  split
  · exact ih.cases _
  · rename_i seen
    exact .ok (look_over seen (by simp)).1
  · exact .error

theorem cases_closes (c : Cursor) : Closes (cases (fuel + 1) c) := by
  rw [cases]
  split
  · rename_i seen
    exact .ok (look_over seen (by simp)).2
  · refine .ite ?_ .error
    exact .after fun d => .after fun d => .after fun d => ih.cases d

end

/-- By induction on the fuel, each function from those that it calls with one unit less. -/
theorem closesAll (fuel : Nat) : ClosesAll fuel := by
  induction fuel with
  | zero => constructor <;> intros <;> exact .error
  | succ fuel ih =>
    exact {
      statement := statement_closes ih
      definition := definition_closes ih
      suite := suite_closes ih
      block := block_closes ih
      ifStatement := ifStatement_closes ih
      elseClause := elseClause_closes ih
      forStatement := forStatement_closes ih
      whileStatement := whileStatement_closes ih
      withStatement := withStatement_closes ih
      tryStatement := tryStatement_closes ih
      handlers := handlers_closes ih
      matchStatement := matchStatement_closes ih
      cases := cases_closes ih }

end Bindery.Body.Reader

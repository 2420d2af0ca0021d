import Bindery.Proofs.Body.Grammar

/- The reader of statements only moves, and the decorators that it gives are spans between places that it
   came to: the text of each lies where the reader was. -/
namespace Bindery.Body

/-- All decorators of a statement have a property. -/
def Statement.Decorated (Q : Decorator → Prop) : Statement → Prop
  | .definition ds _ => ∀ x ∈ ds, Q x
  | .other => True

namespace Reader

variable {P : Cursor → Prop} (steady : Steady P)

/-! ### Simple statements -/

theorem ended_keeps : Keeps P ended := by
  intro c here
  unfold ended
  split
  · exact .ok here
  · exact .ite (.ok here) .error
  · exact .error

section
include steady

theorem continuesWith_keeps {words : List String} {c d : Cursor} (here : P c)
    (seen : continuesWith words c = some d) : P d := by
  unfold continuesWith at seen
  split at seen
  · rename_i visible
    split at seen
    · cases seen
      exact steady.visible here visible
    · contradiction
  · contradiction

theorem importNames_keeps (t : Tail) (fuel : Nat) : Keeps P (importNames t fuel) := by
  induction fuel with
  | zero => exact fun _ => .error
  | succ fuel ih =>
    intro c here
    rw [importNames]
    refine .andThen (dottedName_keeps steady t _ here) fun c here => ?_
    extract_lets more
    have keeps : ∀ c, P c → Gives (more c) P := by
      intro c here
      dsimp only [more]
      split
      · exact .ok here
      · rename_i d seen
        have there := steady.step (steady.visible here seen)
        refine .ite ?_ (.ok here)
        split
        · rename_i e seen
          exact .ite (ih (steady.visible there seen)) (.ok there)
        · exact .ok there
    split
    · rename_i d seen
      refine .ite ?_ (.andThen (.ok here) keeps)
      refine .andThen (steady.see _ (steady.skip (steady.visible here seen) 2)) fun d here => ?_
      exact .andThen (.map (steady.passName here) fun _ here => here) keeps
    · exact .andThen (.ok here) keeps

theorem importDots_keeps (fuel : Nat) : Keeps P (importDots fuel) := by
  induction fuel with
  | zero => exact fun _ => .error
  | succ fuel ih =>
    intro c here
    rw [importDots]
    exact .ite (.andThen (steady.see _ (steady.step here)) fun c here => ih here) (.ok here)

theorem importFrom_keeps (fuel : Nat) : Keeps P (importFrom fuel) := by
  intro c here
  unfold importFrom
  refine .andThen (steady.see _ here) fun c here => ?_
  refine .andThen (importDots_keeps steady _ here) fun d here => ?_
  extract_lets names
  have keeps : ∀ c, P c → Gives (names c) P := by
    intro c here
    refine .andThen (steady.passWord _ here) fun c here => ?_
    refine .andThen (steady.see _ here) fun c here => ?_
    refine .ite (.ok (steady.step here)) (.ite ?_ (importNames_keeps steady _ _ here))
    refine .andThen (steady.see _ (steady.step here)) fun c here => ?_
    refine .andThen (importNames_keeps steady _ _ here) fun c here => ?_
    exact .andThen (steady.see _ here) fun c here => steady.pass _ here
  refine .ite (.andThen (.ok here) keeps) ?_
  refine .andThen (dottedName_keeps steady _ _ here) fun c here => ?_
  exact .andThen (steady.see _ here) keeps

theorem nameList_keeps (fuel : Nat) : Keeps P (nameList fuel) := by
  induction fuel with
  | zero => exact fun _ => .error
  | succ fuel ih =>
    intro c here
    rw [nameList]
    refine .andThen (steady.see _ here) fun c here => ?_
    refine .andThen (steady.passName here) fun r here => ?_
    dsimp only
    split
    · rename_i d seen
      exact .ite (ih (steady.step (steady.visible here seen))) (.ok here)
    · exact .ok here

theorem optionalExpressions_keeps (fuel : Nat) : Keeps P (optionalExpressions fuel) := by
  intro c here
  unfold optionalExpressions
  split
  · rename_i d seen
    refine .ite (.map ((reads steady fuel).expressions (steady.visible here seen)) fun _ here => here)
      (.ok here)
  · exact .ok here

theorem raised_keeps (fuel : Nat) : Keeps P (raised fuel) := by
  intro c here
  unfold raised
  refine .andThen (optionalExpressions_keeps steady fuel here) fun c here => ?_
  split
  · rename_i d seen
    refine .ite ?_ (.ok here)
    refine .andThen (steady.see _ (steady.skip (steady.visible here seen) 4)) fun d here => ?_
    exact .map ((reads steady fuel).expression here) fun _ here => here
  · exact .ok here

theorem assigned_keeps (fuel : Nat) :
    (∀ allTargets, Keeps P (assigned allTargets fuel)) ∧ Keeps P (assignedValue fuel) := by
  induction fuel with
  | zero => exact ⟨fun _ _ _ => .error, fun _ => .error⟩
  | succ fuel ih =>
    obtain ⟨assigned_, value⟩ := ih
    have behind : ∀ {d}, P d → Gives (do assignedValue fuel (← d.see .operand)) P := fun here =>
      .andThen (steady.see _ here) fun _ here => value here
    constructor
    · intro allTargets c here
      rw [assigned]
      split
      · exact .ok here
      · rename_i d seen
        have there := steady.visible here seen
        refine .ite (.ite (behind (steady.step there)) .error) (.ite (.ite ?_ .error) ?_)
        · refine .andThen (steady.see _ (steady.step there)) fun d here => ?_
          refine .andThen ((reads steady fuel).typeExpr here) fun d here => ?_
          split
          · rename_i e seen
            exact .ite (behind (steady.step (steady.visible here seen))) (.ok here)
          · exact .ok here
        · split
          · rename_i e found
            exact .ite (behind (markIn_keeps steady there found)) .error
          · exact .ok here
    · intro c here
      rw [assignedValue]
      refine .ite ((reads steady fuel).yielded (steady.skip here 5)) ?_
      exact .andThen ((reads steady fuel).expressions here) fun r here => assigned_ _ here

theorem expressionStatement_keeps (fuel : Nat) : Keeps P (expressionStatement fuel) := by
  intro c here
  unfold expressionStatement
  refine .ite (.andThen ((reads steady fuel).yielded (steady.skip here 5)) fun c here =>
    ended_keeps here) ?_
  refine .andThen ((reads steady fuel).expressions here) fun r here => ?_
  exact .andThen ((assigned_keeps steady fuel).1 _ here) fun c here => ended_keeps here

theorem printed_keeps (fuel : Nat) : Keeps P (printed fuel) := by
  intro c here
  unfold printed
  refine .andThen (steady.see _ here) fun c here => ?_
  refine .ite ?_ (.map ((reads steady fuel).expressions here) fun _ here => here)
  refine .andThen (steady.see _ (steady.skip here 2)) fun c here => ?_
  refine .andThen ((reads steady fuel).expression here) fun r here => ?_
  exact .map ((reads steady fuel).moreExpressions here) fun _ here => here

theorem executed_keeps (fuel : Nat) : Keeps P (executed fuel) := by
  intro c here
  unfold executed
  refine .andThen (steady.see _ here) fun c here => ?_
  refine .branch (.map ((reads steady fuel).atom here) fun _ here => here)
    (.map (steady.passName here) fun _ here => here) fun c here => ?_
  dsimp only
  split
  · rename_i d seen
    refine .ite ?_ (.ok here)
    refine .andThen (steady.see _ (steady.skip (steady.visible here seen) 2)) fun d here => ?_
    exact .map ((reads steady fuel).expressions here) fun _ here => here
  · exact .ok here

theorem typeAlias_keeps (fuel : Nat) : Keeps P (typeAlias fuel) := by
  intro c here
  unfold typeAlias
  refine .andThen (steady.see _ here) fun c here => ?_
  refine .andThen ((reads steady fuel).typeExpr here) fun c here => ?_
  refine .andThen (steady.see _ here) fun c here => ?_
  refine .ite ?_ .error
  exact .andThen (steady.see _ (steady.step here)) fun c here => (reads steady fuel).typeExpr here

theorem simpleStatement_keeps (fuel : Nat) : Keeps P (simpleStatement fuel) := by
  intro c here
  unfold simpleStatement
  have whole := expressionStatement_keeps steady fuel here
  have free : ∀ {keyword : Nat → Cursor → Except Cursor Cursor} (width : Nat),
      Keeps P (keyword fuel) →
      Gives (firstOf (expressionStatement fuel c) fun _ => do
        ended (← keyword fuel (c.skip width))) P := fun width keeps =>
    firstOf_keeps whole
      (.andThen (keeps (steady.skip here width)) fun _ here => ended_keeps here)
  dsimp only
  split
  · rename_i w d _ found
    have there := steady.word here found
    split
    · exact .andThen (steady.see _ there) fun c here => importNames_keeps steady _ _ here
    · exact importFrom_keeps steady _ there
    · exact .andThen (steady.see _ there) fun c here =>
        .map ((reads steady fuel).expressions here) fun _ here => here
    · exact .andThen (steady.see _ there) fun c here =>
        .map ((reads steady fuel).expressions here) fun _ here => here
    · exact optionalExpressions_keeps steady _ there
    · exact raised_keeps steady _ there
    · exact .ok there
    · exact .ok there
    · exact .ok there
    · exact nameList_keeps steady _ there
    · exact nameList_keeps steady _ there
    · exact free 5 (printed_keeps steady fuel)
    · exact free 4 (executed_keeps steady fuel)
    · exact free 4 (typeAlias_keeps steady fuel)
    · exact whole
  · exact whole

theorem simpleStatements_keeps (fuel : Nat) : Keeps P (simpleStatements fuel) := by
  induction fuel with
  | zero => exact fun _ => .error
  | succ fuel ih =>
    intro c here
    rw [simpleStatements]
    refine .andThen (simpleStatement_keeps steady fuel here) fun c here => ?_
    split
    · exact .ok here
    · rename_i d seen
      have there := steady.step (steady.look_eq here seen)
      refine .ite ?_ .error
      split
      · exact .ok there
      · rename_i e seen
        exact ih (steady.look_eq there seen)
      · exact .error
    · exact .error

/-! ### Heads of compound statements -/

theorem typeParameters_keeps (fuel : Nat) : Keeps P (typeParameters fuel) := by
  intro c here
  unfold typeParameters
  refine .andThen (steady.see _ here) fun d there => ?_
  exact .ite ((reads steady fuel).typeList there) (.ok here)

theorem functionHead_keeps (fuel : Nat) : KeepsWith P (functionHead fuel) := by
  intro c here
  unfold functionHead
  refine .andThen (steady.see _ here) fun c here => ?_
  refine .andThen (steady.passName here) fun r here => ?_
  refine .andThen (typeParameters_keeps steady fuel here) fun c here => ?_
  refine .andThen (steady.see _ here) fun c here => ?_
  refine .andThen (steady.pass _ here) fun c here => ?_
  refine .andThen (steady.see _ here) fun c here => ?_
  refine .branch (.ok here) ((reads steady fuel).parameters here) fun c here => ?_
  refine .andThen (steady.see _ here) fun c here => ?_
  refine .andThen (steady.pass _ here) fun c here => ?_
  refine .andThen (steady.see _ here) fun c here => ?_
  extract_lets colon
  have keeps : ∀ c, P c → Gives (colon c) fun r => P r.2 := fun c here =>
    .andThen (steady.pass _ here) fun c here => .ok here
  refine .ite ?_ (.andThen (.ok here) keeps)
  refine .andThen (steady.see _ (steady.skip here 2)) fun c here => ?_
  refine .andThen ((reads steady fuel).typeExpr here) fun c here => ?_
  exact .andThen (steady.see _ here) keeps

theorem classHead_keeps (fuel : Nat) {c : Cursor} (here : P c) :
    Gives (classHead fuel c) fun r => P r.2.2 := by
  unfold classHead
  refine .andThen (steady.see _ here) fun c here => ?_
  refine .andThen (steady.passName here) fun r here => ?_
  refine .andThen (typeParameters_keeps steady fuel here) fun c here => ?_
  refine .andThen (steady.see _ here) fun c here => ?_
  extract_lets colon
  have keeps : ∀ r : List String × Cursor, P r.2 → Gives (colon r) fun r => P r.2.2 :=
    fun _ here => .andThen (steady.pass _ here) fun c here => .ok here
  refine .ite ?_ (.andThen (.ok here) keeps)
  refine .andThen (steady.see _ (steady.step here)) fun d here => ?_
  refine .andThen ((reads steady fuel).arguments here) fun r here => ?_
  exact .andThen (steady.see _ here) fun d here => .andThen (.ok here) keeps

theorem condition_keeps (fuel : Nat) : Keeps P (condition fuel) := by
  intro c here
  unfold condition
  refine .andThen (steady.see _ here) fun c here => ?_
  refine .andThen ((reads steady fuel).expression here) fun r here => ?_
  exact .andThen (steady.see _ here) fun c here => steady.pass _ here

theorem subjects_keeps (fuel : Nat) : Keeps P (subjects fuel) := by
  intro c here
  unfold subjects
  refine .andThen (steady.see _ here) fun c here => ?_
  refine .andThen ((reads steady fuel).expressions here) fun r here => ?_
  exact .andThen (steady.see _ here) fun c here => steady.pass _ here

theorem caseHead_keeps (fuel : Nat) : Keeps P (caseHead fuel) := by
  induction fuel with
  | zero => exact fun _ => .error
  | succ fuel ih =>
    intro c here
    rw [caseHead]
    refine .andThen ((readsPatterns steady fuel).casePattern here) fun c here => ?_
    refine .andThen (steady.see _ here) fun c here => ?_
    extract_lets colon guarded
    have keeps : Gives (guarded ()) P := by
      refine .ite ?_ (.andThen (.ok here) fun c here => steady.pass _ here)
      refine .andThen (steady.see _ (steady.skip here 2)) fun c here => ?_
      refine .andThen ((reads steady fuel).expression here) fun r here => ?_
      exact .andThen (steady.see _ here) fun c here => steady.pass _ here
    refine .ite ?_ keeps
    refine .andThen (steady.see _ (steady.step here)) fun c here => ?_
    exact .ite (.ok (steady.step here)) (.ite (ih here) keeps)

theorem loopHead_keeps (fuel : Nat) : Keeps P (loopHead fuel) := by
  intro c here
  unfold loopHead
  refine .andThen (steady.see _ here) fun c here => ?_
  refine .andThen ((reads steady fuel).targetList here) fun c here => ?_
  refine .andThen (steady.see _ here) fun c here => ?_
  exact .andThen (steady.passWord _ here) fun c here => subjects_keeps steady fuel here

theorem handlerHead_keeps (fuel : Nat) : Keeps P (handlerHead fuel) := by
  intro c here
  unfold handlerHead
  refine .andThen (steady.see _ here) fun c here => ?_
  refine .branch (steady.see _ (steady.step here)) (.ok here) fun c here => ?_
  refine .ite (.ok (steady.step here)) ?_
  refine .andThen ((reads steady fuel).expressions here) fun r here => ?_
  exact .andThen (steady.see _ here) fun c here => steady.pass _ here

theorem colon_keeps : Keeps P colon := fun here =>
  .andThen (steady.see _ here) fun _ here => steady.pass _ here

end

/-! ### Statements -/

/-- What is read of statements with this much fuel keeps a property of places, and every decorator among
    it has a property. -/
structure Runs (P : Cursor → Prop) (Q : Decorator → Prop) (fuel : Nat) : Prop where
  statement : ∀ {c}, P c → Gives (statement fuel c) fun r => P r.2 ∧ r.1.Decorated Q
  decorated : ∀ {c}, P c → Gives (decorated fuel c) fun r => P r.2 ∧ ∀ x ∈ r.1, Q x
  definition : KeepsWith P (definition fuel)
  suite : Keeps P (suite fuel)
  block : Keeps P (block fuel)
  ifStatement : Keeps P (ifStatement fuel)
  elseClause : Keeps P (elseClause fuel)
  forStatement : Keeps P (forStatement fuel)
  whileStatement : Keeps P (whileStatement fuel)
  withStatement : Keeps P (withStatement fuel)
  tryStatement : Keeps P (tryStatement fuel)
  handlers : Keeps P (handlers fuel)
  matchStatement : Keeps P (matchStatement fuel)
  cases : Keeps P (cases fuel)

section
variable {Q : Decorator → Prop} {fuel : Nat} (ih : Runs P Q fuel)
include steady ih

theorem statement_step {c : Cursor} (here : P c) :
    Gives (statement (fuel + 1) c) fun r => P r.2 ∧ r.1.Decorated Q := by
  have simple : Gives (do return (Statement.other, ← simpleStatements fuel c))
      fun r => P r.2 ∧ r.1.Decorated Q :=
    .andThen (simpleStatements_keeps steady fuel here) fun c here => .ok ⟨here, trivial⟩
  have other : ∀ {r : Except Cursor Cursor}, Gives r P →
      Gives (r.map fun c => (Statement.other, c)) fun r => P r.2 ∧ r.1.Decorated Q :=
    fun keeps => .map keeps fun c here => ⟨here, trivial⟩
  have bare : Gives (do
      let r ← definition fuel c
      return (Statement.definition [] r.1, r.2)) fun r => P r.2 ∧ r.1.Decorated Q :=
    .andThen (ih.definition here) fun r here => .ok ⟨here, by simp [Statement.Decorated]⟩
  rw [statement]
  dsimp only
  split
  · refine .andThen (ih.decorated here) fun r decorated => ?_
    exact .andThen (ih.definition decorated.1) fun r here => .ok ⟨here, decorated.2⟩
  split
  · rename_i w d _ found
    have there := steady.word here found
    split
    · exact bare
    · exact bare
    · split
      · rename_i e seen
        have beyond := steady.visible there seen
        exact .ite bare (.ite (other (ih.forStatement (steady.skip beyond 3)))
          (.ite (other (ih.withStatement (steady.skip beyond 4))) simple))
      · exact simple
    · exact other (ih.ifStatement there)
    · exact other (ih.forStatement there)
    · exact other (ih.whileStatement there)
    · exact other (ih.tryStatement there)
    · exact other (ih.withStatement there)
    · exact firstOf_keeps (other (ih.matchStatement there)) simple
    · exact simple
  · exact simple

/-- The span of a decorator lies between two places that the reader came to behind its mark. -/
theorem decorated_step
    (spans : ∀ {c d e : Cursor}, P c → Moved c d → Moved d e →
      Q ⟨c.place, d.textUpTo e.offset, d.place, e.place⟩) {c : Cursor} (here : P c) :
    Gives (decorated (fuel + 1) c) fun r => P r.2 ∧ ∀ x ∈ r.1, Q x := by
  rw [decorated]
  refine .andThen ((steady.and (steady_moved c)).see _ ⟨steady.step here, .step .here⟩)
    fun d ⟨there, moved⟩ => ?_
  refine .andThen ((reads (steady.and (steady_moved d)) fuel).expression ⟨there, .here⟩)
    fun r ⟨beyond, along⟩ => ?_
  dsimp only
  split
  · have own : Q (let p := (c.step.join?).getD (d, r.2);
        ⟨c.place, p.1.textUpTo p.2.offset, p.1.place, p.2.place⟩) := by
      cases join : c.step.join? with
      | none => exact spans here moved along
      | some p =>
        obtain ⟨before, behind⟩ := (steady_moved c).join (.step .here) join
        exact spans here before behind
    refine .andThen (steady.see _ beyond) fun f here => ?_
    refine .ite ?_ (.ok ⟨here, by simpa using own⟩)
    exact .andThen (ih.decorated here) fun r ⟨here, written⟩ =>
      .ok ⟨here, List.forall_mem_cons.mpr ⟨own, written⟩⟩
  · exact .error
  · exact .error

theorem definition_step : KeepsWith P (definition (fuel + 1)) := by
  intro c here
  rw [definition]
  refine .ite ?_ ?_
  · refine .andThen (classHead_keeps steady fuel (steady.skip here 5)) fun r here => ?_
    exact .andThen (ih.suite here) fun d here => .ok here
  · refine .branch (steady.see _ (steady.skip here 5)) (.ok here) fun d here => ?_
    refine .andThen (steady.passWord _ here) fun d here => ?_
    refine .andThen (functionHead_keeps steady fuel here) fun r here => ?_
    exact .andThen (ih.suite here) fun d here => .ok here

theorem suite_step : Keeps P (suite (fuel + 1)) := by
  intro c here
  rw [suite]
  split
  · rename_i d seen
    exact ih.block (steady.look_eq here seen)
  · exact .ok here
  · rename_i d seen
    exact simpleStatements_keeps steady fuel (steady.look_eq here seen)
  · exact .error

theorem block_step : Keeps P (block (fuel + 1)) := by
  intro c here
  rw [block]
  split
  · rename_i d seen
    exact .ok (steady.look_eq here seen)
  · rename_i d seen
    exact .andThen (ih.statement (steady.look_eq here seen)) fun r ⟨here, _⟩ => ih.block here
  · exact .error

theorem ifStatement_step : Keeps P (ifStatement (fuel + 1)) := by
  intro c here
  rw [ifStatement]
  refine .andThen (condition_keeps steady fuel here) fun c here => ?_
  refine .andThen (ih.suite here) fun c here => ?_
  split
  · rename_i d seen
    exact ih.ifStatement (steady.skip (continuesWith_keeps steady here seen) 4)
  · exact ih.elseClause here

theorem elseClause_step : Keeps P (elseClause (fuel + 1)) := by
  intro c here
  rw [elseClause]
  split
  · rename_i d seen
    have there := steady.skip (continuesWith_keeps steady here seen) 4
    exact .andThen (colon_keeps steady there) fun c here => ih.suite here
  · exact .ok here

theorem forStatement_step : Keeps P (forStatement (fuel + 1)) := by
  intro c here
  rw [forStatement]
  refine .andThen (loopHead_keeps steady fuel here) fun c here => ?_
  exact .andThen (ih.suite here) fun c here => ih.elseClause here

theorem whileStatement_step : Keeps P (whileStatement (fuel + 1)) := by
  intro c here
  rw [whileStatement]
  refine .andThen (condition_keeps steady fuel here) fun c here => ?_
  exact .andThen (ih.suite here) fun c here => ih.elseClause here

theorem withStatement_step : Keeps P (withStatement (fuel + 1)) := by
  intro c here
  rw [withStatement]
  exact .andThen (subjects_keeps steady fuel here) fun c here => ih.suite here

theorem tryStatement_step : Keeps P (tryStatement (fuel + 1)) := by
  intro c here
  rw [tryStatement]
  refine .andThen (colon_keeps steady here) fun c here => ?_
  refine .andThen (ih.suite here) fun c here => ?_
  split
  · refine .andThen (ih.handlers here) fun d here => ?_
    refine .branch (ih.elseClause here) (.ok here) fun d here => ?_
    dsimp only
    split
    · rename_i e seen
      have there := steady.skip (continuesWith_keeps steady here seen) 7
      exact .andThen (colon_keeps steady there) fun c here => ih.suite here
    · exact .ok here
  · exact .error

theorem handlers_step : Keeps P (handlers (fuel + 1)) := by
  intro c here
  rw [handlers]
  split
  · rename_i d seen
    have there := steady.skip (continuesWith_keeps steady here seen) 6
    refine .andThen (handlerHead_keeps steady fuel there) fun d here => ?_
    exact .andThen (ih.suite here) fun d here => ih.handlers here
  · exact .ok here

theorem matchStatement_step : Keeps P (matchStatement (fuel + 1)) := by
  intro c here
  rw [matchStatement]
  refine .andThen (subjects_keeps steady fuel here) fun c here => ?_
  split
  · rename_i d seen
    exact ih.cases (steady.look_eq here seen)
  · exact .ok here
  · exact .error

theorem cases_step : Keeps P (cases (fuel + 1)) := by
  intro c here
  rw [cases]
  split
  · rename_i d seen
    exact .ok (steady.look_eq here seen)
  · rename_i d _ seen
    refine .ite ?_ .error
    refine .andThen (steady.see _ (steady.skip (steady.look_eq here seen) 4)) fun d here => ?_
    refine .andThen (caseHead_keeps steady fuel here) fun d here => ?_
    exact .andThen (ih.suite here) fun d here => ih.cases here

end

theorem runs_zero {Q : Decorator → Prop} : Runs P Q 0 := by
  constructor <;> intros <;> first | exact .error | exact fun _ => .error

section
variable {Q : Decorator → Prop}
  (spans : ∀ {c d e : Cursor}, P c → Moved c d → Moved d e →
    Q ⟨c.place, d.textUpTo e.offset, d.place, e.place⟩)
include steady spans

/-- By induction on the fuel, as for expressions. -/
theorem runs (fuel : Nat) : Runs P Q fuel := by
  induction fuel with
  | zero => exact runs_zero
  | succ fuel ih =>
    exact {
      statement := statement_step steady ih
      decorated := decorated_step steady ih spans
      definition := definition_step steady ih
      suite := suite_step steady ih
      block := block_step steady ih
      ifStatement := ifStatement_step steady ih
      elseClause := elseClause_step steady ih
      forStatement := forStatement_step steady ih
      whileStatement := whileStatement_step steady ih
      withStatement := withStatement_step steady ih
      tryStatement := tryStatement_step steady ih
      handlers := handlers_step steady ih
      matchStatement := matchStatement_step steady ih
      cases := cases_step steady ih }

theorem statements_decorated (fuel : Nat) {c : Cursor} (here : P c) :
    Gives (statements fuel c) fun found => ∀ x ∈ found, x.Decorated Q := by
  induction fuel generalizing c with
  | zero => exact .error
  | succ fuel ih =>
    rw [statements]
    split
    · rename_i d seen
      refine .ite (.ok (by simp)) ?_
      refine .andThen ((runs steady spans fuel).statement (steady.look_eq here seen))
        fun r ⟨here, own⟩ => ?_
      exact .andThen (ih here) fun more written => .ok (List.forall_mem_cons.mpr ⟨own, written⟩)
    · exact .error

end

end Reader

/-- The text of every decorator of a body stands in the body. -/
theorem decorators_infix (source : String) : Gives (statements source) fun found =>
    ∀ x ∈ found, x.Decorated fun d => d.source.toList <:+: source.toList := by
  have steady : Steady fun c => c.rest <:+ source.toList := by
    constructor
    · intro c here
      unfold Cursor.step
      split
      · exact here
      · rename_i x rest text
        rw [text] at here
        exact (List.suffix_cons x rest).trans here
    · exact fun ns here => here
    · exact fun b here => here
  refine Reader.statements_decorated steady ?_ _ (List.suffix_refl _)
  intro c d e here moved _
  rw [Cursor.textUpTo, String.toList_ofList]
  exact (List.take_prefix _ _).isInfix.trans (steady.moved moved here).isInfix

end Bindery.Body

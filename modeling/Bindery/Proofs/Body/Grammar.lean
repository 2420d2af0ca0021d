import Bindery.Proofs.Body.Moves

/- The readers of expressions and patterns only move: where a reading comes to an end, everything holds
   that held where it began and that stays through the moves of a reader. By induction on the fuel,
   each function from those that it calls with one unit less. -/
namespace Bindery.Body.Reader

variable {P : Cursor → Prop} (steady : Steady P)

/-- A reading keeps a property of places. -/
def Keeps (P : Cursor → Prop) (read : Cursor → Except Cursor Cursor) : Prop :=
  ∀ {c}, P c → Gives (read c) P

/-- A reading with a result keeps a property of places. -/
def KeepsWith {α : Type} (P : Cursor → Prop) (read : Cursor → Except Cursor (α × Cursor)) : Prop :=
  ∀ {c}, P c → Gives (read c) fun r => P r.2

theorem firstOf_keeps {α : Type} {Q : α → Prop} {a : Except Cursor α} {b : Unit → Except Cursor α}
    (first : Gives a Q) (second : Gives (b ()) Q) : Gives (firstOf a b) Q := by
  unfold firstOf
  split
  · exact .ok (first _ rfl)
  · split
    · rename_i outcome
      exact .ok (second _ outcome)
    · exact .error

/-! ### Words -/

section
include steady

theorem markIn_keeps {marks : List String} {c d : Cursor} (here : P c)
    (seen : markIn? marks c = some d) : P d := by
  obtain ⟨m, -, found⟩ := List.exists_of_findSome?_eq_some seen
  exact steady.mark here found

theorem binaryMark_keeps {c d : Cursor} (here : P c) (seen : binaryMark? c = some d) : P d := by
  unfold binaryMark? at seen
  split at seen
  · rename_i found
    split at seen
    · contradiction
    · cases seen
      exact markIn_keeps steady here found
  · contradiction

theorem membershipWord_keeps {c d : Cursor} (here : P c) (seen : membershipWord? c = some d) :
    P d := by
  unfold membershipWord? at seen
  split at seen
  · rename_i found
    cases seen
    exact steady.word here found
  · rename_i found
    split at seen
    · rename_i visible
      split at seen
      · cases seen
        exact steady.skip (steady.visible (steady.word here found) visible) 2
      · contradiction
    · contradiction
  · rename_i found
    have here := steady.word here found
    split at seen
    · rename_i visible
      split at seen
      · cases seen
        exact steady.skip (steady.visible here visible) 3
      · cases seen
        exact here
    · cases seen
      exact here
  · contradiction

theorem operator_keeps {c d : Cursor} (here : P c) (seen : operator? c = some d) : P d := by
  unfold operator? at seen
  split at seen
  · rename_i found
    cases seen
    exact binaryMark_keeps steady here found
  split at seen
  · rename_i found
    cases seen
    exact markIn_keeps steady here found
  · exact membershipWord_keeps steady here seen

theorem dottedRest_keeps (t : Tail) (fuel : Nat) : Keeps P (dottedRest t fuel) := by
  induction fuel with
  | zero => exact fun _ => .error
  | succ fuel ih =>
    intro c here
    rw [dottedRest]
    split
    · exact .ok here
    · rename_i seen
      refine .ite ?_ (.ok here)
      refine .andThen (steady.see _ (steady.step (steady.visible here seen))) fun e here => ?_
      exact .andThen (steady.passName here) fun r here => ih here

theorem dottedName_keeps (t : Tail) (fuel : Nat) : Keeps P (dottedName t fuel) := fun here =>
  .andThen (steady.passName here) fun _ here => dottedRest_keeps steady t fuel here

theorem awaited_keeps {t : Tail} {c d : Cursor} (here : P c) (seen : awaited? t c = some d) :
    P d := by
  unfold awaited? at seen
  split at seen
  · split at seen
    · rename_i visible
      split at seen
      · cases seen
        exact steady.visible (steady.skip here 5) visible
      · contradiction
    · contradiction
  · contradiction

theorem named_keeps {x : Expect} {c d : Cursor} (here : P c) (seen : named? x c = some d) : P d := by
  unfold named? at seen
  split at seen
  · contradiction
  split at seen
  · rename_i name
    split at seen
    · rename_i visible
      split at seen
      · cases seen
        exact steady.step (steady.visible (steady.name here name) visible)
      · contradiction
    · contradiction
  · contradiction

theorem caseNumber_keeps (t : Tail) : Keeps P (caseNumber t) := by
  intro c here
  unfold caseNumber
  refine .branch (steady.see _ (steady.step here)) (.ok here) fun c here => ?_
  dsimp only
  split
  · exact .error
  · rename_i found
    have here := steady.number here found
    split
    · exact .ok here
    · rename_i seen
      refine .ite ?_ (.ok here)
      refine .andThen (steady.see _ (steady.step (steady.visible here seen))) fun e here => ?_
      split
      · rename_i found
        exact .ok (steady.number here found)
      · exact .error

end

/-! ### Expressions -/

/-- What is read with this much fuel keeps a property. -/
structure Reads (P : Cursor → Prop) (fuel : Nat) : Prop where
  expression : ∀ {t}, KeepsWith P (expression t fuel)
  continuation : ∀ {t shape}, KeepsWith P (continuation t fuel shape)
  chain : ∀ {t shape}, KeepsWith P (chain t fuel shape)
  operand : ∀ {t}, KeepsWith P (operand t fuel)
  atom : ∀ {t}, KeepsWith P (atom t fuel)
  attachments : ∀ {t shape}, KeepsWith P (attachments t fuel shape)
  quoted : ∀ {q}, Keeps P (quoted q fuel)
  moreQuoted : ∀ {t}, Keeps P (moreQuoted t fuel)
  field : Keeps P (field fuel)
  format : Keeps P (format fuel)
  element : KeepsWith P (element fuel)
  bracketed : ∀ {close}, KeepsWith P (bracketed close fuel)
  elements : ∀ {close}, KeepsWith P (elements close fuel)
  braced : KeepsWith P (braced fuel)
  entry : Keeps P (entry fuel)
  entries : Keeps P (entries fuel)
  clauses : Keeps P (clauses fuel)
  clauseSources : Keeps P (clauseSources fuel)
  subscripts : Keeps P (subscripts fuel)
  slice : Keeps P (slice fuel)
  slicePart : Keeps P (slicePart fuel)
  arguments : ∀ {generator}, KeepsWith P (arguments generator fuel)
  moreArguments : KeepsWith P (moreArguments fuel)
  argument : KeepsWith P (argument fuel)
  yielded : ∀ {t}, Keeps P (yielded t fuel)
  expressions : ∀ {t}, KeepsWith P (expressions t fuel)
  moreExpressions : ∀ {t}, KeepsWith P (moreExpressions t fuel)
  targetList : Keeps P (targetList fuel)
  parameters : ∀ {typed}, Keeps P (parameters typed fuel)
  parameter : ∀ {typed}, Keeps P (parameter typed fuel)
  annotated : ∀ {typed}, Keeps P (annotated typed fuel)
  defaultValue : ∀ {t}, Keeps P (defaultValue t fuel)
  typeExpr : ∀ {t constrained}, Keeps P (typeExpr t constrained fuel)
  typeList : Keeps P (typeList fuel)
  types : Keeps P (types fuel)

section
variable {fuel : Nat} (ih : Reads P fuel)
include steady ih

theorem expression_step {t : Tail} : KeepsWith P (expression t (fuel + 1)) := by
  intro c here
  rw [expression]
  split
  · refine .andThen (steady.see _ (steady.skip here 3)) fun c here => ?_
    exact .andThen (ih.expression here) fun r here => .ok here
  split
  · refine .andThen (steady.see _ (steady.skip here 6)) fun c here => ?_
    refine .branch (.ok here) (ih.parameters here) fun c here => ?_
    refine .andThen (steady.see _ here) fun c here => ?_
    refine .andThen (steady.pass _ here) fun c here => ?_
    refine .andThen (steady.see _ here) fun c here => ?_
    exact .andThen (ih.expression here) fun r here => .ok here
  · refine .andThen (ih.operand here) fun r here => ?_
    exact .andThen (ih.chain here) fun r here => ih.continuation here

theorem continuation_step {t : Tail} {shape : Shape} :
    KeepsWith P (continuation t (fuel + 1) shape) := by
  intro c here
  rw [continuation]
  split
  · exact .ok here
  · rename_i d seen
    have there := steady.visible here seen
    have larger : ∀ {d}, P d → Gives (do
        let r ← expression t fuel (← d.see .operand)
        return (Shape.other, r.2)) fun r => P r.2 := fun here =>
      .andThen (steady.see _ here) fun d here =>
        .andThen (ih.expression here) fun r here => .ok here
    refine .ite (larger (steady.skip there 2)) (.ite (larger (steady.skip there 3))
      (.ite (larger (steady.skip there 2)) (.ite ?_ (.ok here))))
    refine .andThen (steady.see _ (steady.skip there 2)) fun d here => ?_
    refine .andThen (ih.expression here) fun r here => ?_
    refine .andThen (steady.see _ here) fun d here => ?_
    exact .andThen (steady.passWord _ here) fun d here => larger here

theorem chain_step {t : Tail} {shape : Shape} : KeepsWith P (chain t (fuel + 1) shape) := by
  intro c here
  rw [chain]
  split
  · exact .ok here
  · rename_i d seen
    obtain ⟨e, visible, found⟩ := Option.bind_eq_some_iff.mp seen
    have here := operator_keeps steady (steady.visible here visible) found
    refine .andThen (steady.see _ here) fun d here => ?_
    exact .andThen (ih.operand here) fun r here => ih.chain here

theorem operand_step {t : Tail} : KeepsWith P (operand t (fuel + 1)) := by
  intro c here
  rw [operand]
  split
  · refine .andThen (steady.see _ (steady.step here)) fun c here => ?_
    exact .andThen (ih.operand here) fun r here => .ok here
  split
  · refine .andThen (steady.see _ (steady.step here)) fun d here => ?_
    exact .andThen (ih.operand here) fun r here => .ite (.ok here) .error
  split
  · rename_i d seen
    exact .andThen (ih.operand (awaited_keeps steady here seen)) fun r here => .ok here
  · exact .andThen (ih.atom here) fun r here => ih.attachments here

theorem atom_step {t : Tail} : KeepsWith P (atom t (fuel + 1)) := by
  intro c here
  rw [atom]
  split
  · rename_i q d seen
    refine .andThen (ih.quoted (steady.quotation here seen)) fun d here => ?_
    exact .andThen (ih.moreQuoted here) fun d here => .ok here
  split
  · rename_i d seen
    exact .ok (steady.number here seen)
  split
  · rename_i w d seen
    have here := steady.word here seen
    exact .ite (.ok here) (.ite .error (.ok here))
  split
  · exact .ok (steady.skip here 3)
  · exact .andThen (steady.see _ (steady.step here)) fun d here => ih.bracketed here
  · exact .andThen (steady.see _ (steady.step here)) fun d here => ih.bracketed here
  · exact .andThen (steady.see _ (steady.step here)) fun d here => ih.braced here
  · exact .error

theorem attachments_step {t : Tail} {shape : Shape} :
    KeepsWith P (attachments t (fuel + 1) shape) := by
  intro c here
  rw [attachments]
  split
  · exact .ok here
  · rename_i d seen
    have there := steady.step (steady.visible here seen)
    split
    · refine .andThen (steady.see _ there) fun e here => ?_
      exact .andThen (steady.passName here) fun r here => ih.attachments here
    · refine .andThen (steady.see _ there) fun e here => ?_
      exact .andThen (ih.subscripts here) fun e here => ih.attachments here
    · refine .andThen (steady.see _ there) fun e here => ?_
      exact .andThen (ih.arguments here) fun r here => ih.attachments here
    · exact .ok here

theorem quoted_step {q : Quotation} : Keeps P (quoted q (fuel + 1)) := by
  intro c here
  have ends := steady.piece q here
  rw [quoted]
  split
  · rename_i d seen
    exact ih.quoted (by rwa [seen] at ends)
  · rename_i d seen
    exact .ok (by rwa [seen] at ends)
  · exact .error
  · rename_i d seen
    have there : P d := by rwa [seen] at ends
    exact .andThen (ih.field (steady.step there)) fun d here => ih.quoted here

theorem moreQuoted_step {t : Tail} : Keeps P (moreQuoted t (fuel + 1)) := by
  intro c here
  rw [moreQuoted]
  split
  · exact .ok here
  · rename_i q d seen
    obtain ⟨e, visible, found⟩ := Option.bind_eq_some_iff.mp seen
    refine .andThen (ih.quoted (steady.quotation (steady.visible here visible) found)) fun d here => ?_
    exact ih.moreQuoted here

theorem field_step : Keeps P (field (fuel + 1)) := by
  intro c here
  rw [field]
  refine .andThen (steady.see _ here) fun c here => ?_
  refine .branch (ih.yielded (steady.skip here 5)) (.map (ih.expressions here) fun _ here => here)
    fun c here => ?_
  refine .andThen (steady.see _ here) fun c here => ?_
  refine .branch (steady.see _ (steady.step here)) (.ok here) fun c here => ?_
  have ending : ∀ c, P c → Gives (if c.atMark ":" then format fuel c.step >>= (·.pass "\x7d")
      else .ok c >>= (·.pass "\x7d")) P := fun c here =>
    .branch (ih.format (steady.step here)) (.ok here) fun c here => steady.pass _ here
  dsimp only
  split
  · exact .branch (steady.see _ (steady.skip here 2)) .error ending
  · exact .andThen (.ok here) ending

theorem format_step : Keeps P (format (fuel + 1)) := by
  intro c here
  rw [format]
  split
  · exact .error
  · refine .ite (.ok here) (.ite ?_ (ih.format (steady.step here)))
    exact .andThen (ih.field (steady.step here)) fun c here => ih.format here

theorem element_step : KeepsWith P (element (fuel + 1)) := by
  intro c here
  rw [element]
  refine .ite ?_ (.ite ?_ (ih.expression here))
  · exact .andThen (ih.yielded (steady.skip here 5)) fun c here => .ok here
  · refine .andThen (steady.see _ (steady.step here)) fun c here => ?_
    exact .andThen (ih.expression here) fun r here => .ok here

theorem bracketed_step {close : String} : KeepsWith P (bracketed close (fuel + 1)) := by
  intro c here
  rw [bracketed]
  refine .ite (.ok (steady.step here)) ?_
  refine .andThen (ih.element here) fun r here => ?_
  refine .andThen (steady.see _ here) fun c here => ?_
  refine .ite ?_ ?_
  · refine .andThen (ih.clauses here) fun c here => ?_
    exact .andThen (steady.pass _ here) fun c here => .ok here
  · exact .andThen (ih.elements here) fun r here => .ok here

theorem elements_step {close : String} : KeepsWith P (elements close (fuel + 1)) := by
  intro c here
  rw [elements]
  refine .ite (.ok (steady.step here)) ?_
  refine .andThen (steady.pass _ here) fun c here => ?_
  refine .andThen (steady.see _ here) fun c here => ?_
  refine .ite (.ok (steady.step here)) ?_
  refine .andThen (ih.element here) fun r here => ?_
  refine .andThen (steady.see _ here) fun c here => ?_
  exact .andThen (ih.elements here) fun r here => .ok here

theorem braced_step : KeepsWith P (braced (fuel + 1)) := by
  intro c here
  rw [braced]
  split
  · exact .ok (steady.step here)
  split
  · refine .andThen (steady.see _ (steady.step here)) fun c here => ?_
    exact .andThen (steady.pass _ here) fun c here => .ok here
  split
  · refine .andThen (ih.entry here) fun c here => ?_
    refine .andThen (steady.see _ here) fun c here => ?_
    exact .andThen (ih.entries here) fun c here => .ok here
  · have clauses : ∀ {c}, P c → Gives (do
        let c ← clauses fuel c
        let c ← c.pass "\x7d"
        return (Shape.other, c)) fun r => P r.2 := fun here =>
      .andThen (ih.clauses here) fun c here => .andThen (steady.pass _ here) fun c here => .ok here
    refine .andThen (ih.element here) fun r here => ?_
    refine .andThen (steady.see _ here) fun c here => ?_
    refine .ite ?_ (.ite (clauses here) ?_)
    · refine .andThen (steady.see _ (steady.step here)) fun c here => ?_
      refine .andThen (ih.expression here) fun r here => ?_
      refine .andThen (steady.see _ here) fun c here => ?_
      exact .ite (clauses here) (.andThen (ih.entries here) fun c here => .ok here)
    · exact .andThen (ih.elements here) fun r here => .ok here

theorem entry_step : Keeps P (entry (fuel + 1)) := by
  intro c here
  rw [entry]
  refine .ite ?_ ?_
  · refine .andThen (steady.see _ (steady.skip here 2)) fun c here => ?_
    exact .map (ih.expression here) fun _ here => here
  · refine .andThen (ih.expression here) fun r here => ?_
    refine .andThen (steady.see _ here) fun c here => ?_
    refine .andThen (steady.pass _ here) fun c here => ?_
    refine .andThen (steady.see _ here) fun c here => ?_
    exact .map (ih.expression here) fun _ here => here

theorem entries_step : Keeps P (entries (fuel + 1)) := by
  intro c here
  rw [entries]
  refine .ite (.ok (steady.step here)) ?_
  refine .andThen (steady.pass _ here) fun c here => ?_
  refine .andThen (steady.see _ here) fun c here => ?_
  refine .ite (.ok (steady.step here)) ?_
  refine .andThen (ih.entry here) fun c here => ?_
  exact .andThen (steady.see _ here) fun c here => ih.entries here

theorem clauses_step : Keeps P (clauses (fuel + 1)) := by
  intro c here
  rw [clauses]
  split
  · refine .branch (steady.see _ (steady.skip here 5)) (.ok here) fun c here => ?_
    refine .andThen (steady.passWord _ here) fun c here => ?_
    refine .andThen (steady.see _ here) fun c here => ?_
    refine .andThen (ih.targetList here) fun c here => ?_
    refine .andThen (steady.see _ here) fun c here => ?_
    refine .andThen (steady.passWord _ here) fun c here => ?_
    refine .andThen (steady.see _ here) fun c here => ?_
    refine .andThen (ih.expression here) fun r here => ?_
    refine .andThen (steady.see _ here) fun c here => ?_
    exact .andThen (ih.clauseSources here) fun c here => ih.clauses here
  split
  · refine .andThen (steady.see _ (steady.skip here 2)) fun c here => ?_
    refine .andThen (ih.expression here) fun r here => ?_
    exact .andThen (steady.see _ here) fun c here => ih.clauses here
  · exact .ok here

theorem clauseSources_step : Keeps P (clauseSources (fuel + 1)) := by
  intro c here
  rw [clauseSources]
  refine .ite ?_ (.ok here)
  refine .andThen (steady.see _ (steady.step here)) fun c here => ?_
  refine .ite ?_ (.ok here)
  refine .andThen (ih.expression here) fun r here => ?_
  exact .andThen (steady.see _ here) fun c here => ih.clauseSources here

theorem subscripts_step : Keeps P (subscripts (fuel + 1)) := by
  intro c here
  rw [subscripts]
  refine .andThen (ih.slice here) fun c here => ?_
  refine .ite (.ok (steady.step here)) ?_
  refine .andThen (steady.pass _ here) fun c here => ?_
  refine .andThen (steady.see _ here) fun c here => ?_
  exact .ite (.ok (steady.step here)) (ih.subscripts here)

theorem slice_step : Keeps P (slice (fuel + 1)) := by
  intro c here
  rw [slice]
  refine .branch (.ok here) (ih.slicePart here) fun c here => ?_
  refine .ite (.ok here) ?_
  refine .andThen (steady.see _ (steady.step here)) fun c here => ?_
  refine .branch (ih.slicePart here) (.ok here) fun c here => ?_
  refine .ite (.ok here) ?_
  refine .andThen (steady.see _ (steady.step here)) fun c here => ?_
  exact .ite (ih.slicePart here) (.ok here)

theorem slicePart_step : Keeps P (slicePart (fuel + 1)) := by
  intro c here
  rw [slicePart]
  exact .andThen (ih.expression here) fun r here => steady.see _ here

theorem arguments_step {generator : Bool} : KeepsWith P (arguments generator (fuel + 1)) := by
  intro c here
  rw [arguments]
  split
  · exact .ok (steady.step here)
  split
  · refine .andThen (steady.see _ (steady.step here)) fun c here => ?_
    exact .andThen (steady.pass _ here) fun c here => .ok here
  · refine .andThen (ih.argument here) fun r here => ?_
    refine .andThen (steady.see _ here) fun e here => ?_
    refine .ite ?_ ?_
    · refine .andThen (ih.clauses here) fun e here => ?_
      exact .andThen (steady.pass _ here) fun e here => .ok here
    · exact .andThen (ih.moreArguments here) fun r here => .ok here

theorem moreArguments_step : KeepsWith P (moreArguments (fuel + 1)) := by
  intro c here
  rw [moreArguments]
  refine .ite (.ok (steady.step here)) ?_
  refine .andThen (steady.pass _ here) fun c here => ?_
  refine .andThen (steady.see _ here) fun c here => ?_
  refine .ite (.ok (steady.step here)) ?_
  refine .andThen (ih.argument here) fun r here => ?_
  refine .andThen (steady.see _ here) fun e here => ?_
  exact .andThen (ih.moreArguments here) fun r here => .ok here

theorem argument_step : KeepsWith P (argument (fuel + 1)) := by
  intro c here
  rw [argument]
  split
  · refine .andThen (steady.see _ (steady.skip here _)) fun c here => ?_
    exact .andThen (ih.expression here) fun r here => .ok here
  split
  · rename_i d seen
    refine .andThen (steady.see _ (named_keeps steady here seen)) fun d here => ?_
    exact .andThen (ih.expression here) fun r here => .ok here
  · exact ih.expression here

theorem yielded_step {t : Tail} : Keeps P (yielded t (fuel + 1)) := by
  intro c here
  rw [yielded]
  split
  · exact .ok here
  · rename_i d seen
    have there := steady.visible here seen
    refine .ite ?_ (.ite ?_ (.ok here))
    · refine .andThen (steady.see _ (steady.skip there 4)) fun d here => ?_
      exact .map (ih.expression here) fun _ here => here
    · exact .map (ih.expressions there) fun _ here => here

omit steady in
theorem expressions_step {t : Tail} : KeepsWith P (expressions t (fuel + 1)) := by
  intro c here
  rw [expressions]
  refine .andThen (ih.expression here) fun r here => ?_
  exact .andThen (ih.moreExpressions here) fun r here => .ok here

theorem moreExpressions_step {t : Tail} : KeepsWith P (moreExpressions t (fuel + 1)) := by
  intro c here
  rw [moreExpressions]
  split
  · exact .ok here
  · rename_i d seen
    have there := steady.step (steady.visible here seen)
    split
    · split
      · exact .ok there
      · rename_i e seen
        refine .ite ?_ (.ok there)
        refine .andThen (ih.expression (steady.visible there seen)) fun r here => ?_
        exact .andThen (ih.moreExpressions here) fun r here => .ok here
    · exact .ok here

theorem targetList_step : Keeps P (targetList (fuel + 1)) := by
  intro c here
  rw [targetList]
  refine .andThen (ih.operand here) fun r there => ?_
  refine .ite .error ?_
  refine .andThen (steady.see _ there) fun e here => ?_
  refine .ite ?_ (.ok there)
  refine .andThen (steady.see _ (steady.step here)) fun e here => ?_
  exact .ite (.ok here) (ih.targetList here)

theorem parameters_step {typed : Bool} : Keeps P (parameters typed (fuel + 1)) := by
  intro c here
  rw [parameters]
  refine .andThen (ih.parameter here) fun c there => ?_
  refine .andThen (steady.see _ there) fun d here => ?_
  refine .ite ?_ (.ok there)
  refine .andThen (steady.see _ (steady.step here)) fun d here => ?_
  exact .ite (.ok here) (ih.parameters here)

theorem parameter_step {typed : Bool} : Keeps P (parameter typed (fuel + 1)) := by
  intro c here
  rw [parameter]
  have starred : ∀ {c}, P c → Gives (do
      let r ← operand { closer := typed } fuel c
      if r.1.isSimpleTarget then annotated typed fuel r.2 else .error c) P := fun here =>
    .andThen (ih.operand here) fun r here => .ite (ih.annotated here) .error
  dsimp only
  split
  · exact .andThen (steady.see _ (steady.skip here 2)) fun c here => starred here
  split
  · split
    · exact .ok (steady.step here)
    · rename_i d seen
      exact .ite (starred (steady.visible (steady.step here) seen)) (.ok (steady.step here))
  split
  · exact .ok (steady.step here)
  split
  · exact .andThen (ih.atom here) fun r here => .ite .error (ih.defaultValue here)
  · refine .andThen (steady.passName here) fun r here => ?_
    exact .andThen (ih.annotated here) fun d here => ih.defaultValue here

theorem annotated_step {typed : Bool} : Keeps P (annotated typed (fuel + 1)) := by
  intro c here
  rw [annotated]
  split
  · exact .ok here
  split
  · exact .ok here
  · rename_i d seen
    refine .ite ?_ (.ok here)
    refine .andThen (steady.see _ (steady.step (steady.visible here seen))) fun d here => ?_
    exact ih.typeExpr here

theorem defaultValue_step {t : Tail} : Keeps P (defaultValue t (fuel + 1)) := by
  intro c here
  rw [defaultValue]
  split
  · exact .ok here
  · rename_i d seen
    refine .ite ?_ (.ok here)
    refine .andThen (steady.see _ (steady.step (steady.visible here seen))) fun d here => ?_
    exact .map (ih.expression here) fun _ here => here

theorem typeExpr_step {t : Tail} {constrained : Bool} :
    Keeps P (typeExpr t constrained (fuel + 1)) := by
  intro c here
  rw [typeExpr]
  have named : Gives (do
      if c.atMark "**" then
        let c ← (c.skip 2).see .nothing
        (·.2) <$> c.passName
      else
        let r ← c.passName
        typeList fuel (← r.2.see .nothing)) P := by
    refine .ite ?_ ?_
    · refine .andThen (steady.see _ (steady.skip here 2)) fun c here => ?_
      exact .map (steady.passName here) fun _ here => here
    · refine .andThen (steady.passName here) fun r here => ?_
      exact .andThen (steady.see _ here) fun c here => ih.typeList here
  refine .andThen (firstOf_keeps (.map (ih.expression here) fun _ here => here) named)
    fun c here => ?_
  split
  · exact .ok here
  · rename_i d seen
    refine .ite ?_ (.ok here)
    refine .andThen (steady.see _ (steady.step (steady.visible here seen))) fun d here => ?_
    exact ih.typeExpr here

theorem typeList_step : Keeps P (typeList (fuel + 1)) := by
  intro c here
  rw [typeList]
  refine .andThen (steady.pass _ here) fun c here => ?_
  exact .andThen (steady.see _ here) fun c here => ih.types here

theorem types_step : Keeps P (types (fuel + 1)) := by
  intro c here
  rw [types]
  refine .andThen (ih.typeExpr here) fun c here => ?_
  refine .andThen (steady.see _ here) fun c here => ?_
  refine .ite (.ok (steady.step here)) ?_
  refine .andThen (steady.pass _ here) fun c here => ?_
  refine .andThen (steady.see _ here) fun c here => ?_
  exact .ite (.ok (steady.step here)) (ih.types here)

end

theorem reads_zero : Reads P 0 := by
  constructor <;> intros <;> exact fun _ => .error

include steady in
theorem reads (fuel : Nat) : Reads P fuel := by
  induction fuel with
  | zero => exact reads_zero
  | succ fuel ih =>
    exact {
      expression := expression_step steady ih
      continuation := continuation_step steady ih
      chain := chain_step steady ih
      operand := operand_step steady ih
      atom := atom_step steady ih
      attachments := attachments_step steady ih
      quoted := quoted_step steady ih
      moreQuoted := moreQuoted_step steady ih
      field := field_step steady ih
      format := format_step steady ih
      element := element_step steady ih
      bracketed := bracketed_step steady ih
      elements := elements_step steady ih
      braced := braced_step steady ih
      entry := entry_step steady ih
      entries := entries_step steady ih
      clauses := clauses_step steady ih
      clauseSources := clauseSources_step steady ih
      subscripts := subscripts_step steady ih
      slice := slice_step steady ih
      slicePart := slicePart_step steady ih
      arguments := arguments_step steady ih
      moreArguments := moreArguments_step steady ih
      argument := argument_step steady ih
      yielded := yielded_step steady ih
      expressions := expressions_step ih
      moreExpressions := moreExpressions_step steady ih
      targetList := targetList_step steady ih
      parameters := parameters_step steady ih
      parameter := parameter_step steady ih
      annotated := annotated_step steady ih
      defaultValue := defaultValue_step steady ih
      typeExpr := typeExpr_step steady ih
      typeList := typeList_step steady ih
      types := types_step steady ih }

/-! ### Patterns -/

/-- What is read of patterns with this much fuel keeps a property. -/
structure ReadsPatterns (P : Cursor → Prop) (fuel : Nat) : Prop where
  casePattern : ∀ {t}, Keeps P (casePattern t fuel)
  caseBindings : ∀ {t}, Keeps P (caseBindings t fuel)
  caseChoice : ∀ {t}, Keeps P (caseChoice t fuel)
  caseAtom : ∀ {t}, Keeps P (caseAtom t fuel)
  casePatterns : ∀ {close}, Keeps P (casePatterns close fuel)
  caseEntries : Keeps P (caseEntries fuel)

section
variable {fuel : Nat} (ih : ReadsPatterns P fuel)
include steady ih

theorem casePattern_step {t : Tail} : Keeps P (casePattern t (fuel + 1)) := by
  intro c here
  rw [casePattern]
  split
  · rename_i d seen
    refine .andThen (steady.see _ (named_keeps steady here seen)) fun d here => ?_
    exact .andThen (ih.caseChoice here) fun c here => ih.caseBindings here
  · exact .andThen (ih.caseChoice here) fun c here => ih.caseBindings here

theorem caseBindings_step {t : Tail} : Keeps P (caseBindings t (fuel + 1)) := by
  intro c here
  rw [caseBindings]
  split
  · exact .ok here
  · rename_i d seen
    refine .ite ?_ (.ok here)
    refine .andThen (steady.see _ (steady.skip (steady.visible here seen) 2)) fun d here => ?_
    exact .andThen (steady.passName here) fun r here => ih.caseBindings here

theorem caseChoice_step {t : Tail} : Keeps P (caseChoice t (fuel + 1)) := by
  intro c here
  rw [caseChoice]
  refine .andThen (ih.caseAtom here) fun c here => ?_
  split
  · exact .ok here
  · rename_i d seen
    refine .ite ?_ (.ok here)
    refine .andThen (steady.see _ (steady.step (steady.visible here seen))) fun d here => ?_
    exact ih.caseChoice here

theorem caseAtom_step {t : Tail} : Keeps P (caseAtom t (fuel + 1)) := by
  intro c here
  rw [caseAtom]
  split
  · exact .map ((reads steady fuel).atom here) fun _ here => here
  split
  · exact caseNumber_keeps steady t here
  split
  · refine .andThen (steady.see _ (steady.skip here _)) fun c here => ?_
    exact .map (steady.passName here) fun _ here => here
  split
  · exact .andThen (steady.see _ (steady.step here)) fun c here => ih.casePatterns here
  split
  · exact .andThen (steady.see _ (steady.step here)) fun c here => ih.casePatterns here
  split
  · exact .andThen (steady.see _ (steady.step here)) fun c here => ih.caseEntries here
  refine .ite (.ok (steady.skip here 4)) (.ite (.ok (steady.skip here 5)) ?_)
  refine .andThen (dottedName_keeps steady t fuel here) fun c here => ?_
  split
  · exact .ok here
  · rename_i d seen
    refine .ite ?_ (.ok here)
    refine .andThen (steady.see _ (steady.step (steady.visible here seen))) fun d here => ?_
    exact ih.casePatterns here

theorem casePatterns_step {close : String} : Keeps P (casePatterns close (fuel + 1)) := by
  intro c here
  rw [casePatterns]
  refine .ite (.ok (steady.step here)) ?_
  refine .andThen (ih.casePattern here) fun c here => ?_
  refine .andThen (steady.see _ here) fun c here => ?_
  refine .ite (.ok (steady.step here)) ?_
  refine .andThen (steady.pass _ here) fun c here => ?_
  exact .andThen (steady.see _ here) fun c here => ih.casePatterns here

theorem caseEntries_step : Keeps P (caseEntries (fuel + 1)) := by
  intro c here
  rw [caseEntries]
  refine .ite (.ok (steady.step here)) ?_
  have more : ∀ c, P c → Gives (do
      let c ← c.see .element
      if c.atMark "\x7d" then return c.step
      let c ← c.pass ","
      let c ← c.see .element
      caseEntries fuel c) P := by
    intro c here
    refine .andThen (steady.see _ here) fun c here => ?_
    refine .ite (.ok (steady.step here)) ?_
    refine .andThen (steady.pass _ here) fun c here => ?_
    exact .andThen (steady.see _ here) fun c here => ih.caseEntries here
  refine .ite (.andThen (ih.caseAtom here) more) ?_
  refine .andThen (ih.caseChoice here) fun c here => ?_
  refine .andThen (steady.see _ here) fun c here => ?_
  refine .andThen (steady.pass _ here) fun c here => ?_
  refine .andThen (steady.see _ here) fun c here => ?_
  exact .andThen (ih.casePattern here) more

end

theorem readsPatterns_zero : ReadsPatterns P 0 := by
  constructor <;> intros <;> exact fun _ => .error

include steady in
theorem readsPatterns (fuel : Nat) : ReadsPatterns P fuel := by
  induction fuel with
  | zero => exact readsPatterns_zero
  | succ fuel ih =>
    exact {
      casePattern := casePattern_step steady ih
      caseBindings := caseBindings_step steady ih
      caseChoice := caseChoice_step steady ih
      caseAtom := caseAtom_step steady ih
      casePatterns := casePatterns_step steady ih
      caseEntries := caseEntries_step steady ih }

end Bindery.Body.Reader

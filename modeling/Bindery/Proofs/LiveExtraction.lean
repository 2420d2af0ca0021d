import Bindery.Proofs.Faults
import Mathlib.Data.List.Basic

/- An extraction at work. It works on a registry, a declaration and a list of diagnostics, and all three
   change under its hands: it goes over the annotations once, keeping positions, items and guards;
   then it registers the items one by one; and at last it takes the annotations at the kept positions
   away. A fault stops it on the way, and leaves what has been done by then. The extraction of a
   registry is what this work comes to, since a fault can only arise where nothing has been done but to
   add diagnostics. -/
namespace Bindery

/-- What an extraction works on. -/
structure Live where
  registry : Registry
  declaration : Declaration
  diagnostics : List Diagnostic

/-- Work that may stop at a fault. -/
abbrev Work := ExceptT Registry.Fault (StateM Live)

namespace Work

variable {α β : Type}

/-- How some work ends, and what it leaves. -/
def perform (work : Work α) (l : Live) : Except Registry.Fault α × Live :=
  StateT.run (ExceptT.run work) l

/-- What is kept from the annotations. -/
structure Kept where
  positions : List Nat := []
  items : List (Item × Span) := []
  guards : List Guard := []

def report (ds : List Diagnostic) : Work Unit :=
  modify fun l => { l with diagnostics := l.diagnostics ++ ds }

/-- Looks at the annotation of a position. -/
def look (kind : Declaration.Kind) (ident : String) (kept : Kept) (position : Nat)
    (a : Annotation) : Work Kept := do
  let some d := a.directive | return kept
  if a.name = some Annotation.guardName then
    match Guard.make a.source "" a.span with
    | .ok g => return { kept with guards := kept.guards ++ [g] }
    | .error f => throw (.source f)
  else
    let some b := a.name.bind Binding.ofName? | return kept
    let kept := { kept with positions := kept.positions ++ [position] }
    if kind ≠ b.expects then throw (.kindMismatch ⟨b, kind, ident⟩)
    match b.classify ident d a.span with
    | .ok item => return { kept with items := kept.items ++ [(item, a.span)] }
    | .error batch =>
      report batch.toList
      return kept

def lookAlong (kind : Declaration.Kind) (ident : String) (kept : Kept) (position : Nat) :
    List Annotation → Work Kept
  | [] => return kept
  | a :: as => do
    let kept ← look kind ident kept position a
    lookAlong kind ident kept (position + 1) as

def register (guards : List Guard) (item : Item) (span : Span) : Work Unit := do
  match (← get).registry.add item guards span with
  | .ok r => modify fun l => { l with registry := r }
  | .error batch => report batch.toList

def registerAll (guards : List Guard) : List (Item × Span) → Work Unit
  | [] => return
  | (item, span) :: rest => do
    register guards item span
    registerAll guards rest

/-- Takes the annotations at some positions away, and returns them. -/
def consume (positions : List Nat) : Work (List Annotation) := do
  let as := (← get).declaration.annotations
  modify fun l => { l with declaration := { l.declaration with
    annotations := (as.zipIdx.filter fun p => !positions.contains p.2).map Prod.fst } }
  return positions.filterMap fun position => as[position]?

/-- The whole extraction. -/
def extract : Work (List Annotation) := do
  let d := (← get).declaration
  let kept ← lookAlong d.kind d.ident {} 0 d.annotations
  registerAll kept.guards kept.items
  consume kept.positions

/-! ### Steps -/

theorem perform_bind (work : Work α) (next : α → Work β) (l : Live) :
    (work >>= next).perform l =
      match work.perform l with
      | (.ok a, l) => (next a).perform l
      | (.error f, l) => (.error f, l) := by
  simp only [perform, ExceptT.run_bind, StateT.run_bind]
  rcases StateT.run (ExceptT.run work) l with ⟨_ | _, _⟩ <;> rfl

@[simp] theorem perform_pure (a : α) (l : Live) : (pure a : Work α).perform l = (.ok a, l) := rfl

@[simp] theorem perform_throw (f : Registry.Fault) (l : Live) :
    (throw f : Work α).perform l = (.error f, l) := rfl

@[simp] theorem perform_get (l : Live) : (get : Work Live).perform l = (.ok l, l) := rfl

@[simp] theorem perform_modify (f : Live → Live) (l : Live) :
    (modify f : Work Unit).perform l = (.ok (), f l) := rfl

theorem look_perform (kind : Declaration.Kind) (ident : String) (kept : Kept) (position : Nat)
    (a : Annotation) (l : Live) :
    (look kind ident kept position a).perform l =
      match Registry.classifyOne kind ident ⟨kept.items, kept.guards, l.diagnostics⟩ a with
      | .ok found =>
        (.ok ⟨kept.positions ++ if a.isBinding then [position] else [], found.items, found.guards⟩,
          { l with diagnostics := found.diagnostics })
      | .error stop => (.error stop.fault, { l with diagnostics := stop.diagnostics }) := by
  unfold look Registry.classifyOne
  cases directive : a.directive with
  | none => simp [ Annotation.isBinding, Annotation.binding?, directive]
  | some d =>
    by_cases guard : a.name = some Annotation.guardName
    · have noBinding : a.isBinding = false := by
        simp [ Annotation.isBinding, Annotation.binding?, guard, Annotation.guard_is_no_binding]
      simp only [guard, ↓reduceIte, noBinding]
      cases Guard.make a.source "" a.span <;> simp
    · cases binding : a.name.bind Binding.ofName? with
      | none =>
        have noBinding : a.isBinding = false := by
          simp [ Annotation.isBinding, Annotation.binding?, binding]
        simp [guard, noBinding]
      | some b =>
        have binds : a.isBinding = true := by
          simp [ Annotation.isBinding, Annotation.binding?, directive, binding]
        by_cases agrees : kind = b.expects
        · simp only [guard, agrees, binds]
          cases b.classify ident d a.span with
          | ok item => simp
          | error batch => simp [perform_bind, report, -bind_pure_comp]
        · simp [guard, agrees]

/-- Diagnostics that are there already make no difference. -/
theorem classifyOne_behind (kind : Declaration.Kind) (ident : String) (ds : List Diagnostic)
    (found : Registry.Findings) (a : Annotation) :
    Registry.classifyOne kind ident { found with diagnostics := ds ++ found.diagnostics } a =
      match Registry.classifyOne kind ident found a with
      | .ok found => .ok { found with diagnostics := ds ++ found.diagnostics }
      | .error stop => .error { stop with diagnostics := ds ++ stop.diagnostics } := by
  unfold Registry.classifyOne
  cases a.directive with
  | none => rfl
  | some d =>
    by_cases guard : a.name = some Annotation.guardName
    · simp only [guard, ↓reduceIte]
      cases Guard.make a.source "" a.span <;> rfl
    · simp only [guard, ↓reduceIte]
      cases a.name.bind Binding.ofName? with
      | none => rfl
      | some b =>
        by_cases agrees : kind = b.expects
        · simp only [agrees]
          cases b.classify ident d a.span <;> simp
        · simp [agrees]

theorem classifyAll_behind (kind : Declaration.Kind) (ident : String) (ds : List Diagnostic)
    (found : Registry.Findings) (as : List Annotation) :
    Registry.classifyAll kind ident { found with diagnostics := ds ++ found.diagnostics } as =
      match Registry.classifyAll kind ident found as with
      | .ok found => .ok { found with diagnostics := ds ++ found.diagnostics }
      | .error stop => .error { stop with diagnostics := ds ++ stop.diagnostics } := by
  induction as generalizing found with
  | nil => rfl
  | cons a as ih =>
    simp only [Registry.classifyAll, classifyOne_behind]
    cases Registry.classifyOne kind ident found a with
    | error stop => rfl
    | ok found => exact ih found

/-- The positions of the annotations that bind, counted from the given one on. -/
def bindingPositions (as : List Annotation) (start : Nat) : List Nat :=
  ((as.zipIdx start).filter fun p => p.1.isBinding).map Prod.snd

theorem lookAlong_perform (kind : Declaration.Kind) (ident : String) (kept : Kept) (position : Nat)
    (as : List Annotation) (l : Live) :
    (lookAlong kind ident kept position as).perform l =
      match Registry.classifyAll kind ident ⟨kept.items, kept.guards, l.diagnostics⟩ as with
      | .ok found =>
        (.ok ⟨kept.positions ++ bindingPositions as position, found.items, found.guards⟩,
          { l with diagnostics := found.diagnostics })
      | .error stop => (.error stop.fault, { l with diagnostics := stop.diagnostics }) := by
  induction as generalizing kept position l with
  | nil => simp [lookAlong, Registry.classifyAll, bindingPositions]
  | cons a as ih =>
    simp only [lookAlong, Registry.classifyAll, perform_bind, look_perform]
    cases Registry.classifyOne kind ident ⟨kept.items, kept.guards, l.diagnostics⟩ a with
    | error stop => rfl
    | ok found =>
      simp only [ih, bind, Except.bind]
      cases Registry.classifyAll kind ident found as with
      | error stop => rfl
      | ok found =>
        cases binds : a.isBinding <;> simp [bindingPositions, binds]

theorem registerAll_perform (guards : List Guard) (items : List (Item × Span)) (l : Live) :
    (registerAll guards items).perform l =
      (.ok (), { l with
        registry := (l.registry.addAll guards items).1
        diagnostics := l.diagnostics ++ (l.registry.addAll guards items).2 }) := by
  induction items generalizing l with
  | nil => simp [registerAll, Registry.addAll]
  | cons first rest ih =>
    obtain ⟨item, span⟩ := first
    simp only [registerAll, register, perform_bind, perform_get, Registry.addAll]
    cases l.registry.add item guards span with
    | ok r => simp [ih]
    | error batch => simp [report, ih]

/-! ### Positions -/

/-- Members told by what stands at their positions are the members themselves. -/
theorem filter_zipIdx (as : List Annotation) (q : Annotation → Bool) :
    (as.zipIdx.filter fun p => q p.1).map Prod.fst = as.filter q := by
  conv_rhs => rw [← List.zipIdx_map_fst 0 as, List.filter_map]
  rfl

theorem at_bindingPositions (as : List Annotation) :
    (bindingPositions as 0).filterMap (fun position => as[position]?) =
      as.filter (·.isBinding) := by
  have own : ∀ p ∈ as.zipIdx.filter (fun p => p.1.isBinding), as[p.2]? = some p.1 :=
    fun p member => List.mk_mem_zipIdx_iff_getElem?.mp (List.mem_filter.mp member).1
  rw [bindingPositions, List.filterMap_map, ← filter_zipIdx as (·.isBinding), ← List.filterMap_eq_map]
  exact List.filterMap_congr own

/-- A position is kept exactly if a binding stands there. -/
theorem mem_bindingPositions {as : List Annotation} {a : Annotation} {position : Nat}
    (here : as[position]? = some a) : position ∈ bindingPositions as 0 ↔ a.isBinding = true := by
  simp only [bindingPositions, List.mem_map, List.mem_filter, Prod.exists, exists_eq_right,
    List.mk_mem_zipIdx_iff_getElem?, here, Option.some.injEq]
  constructor
  · rintro ⟨b, rfl, binds⟩
    exact binds
  · intro binds
    exact ⟨a, rfl, binds⟩

theorem beside_bindingPositions (as : List Annotation) :
    (as.zipIdx.filter fun p => !(bindingPositions as 0).contains p.2).map Prod.fst =
      as.filter (!·.isBinding) := by
  rw [← filter_zipIdx as (!·.isBinding)]
  congr 1
  refine List.filter_congr fun p member => ?_
  have here := mem_bindingPositions (List.mk_mem_zipIdx_iff_getElem?.mp member)
  rw [Bool.eq_iff_iff, Bool.not_eq_true', Bool.not_eq_true', ← Bool.not_eq_true, ← Bool.not_eq_true,
    List.contains_iff_mem, here]

theorem consume_perform (r : Registry) (d : Declaration) (ds : List Diagnostic) :
    (consume (bindingPositions d.annotations 0)).perform ⟨r, d, ds⟩ =
      (.ok (d.annotations.filter (·.isBinding)), ⟨r, d.stripped, ds⟩) := by
  simp only [consume, perform_bind, perform_get, perform_modify, perform_pure, at_bindingPositions,
    beside_bindingPositions, Declaration.stripped]

/-- The work comes to the extraction of the registry. -/
theorem extract_perform (l : Live) :
    extract.perform l =
      match l.registry.extract l.declaration with
      | .ok x => (.ok x.removed, ⟨x.registry, x.declaration, l.diagnostics ++ x.diagnostics⟩)
      | .error stop => (.error stop.fault, { l with diagnostics := l.diagnostics ++ stop.diagnostics }) := by
  have looked := classifyAll_behind l.declaration.kind l.declaration.ident l.diagnostics {}
    l.declaration.annotations
  simp only [List.append_nil] at looked
  unfold extract Registry.extract
  simp only [perform_bind, perform_get, lookAlong_perform, looked]
  cases Registry.classifyAll l.declaration.kind l.declaration.ident {} l.declaration.annotations with
  | error stop => rfl
  | ok found =>
    simp only [registerAll_perform, List.nil_append]
    rw [consume_perform, List.append_assoc]
    rfl

end Work
end Bindery

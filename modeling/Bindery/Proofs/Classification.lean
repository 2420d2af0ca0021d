import Bindery.Proofs.Offers

/- What the annotations of a declaration come to, each on its own. The classification of a whole
   declaration is these verdicts put together: it goes through exactly when every binding stands on
   the kind of declaration that it expects and every guard has a key. -/
namespace Bindery

namespace Annotation

/-- The guard that an annotation is; without a structure it has no key. -/
def guard (a : Annotation) : Guard :=
  { source := a.source
    key := (Guard.structuralKey a.source).toOption.getD ""
    span := a.span }

/-- What a binding annotation makes of a declaration with an identifier. -/
def verdict? (ident : String) (a : Annotation) : Option (Except Diagnostic.Batch Item) :=
  match a.directive, a.name.bind Binding.ofName? with
  | some d, some b => some (b.classify ident d a.span)
  | _, _ => none

/-- The item of a binding annotation without problems, to be registered at its place. -/
def offer? (ident : String) (a : Annotation) : Option (Item × Span) :=
  match a.verdict? ident with
  | some (.ok item) => some (item, a.span)
  | _ => none

/-- The problems of a binding annotation. -/
def problems (ident : String) (a : Annotation) : List Diagnostic :=
  match a.verdict? ident with
  | some (.error batch) => batch.toList
  | _ => []

/-- Nothing about the annotation stops the classification of a declaration. -/
structure Fits (kind : Declaration.Kind) (a : Annotation) : Prop where
  key : a.isGuard = true → ∃ key, Guard.structuralKey a.source = .ok key
  kind : ∀ b, a.binding? = some b → kind = b.expects

theorem guard_is_no_binding : Binding.ofName? guardName = none := by decide

theorem isGuard_not_binding {a : Annotation} (guard : a.isGuard = true) : a.binding? = none := by
  have name : a.name = some guardName := by simp_all [isGuard]
  simp [binding?, name, guard_is_no_binding]

theorem verdict?_isSome (ident : String) (a : Annotation) :
    (a.verdict? ident).isSome = a.isBinding := by
  unfold verdict? isBinding binding?
  cases a.directive <;> cases a.name.bind Binding.ofName? <;> rfl

/-- A binding annotation either is offered or has problems. -/
theorem offer?_or_problems {ident : String} {a : Annotation} (binds : a.isBinding = true) :
    (a.offer? ident).isSome = true ∨ a.problems ident ≠ [] := by
  rw [← verdict?_isSome ident] at binds
  obtain ⟨verdict, found⟩ := Option.isSome_iff_exists.mp binds
  cases verdict with
  | ok item => simp [offer?, found]
  | error batch => simp [problems, found, Diagnostic.Batch.toList]

theorem make_guard (a : Annotation) (key : String)
    (structural : Guard.structuralKey a.source = .ok key) :
    Guard.make a.source "" a.span = .ok a.guard := by
  simp [Guard.make, guard, structural, bind, Except.bind, pure, Except.pure, Except.toOption]

end Annotation

namespace Registry

/-- What has been found once one more annotation is classified. -/
def Findings.push (found : Findings) (ident : String) (a : Annotation) : Findings :=
  { items := found.items ++ (a.offer? ident).toList
    guards := found.guards ++ if a.isGuard then [a.guard] else []
    diagnostics := found.diagnostics ++ a.problems ident }

theorem classifyOne_fits {kind : Declaration.Kind} {a : Annotation} (fits : a.Fits kind)
    (ident : String) (found : Findings) :
    classifyOne kind ident found a = .ok (found.push ident a) := by
  unfold classifyOne
  cases directive : a.directive with
  | none =>
    simp [Findings.push, Annotation.offer?, Annotation.problems, Annotation.verdict?,
      Annotation.isGuard, directive]
  | some d =>
    by_cases guard : a.name = some Annotation.guardName
    · have isGuard : a.isGuard = true := by simp [ Annotation.isGuard, directive, guard]
      obtain ⟨key, structural⟩ := fits.key isGuard
      simp [guard, Annotation.make_guard a key structural, Findings.push, isGuard,
        Annotation.offer?, Annotation.problems, Annotation.verdict?, Annotation.guard_is_no_binding]
    · have noGuard : a.isGuard = false := by simp [ Annotation.isGuard, guard]
      simp only [guard, ↓reduceIte]
      cases binding : a.name.bind Binding.ofName? with
      | none =>
        simp [Findings.push, Annotation.offer?, Annotation.problems, Annotation.verdict?, noGuard,
          binding]
      | some b =>
        have agrees : kind = b.expects :=
          fits.kind b (by simp [ Annotation.binding?, directive, binding])
        cases verdict : b.classify ident d a.span <;>
          simp [agrees, verdict, Findings.push, Annotation.offer?, Annotation.problems,
            Annotation.verdict?, noGuard, binding, directive]

theorem classifyOne_stops {kind : Declaration.Kind} {a : Annotation} (misfit : ¬ a.Fits kind)
    (ident : String) (found : Findings) :
    ∃ fault, classifyOne kind ident found a = .error ⟨fault, found.diagnostics⟩ := by
  unfold classifyOne
  cases directive : a.directive with
  | none =>
    exact absurd ⟨by simp [ Annotation.isGuard, directive],
      by simp [ Annotation.binding?, directive]⟩ misfit
  | some d =>
    by_cases guard : a.name = some Annotation.guardName
    · have noBinding : a.binding? = none :=
        Annotation.isGuard_not_binding (by simp [ Annotation.isGuard, directive, guard])
      cases structural : Guard.structuralKey a.source with
      | ok key => exact absurd ⟨fun _ => ⟨key, structural⟩, by simp [noBinding]⟩ misfit
      | error fault =>
        simp [guard, Guard.make, structural, bind, Except.bind]
    · have noGuard : a.isGuard = false := by simp [ Annotation.isGuard, guard]
      simp only [guard, ↓reduceIte]
      cases binding : a.name.bind Binding.ofName? with
      | none =>
        exact absurd ⟨by simp [noGuard], by simp [ Annotation.binding?, binding]⟩ misfit
      | some b =>
        by_cases agrees : kind = b.expects
        · exact absurd ⟨by simp [noGuard],
            by simp [ Annotation.binding?, directive, binding, agrees]⟩ misfit
        · simp [agrees]

theorem classifyAll_fits {kind : Declaration.Kind} (ident : String) {as : List Annotation}
    (fits : ∀ a ∈ as, a.Fits kind) (found : Findings) :
    classifyAll kind ident found as = .ok {
      items := found.items ++ as.filterMap (·.offer? ident)
      guards := found.guards ++ (as.filter (·.isGuard)).map (·.guard)
      diagnostics := found.diagnostics ++ as.flatMap (·.problems ident) } := by
  induction as generalizing found with
  | nil => simp [classifyAll]
  | cons a as ih =>
    have here := fits a (by simp)
    simp only [classifyAll, classifyOne_fits here, bind, Except.bind]
    rw [ih (fun b member => fits b (List.mem_cons_of_mem a member))]
    cases offer : a.offer? ident <;> cases guard : a.isGuard <;>
      simp [Findings.push, offer, guard]

theorem classifyAll_stops {kind : Declaration.Kind} (ident : String) {as : List Annotation}
    (misfit : ¬ ∀ a ∈ as, a.Fits kind) (found : Findings) :
    ∃ stop, classifyAll kind ident found as = .error stop := by
  induction as generalizing found with
  | nil => simp at misfit
  | cons a as ih =>
    by_cases here : a.Fits kind
    · have later : ¬ ∀ b ∈ as, b.Fits kind := fun all =>
        misfit (List.forall_mem_cons.mpr ⟨here, all⟩)
      simp only [classifyAll, classifyOne_fits here, bind, Except.bind]
      exact ih later _
    · obtain ⟨fault, stopped⟩ := classifyOne_stops here ident found
      exact ⟨⟨fault, found.diagnostics⟩, by simp only [classifyAll, stopped, bind, Except.bind]⟩

end Registry

/-! ### Whole declarations -/

namespace Declaration

/-- The guards of a declaration, wherever they stand among its annotations. -/
def guards (d : Declaration) : List Guard := (d.annotations.filter (·.isGuard)).map (·.guard)

/-- What a declaration offers: the items of its annotations, all under all of its guards. -/
def offers (d : Declaration) : List (Entry × Span) :=
  (d.annotations.filterMap (·.offer? d.ident)).map fun o => (⟨o.1, d.guards⟩, o.2)

def problems (d : Declaration) : List Diagnostic := d.annotations.flatMap (·.problems d.ident)

def Fits (d : Declaration) : Prop := ∀ a ∈ d.annotations, a.Fits d.kind

/-- A declaration once its binding annotations are consumed. -/
def stripped (d : Declaration) : Declaration :=
  { d with annotations := d.annotations.filter (!·.isBinding) }

end Declaration

namespace Registry

theorem extract_fits (es : List Entry) {d : Declaration} (fits : d.Fits) :
    (ofOffers es).extract d = .ok {
      registry := ofOffers (es ++ d.offers.map Prod.fst)
      declaration := d.stripped
      removed := d.annotations.filter (·.isBinding)
      diagnostics := d.problems ++ refusals es d.offers } := by
  rw [extract_ofOffers, classifyAll_fits d.ident fits]
  simp [Except.map, Declaration.offers, Declaration.guards, Declaration.stripped,
    Declaration.problems, Function.comp_def]

theorem extract_stops (es : List Entry) {d : Declaration} (misfit : ¬ d.Fits) :
    ∃ stop, (ofOffers es).extract d = .error stop := by
  obtain ⟨stop, stopped⟩ := classifyAll_stops d.ident misfit {}
  exact ⟨stop, by rw [extract_ofOffers, stopped]; rfl⟩

end Registry
end Bindery

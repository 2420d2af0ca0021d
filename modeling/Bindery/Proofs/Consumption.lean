import Bindery.Proofs.LiveExtraction
import Mathlib.Data.List.Perm.Basic

/- What an extraction takes from a declaration, and what it leaves. One that returns parts the
   annotations in two: those that bind are taken, whatever became of them, and the others stay; what
   stays has nothing to take any more. One that a fault stops has taken nothing and registered
   nothing, and it is stopped exactly by a binding on a declaration of the wrong kind. -/
namespace Bindery

theorem Annotation.isBinding_iff (a : Annotation) :
    a.isBinding = true ↔
      a.directive.isSome = true ∧ ∃ name ∈ Binding.names, a.name = some name := by
  have known : ∀ name, (Binding.ofName? name).isSome = true ↔ name ∈ Binding.names := by
    simp [Binding.ofName?, Binding.names]
  unfold isBinding binding?
  cases a.directive with
  | none => simp
  | some d =>
    cases name : a.name with
    | none => simp
    | some name => simp [known]

theorem Binding.expects_ne_enum (b : Binding) : b.expects ≠ .enum := by
  cases b <;> decide

namespace Registry

/-! ### Declarations without bindings -/

/-- A declaration without bindings leaves everything as it is. -/
theorem extract_unbound {d : Declaration} (fits : d.Fits)
    (unbound : ∀ a ∈ d.annotations, a.isBinding = false) (r : Registry) :
    r.extract d = .ok { registry := r, declaration := d, removed := [], diagnostics := [] } := by
  have noVerdict : ∀ a ∈ d.annotations, a.verdict? d.ident = none := by
    intro a member
    have none_ := Annotation.verdict?_isSome d.ident a
    rw [unbound a member] at none_
    simpa using none_
  have noOffers : d.annotations.filterMap (·.offer? d.ident) = [] :=
    List.filterMap_eq_nil_iff.mpr fun a member => by simp [ Annotation.offer?, noVerdict a member]
  have noProblems : d.annotations.flatMap (·.problems d.ident) = [] :=
    List.flatMap_eq_nil_iff.mpr fun a member => by simp [ Annotation.problems, noVerdict a member]
  have nothing : d.annotations.filter (·.isBinding) = [] :=
    List.filter_eq_nil_iff.mpr fun a member => by simp [unbound a member]
  have all : d.annotations.filter (!·.isBinding) = d.annotations :=
    List.filter_eq_self.mpr fun a member => by simp [unbound a member]
  rw [extract, classifyAll_fits d.ident fits, noOffers, noProblems, nothing, all]
  rfl

theorem stripped_unbound (d : Declaration) : ∀ a ∈ d.stripped.annotations, a.isBinding = false := by
  intro a member
  simpa using (List.mem_filter.mp member).2

theorem stripped_fits {d : Declaration} (fits : d.Fits) : d.stripped.Fits :=
  fun a member => fits a (List.mem_filter.mp member).1

theorem fits_of_extract {r : Registry} {d : Declaration} {x : Extraction}
    (extracted : r.extract d = .ok x) : d.Fits := by
  by_contra misfit
  obtain ⟨stop, stopped⟩ := classifyAll_stops d.ident misfit {}
  rw [extract, stopped] at extracted
  contradiction

theorem extract_of_fits {d : Declaration} (fits : d.Fits) (r : Registry) :
    ∃ x, r.extract d = .ok x := by
  rw [extract, classifyAll_fits d.ident fits]
  exact ⟨_, rfl⟩

theorem parts_of_extract {r : Registry} {d : Declaration} {x : Extraction}
    (extracted : r.extract d = .ok x) :
    x.removed = d.annotations.filter (·.isBinding) ∧ x.declaration = d.stripped := by
  obtain ⟨found, -, same⟩ := bind_eq_ok_iff.mp extracted
  cases same
  exact ⟨rfl, rfl⟩

/-! ### Where a fault arises -/

theorem classifyAll_append (kind : Declaration.Kind) (ident : String) (found : Findings)
    (as bs : List Annotation) :
    classifyAll kind ident found (as ++ bs) =
      classifyAll kind ident found as >>= fun found => classifyAll kind ident found bs := by
  induction as generalizing found with
  | nil => rfl
  | cons a as ih =>
    simp only [List.cons_append, classifyAll]
    cases classifyOne kind ident found a with
    | error stop => rfl
    | ok found => exact ih found

theorem classifyOne_misplaced {kind : Declaration.Kind} {a : Annotation} {b : Binding}
    (binds : a.binding? = some b) (misplaced : b.expects ≠ kind) (ident : String) (found : Findings) :
    classifyOne kind ident found a = .error ⟨.kindMismatch ⟨b, kind, ident⟩, found.diagnostics⟩ := by
  unfold Annotation.binding? at binds
  cases directive : a.directive with
  | none => simp [directive] at binds
  | some d =>
    simp only [directive, Option.isSome_some, ↓reduceIte] at binds
    have noGuard : a.name ≠ some Annotation.guardName := by
      intro guard
      simp [guard, Annotation.guard_is_no_binding] at binds
    simp [classifyOne, directive, noGuard, binds, misplaced.symm]

/-- The first misplaced binding stops it, after the problems of all that stand before it. -/
theorem extract_misplaced {d : Declaration} {before after : List Annotation} {a : Annotation}
    {b : Binding} (annotations : d.annotations = before ++ a :: after)
    (fits : ∀ a ∈ before, a.Fits d.kind) (binds : a.binding? = some b)
    (misplaced : b.expects ≠ d.kind) (r : Registry) :
    r.extract d = .error ⟨.kindMismatch ⟨b, d.kind, d.ident⟩,
      before.flatMap (·.problems d.ident)⟩ := by
  have stopped : classifyAll d.kind d.ident {} d.annotations =
      .error ⟨.kindMismatch ⟨b, d.kind, d.ident⟩, before.flatMap (·.problems d.ident)⟩ := by
    rw [annotations, classifyAll_append, classifyAll_fits d.ident fits]
    simp [classifyAll, classifyOne_misplaced binds misplaced, bind, Except.bind]
  rw [extract, stopped]
  rfl

end Registry

namespace Declaration

/-- Of the misplaced bindings there is a first one. -/
theorem first_misplaced {d : Declaration} (disagrees : ¬ d.KindsAgree) :
    ∃ before a after b, d.annotations = before ++ a :: after ∧
      (∀ x ∈ before, ∀ b, x.binding? = some b → b.expects = d.kind) ∧
      a.binding? = some b ∧ b.expects ≠ d.kind := by
  let misplaced (a : Annotation) : Bool := a.binding?.any fun b => b.expects ≠ d.kind
  have placed : ∀ a, misplaced a = false ↔ ∀ b, a.binding? = some b → b.expects = d.kind := by
    intro a
    cases binds : a.binding? <;> simp [misplaced, binds]
  have some_ : (d.annotations.find? misplaced).isSome = true := by
    rw [List.find?_isSome]
    by_contra none_
    refine disagrees fun a member b binds => ((placed a).mp ?_ b binds).symm
    exact Bool.eq_false_iff.mpr fun here => none_ ⟨a, member, here⟩
  obtain ⟨a, found⟩ := Option.isSome_iff_exists.mp some_
  obtain ⟨here, before, after, annotations, earlier⟩ := List.find?_eq_some_iff_append.mp found
  cases binds : a.binding? with
  | none => simp [misplaced, binds] at here
  | some b =>
    refine ⟨before, a, after, b, annotations, fun x member => (placed x).mp ?_, binds, ?_⟩
    · simpa using earlier x member
    · simpa [misplaced, binds] using here

end Declaration

theorem Walk.along_unbound {ds : List Declaration} (fits : ∀ d ∈ ds, d.Fits)
    (unbound : ∀ d ∈ ds, ∀ a ∈ d.annotations, a.isBinding = false) (w : Walk) :
    w.along ds = .ok { w with declarations := w.declarations ++ ds } := by
  induction ds generalizing w with
  | nil => simp [along]
  | cons d ds ih =>
    obtain ⟨here, later⟩ := List.forall_mem_cons.mp fits
    obtain ⟨none_, more⟩ := List.forall_mem_cons.mp unbound
    simp only [along, Registry.extract_unbound here none_]
    rw [ih later more]
    simp [append]

namespace Walk

/-- What was walked over is walked over again without a trace. -/
theorem ofDeclarations_stripped {ds : List Declaration} (fits : ∀ d ∈ ds, d.Fits) :
    ofDeclarations (ds.map Declaration.stripped) =
      .ok { declarations := ds.map Declaration.stripped } := by
  have fits' : ∀ d ∈ ds.map Declaration.stripped, d.Fits := by
    intro d member
    obtain ⟨own, inBody, rfl⟩ := List.mem_map.mp member
    exact Registry.stripped_fits (fits own inBody)
  have unbound : ∀ d ∈ ds.map Declaration.stripped, ∀ a ∈ d.annotations, a.isBinding = false := by
    intro d member
    obtain ⟨own, -, rfl⟩ := List.mem_map.mp member
    exact Registry.stripped_unbound own
  rw [ofDeclarations, along_unbound fits' unbound]
  rfl

/-- A walk that is stopped has taken the bindings of all declarations before the one that stops it. -/
theorem along_stopped {ds : List Declaration} {w : Walk} {stop : Stop}
    (stopped : w.along ds = .error stop) :
    ∃ walked d rest, ds = walked ++ d :: rest ∧ (∀ x ∈ walked, x.Fits) ∧
      stop.walk.removed = w.removed ++ (walked.flatMap (·.annotations)).filter (·.isBinding) ∧
      stop.walk.declarations = w.declarations ++ (walked.map Declaration.stripped ++ d :: rest) := by
  induction ds generalizing w with
  | nil => cases stopped
  | cons d ds ih =>
    rw [along] at stopped
    cases extracted : w.registry.extract d with
    | error own =>
      simp only [extracted, Except.error.injEq] at stopped
      subst stopped
      exact ⟨[], d, ds, rfl, by simp, by simp, by simp⟩
    | ok x =>
      simp only [extracted] at stopped
      obtain ⟨walked, d', rest, rfl, fits, removed, left⟩ := ih stopped
      obtain ⟨taken, stripped⟩ := Registry.parts_of_extract extracted
      have here := Registry.fits_of_extract extracted
      refine ⟨d :: walked, d', rest, rfl, List.forall_mem_cons.mpr ⟨here, fits⟩, ?_, ?_⟩
      · simp [removed, append, taken]
      · simp [left, append, stripped]

end Walk

/-! ### Extractions that return -/

/- An extraction that returns has taken exactly the annotations that bind, those whose directive has one
   of the four names, and has left exactly the others, both in their order. What it leaves of the
   declaration leaves a later extraction, on whatever registry, with nothing to do; and so does what a
   walk leaves of a body, and what a stopped walk leaves of the declarations that it got to. -/
theorem consumption_parts_annotations :
    (∀ a : Annotation, a.isBinding = true ↔
      a.directive.isSome = true ∧ ∃ name ∈ Binding.names, a.name = some name) ∧
    (∀ (l : Live) removed l', Work.extract.perform l = (.ok removed, l') →
      (∃ x, l.registry.extract l.declaration = .ok x ∧ removed = x.removed ∧
        l' = ⟨x.registry, x.declaration, l.diagnostics ++ x.diagnostics⟩) ∧
      removed = l.declaration.annotations.filter (·.isBinding) ∧
      l'.declaration = { l.declaration with
        annotations := l.declaration.annotations.filter (!·.isBinding) } ∧
      (removed ++ l'.declaration.annotations).Perm l.declaration.annotations ∧
      ∀ registry diagnostics,
        Work.extract.perform ⟨registry, l'.declaration, diagnostics⟩ =
          (.ok [], ⟨registry, l'.declaration, diagnostics⟩)) ∧
    (∀ ds w, Walk.ofDeclarations ds = .ok w →
      w.removed = (ds.flatMap (·.annotations)).filter (·.isBinding) ∧
      w.declarations = ds.map Declaration.stripped ∧
      Walk.ofDeclarations w.declarations = .ok { declarations := w.declarations }) ∧
    ∀ ds stop, Walk.ofDeclarations ds = .error stop →
      ∃ walked d rest, ds = walked ++ d :: rest ∧
        stop.walk.removed = (walked.flatMap (·.annotations)).filter (·.isBinding) ∧
        stop.walk.declarations = walked.map Declaration.stripped ++ d :: rest ∧
        Walk.ofDeclarations (walked.map Declaration.stripped) =
          .ok { declarations := walked.map Declaration.stripped } := by
  refine ⟨ Annotation.isBinding_iff, ?_, ?_, ?_⟩
  · intro l removed l' returned
    rw [Work.extract_perform] at returned
    cases extracted : l.registry.extract l.declaration with
    | error stop => simp [extracted] at returned
    | ok x =>
      have fits := Registry.stripped_fits (Registry.fits_of_extract extracted)
      obtain ⟨taken, left⟩ := Registry.parts_of_extract extracted
      simp only [extracted, Prod.mk.injEq, Except.ok.injEq] at returned
      obtain ⟨rfl, rfl⟩ := returned
      refine ⟨⟨x, rfl, rfl, rfl⟩, taken, left, ?_, ?_⟩
      · rw [taken, left]
        exact List.filter_append_perm _ _
      · intro registry diagnostics
        rw [Work.extract_perform, left]
        simp [Registry.extract_unbound fits (Registry.stripped_unbound _)]
  · intro ds w ended
    have fits := Walk.fits_of_ok ended
    rw [Walk.ofDeclarations_fits fits, Except.ok.injEq] at ended
    subst ended
    exact ⟨(List.filter_flatMap ..).symm, rfl, Walk.ofDeclarations_stripped fits⟩
  · intro ds stop stopped
    obtain ⟨walked, d, rest, body, fits, removed, left⟩ := Walk.along_stopped stopped
    exact ⟨walked, d, rest, body, removed, left, Walk.ofDeclarations_stripped fits⟩

/-- Whether a computation stops at a given fault can be decided. -/
instance decidableEqError {ε α : Type} [DecidableEq ε] {x : Except ε α} {fault : ε} :
    Decidable (x = .error fault) :=
  match x with
  | .ok _ => isFalse nofun
  | .error own => decidable_of_iff (own = fault) (by simp)

/-- An annotation of one line, read from its source. -/
def readDecorator (source : String) (row : Nat) : Annotation :=
  let directive := (Directive.read source).toOption.join
  { name := directive.bind Directive.ident?
    directive
    source
    span := { line := some (row + 1), col := some 1 }
    firstRow := row
    lastRow := row }

/-- A function under annotations with these sources. -/
def decorated (sources : List String) : Declaration :=
  ⟨.function, "f", {}, sources.zipIdx.map fun p => readDecorator p.1 p.2⟩

theorem decorated_isRead {sources : List String}
    (readable : ∀ source ∈ sources, (Directive.read source).toOption.isSome = true) :
    (decorated sources).IsRead := by
  intro a member
  obtain ⟨⟨source, row⟩, inSources, rfl⟩ := List.mem_map.mp member
  obtain ⟨directive, found⟩ := Option.isSome_iff_exists.mp
    (readable source (List.fst_mem_of_mem_zipIdx inSources))
  have read : Directive.read source {} = .ok directive := eq_ok_of_toOption found
  have own : (readDecorator source row).directive = directive := by
    simp [readDecorator, read, Except.toOption]
  exact ⟨⟨{}, own ▸ read⟩, rfl⟩

/-- Annotations of every sort: a guard, a dotted name, a repeated binding and a faulty one, a name that
    binds nothing, and no directive at all. -/
theorem mixed_annotations_parted :
    ∃ w, Walk.ofDeclarations [decorated
        ["pyfunction", "cfg(a)", "x.pyattr", "pyfunction", "pyattr(1)", "other", "[1]"]] = .ok w ∧
      w.removed.map (·.source) = ["pyfunction", "pyfunction", "pyattr(1)"] ∧
      w.declarations.map (·.annotations.map (·.source)) =
        [["cfg(a)", "x.pyattr", "other", "[1]"]] ∧
      w.diagnostics.length = 2 ∧
      Walk.ofDeclarations w.declarations = .ok { declarations := w.declarations } := by
  have walked : ∃ w, Walk.ofDeclarations [decorated
        ["pyfunction", "cfg(a)", "x.pyattr", "pyfunction", "pyattr(1)", "other", "[1]"]] = .ok w ∧
      w.removed.map (·.source) = ["pyfunction", "pyfunction", "pyattr(1)"] ∧
      w.declarations.map (·.annotations.map (·.source)) =
        [["cfg(a)", "x.pyattr", "other", "[1]"]] ∧
      w.diagnostics.length = 2 := by decide +kernel
  obtain ⟨w, ended, removed, left, problems⟩ := walked
  obtain ⟨-, -, parts, -⟩ := consumption_parts_annotations
  obtain ⟨-, -, again⟩ := parts _ w ended
  exact ⟨w, ended, removed, left, problems, again⟩

/-! ### Extractions that are stopped -/

/-- A misplaced binding stops it, however many annotations stand before it. -/
theorem Registry.extract_disagreeing {d : Declaration} (isRead : d.IsRead) (disagrees : ¬ d.KindsAgree)
    (r : Registry) :
    ∃ before a after b, d.annotations = before ++ a :: after ∧
      (∀ x ∈ before, ∀ b, x.binding? = some b → b.expects = d.kind) ∧
      a.binding? = some b ∧ b.expects ≠ d.kind ∧
      r.extract d = .error ⟨.kindMismatch ⟨b, d.kind, d.ident⟩,
        before.flatMap (·.problems d.ident)⟩ := by
  obtain ⟨before, a, after, b, annotations, earlier, binds, other⟩ :=
    Declaration.first_misplaced disagrees
  have fits : ∀ x ∈ before, x.Fits d.kind := by
    intro x member
    have read := isRead x (by simp [annotations, member])
    exact ⟨read.key, fun b own => (earlier x member b own).symm⟩
  exact ⟨before, a, after, b, annotations, earlier, binds, other,
    extract_misplaced annotations fits binds other r⟩

/-- No binding agrees with an enumeration. -/
theorem Declaration.unbound_of_enum {d : Declaration} (agrees : d.KindsAgree) (enum : d.kind = .enum) :
    ∀ a ∈ d.annotations, a.isBinding = false := by
  intro a member
  cases binds : a.binding? with
  | none => simp [ Annotation.isBinding, binds]
  | some b =>
    have expected : b.expects = .enum := (agrees a member b binds).symm.trans enum
    exact absurd expected b.expects_ne_enum

/- Where the annotations are read from their sources, an extraction is stopped exactly by a binding that
   expects another kind of declaration, wherever it stands. Then registry and declaration are what they
   were, and the diagnostics are followed by the problems of the annotations before the first such
   binding. So nothing is ever registered for an enumeration. -/
theorem stopped_extraction_binds_nothing (l : Live) (isRead : l.declaration.IsRead) :
    ((∃ fault, (Work.extract.perform l).1 = .error fault) ↔
      ∃ a ∈ l.declaration.annotations, ∃ b, a.binding? = some b ∧
        b.expects ≠ l.declaration.kind) ∧
    (∀ fault l', Work.extract.perform l = (.error fault, l') →
      (∃ stop, l.registry.extract l.declaration = .error stop ∧ fault = stop.fault ∧
        l' = { l with diagnostics := l.diagnostics ++ stop.diagnostics }) ∧
      l'.registry = l.registry ∧ l'.declaration = l.declaration ∧
      ∃ before a after b, l.declaration.annotations = before ++ a :: after ∧
        (∀ x ∈ before, ∀ b, x.binding? = some b → b.expects = l.declaration.kind) ∧
        a.binding? = some b ∧ b.expects ≠ l.declaration.kind ∧
        fault = .kindMismatch ⟨b, l.declaration.kind, l.declaration.ident⟩ ∧
        l'.diagnostics = l.diagnostics ++ before.flatMap (·.problems l.declaration.ident)) ∧
    (l.declaration.kind = .enum → (Work.extract.perform l).2.registry = l.registry) := by
  simp only [Work.extract_perform]
  by_cases agrees : l.declaration.KindsAgree
  · have fits := Declaration.fits_of_isRead isRead agrees
    obtain ⟨x, extracted⟩ := Registry.extract_of_fits fits l.registry
    rw [extracted]
    refine ⟨⟨?_, ?_⟩, ?_, ?_⟩
    · rintro ⟨fault, stopped⟩
      cases stopped
    · rintro ⟨a, member, b, binds, other⟩
      exact absurd (agrees a member b binds).symm other
    · intro fault l' stopped
      cases stopped
    · intro enum
      have unbound := Declaration.unbound_of_enum agrees enum
      rw [Registry.extract_unbound fits unbound, Except.ok.injEq] at extracted
      rw [← extracted]
  · obtain ⟨before, a, after, b, annotations, earlier, binds, other, stopped⟩ :=
      Registry.extract_disagreeing isRead agrees l.registry
    rw [stopped]
    refine ⟨⟨?_, ?_⟩, ?_, ?_⟩
    · intro _
      exact ⟨a, by simp [annotations], b, binds, other⟩
    · intro _
      exact ⟨_, rfl⟩
    · intro fault l' raised
      obtain ⟨same, rfl⟩ := Prod.mk.inj raised
      obtain rfl := Except.error.inj same
      exact ⟨⟨_, rfl, rfl, rfl⟩, rfl, rfl, before, a, after, b, annotations, earlier, binds, other,
        rfl, rfl⟩
    · intro _
      rfl

/-- A registry that is not empty, a diagnostic from before, and a binding of classes on a function, behind
    a binding that is in order and one that is not. -/
def misplacedLive : Live :=
  ⟨⟨[⟨⟨.function, "g", "g"⟩, []⟩]⟩,
    decorated ["pyfunction", "pyattr(1)", "cfg(a)", "pyclass", "pyattr(2)"], [⟨"earlier", {}⟩]⟩

theorem misplacedLive_stopped :
    misplacedLive.declaration.IsRead ∧ ∃ l',
      Work.extract.perform misplacedLive =
        (.error (.kindMismatch ⟨.classObject, .function, "f"⟩), l') ∧
      l'.registry = misplacedLive.registry ∧ l'.declaration = misplacedLive.declaration ∧
      l'.diagnostics.map (·.render) = ["<source>: error: earlier",
        "<source>:2:1: error: @pyattr does not accept positional arguments, got 1"] := by
  have isRead : misplacedLive.declaration.IsRead := decorated_isRead (by decide +kernel)
  have stopped : (Work.extract.perform misplacedLive).1 =
      .error (.kindMismatch ⟨.classObject, .function, "f"⟩) := by decide +kernel
  have told : (Work.extract.perform misplacedLive).2.diagnostics.map (·.render) =
      ["<source>: error: earlier",
        "<source>:2:1: error: @pyattr does not accept positional arguments, got 1"] := by
    decide +kernel
  obtain ⟨-, kept, -⟩ := stopped_extraction_binds_nothing misplacedLive isRead
  generalize ended : Work.extract.perform misplacedLive = result at stopped told kept
  obtain ⟨outcome, l'⟩ := result
  obtain rfl : outcome = _ := stopped
  obtain ⟨-, registry, declaration, -⟩ := kept _ l' rfl
  exact ⟨isRead, l', rfl, registry, declaration, told⟩

end Bindery

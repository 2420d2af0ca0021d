import Bindery.Proofs.Classification
import Bindery.Proofs.Outlines

/- A walk over declarations registers what all binding annotations offer, in textual order, the first
   offer of each key. It reports, declaration by declaration, the problems of the annotations and
   then a refusal for every offer that came too late. -/
namespace Bindery

/-- The directive of an annotation is the one that its source reads as. -/
structure Annotation.IsRead (a : Annotation) : Prop where
  directive : ∃ start, Directive.read a.source start = .ok a.directive
  name : a.name = a.directive.bind Directive.ident?

theorem Annotation.IsRead.key {a : Annotation} (isRead : a.IsRead) (guard : a.isGuard = true) :
    ∃ key, Guard.structuralKey a.source = .ok key := by
  obtain ⟨start, read⟩ := isRead.directive
  cases directive : a.directive with
  | none => simp [ Annotation.isGuard, directive] at guard
  | some d => exact Directive.structuralKey_of_read (directive ▸ read)

namespace Declaration

/-- The annotations are read from their sources, as those of a module body are. -/
def IsRead (d : Declaration) : Prop := ∀ a ∈ d.annotations, a.IsRead

/-- Every binding annotation stands on the kind of declaration that it expects. -/
def KindsAgree (d : Declaration) : Prop :=
  ∀ a ∈ d.annotations, ∀ b, a.binding? = some b → d.kind = b.expects

theorem fits_of_isRead {d : Declaration} (isRead : d.IsRead) (agrees : d.KindsAgree) : d.Fits :=
  fun a member => ⟨(isRead a member).key, agrees a member⟩

/-- What a binding annotation of a declaration registers when nothing is wrong with it. -/
def entryOf (d : Declaration) (a : Annotation) : Option Entry :=
  match a.verdict? d.ident with
  | some (.ok item) => some ⟨item, d.guards⟩
  | _ => none

theorem entryOf_eq (d : Declaration) (a : Annotation) :
    d.entryOf a = (a.offer? d.ident).map fun o => ⟨o.1, d.guards⟩ := by
  unfold entryOf Annotation.offer?
  cases a.verdict? d.ident with
  | none => rfl
  | some verdict => cases verdict <;> rfl

/-- The binding annotations of a body with their declarations, in textual order. -/
def bindings (ds : List Declaration) : List (Declaration × Annotation) :=
  ds.flatMap fun d => (d.annotations.filter (·.isBinding)).map fun a => (d, a)

theorem offers_entries (d : Declaration) :
    d.offers.map Prod.fst =
      ((d.annotations.filter (·.isBinding)).map fun a => (d, a)).filterMap
        fun p => p.1.entryOf p.2 := by
  simp only [offers, Function.comp_def, List.filterMap_map, List.map_filterMap,
    List.filterMap_filter]
  congr 1
  funext a
  cases binds : a.isBinding with
  | true => simp [entryOf_eq, Function.comp_def]
  | false =>
    have noVerdict : a.verdict? d.ident = none := by
      rw [← Annotation.verdict?_isSome d.ident] at binds
      simpa using binds
    simp [ Annotation.offer?, noVerdict]

theorem offers_bindings (ds : List Declaration) :
    ds.flatMap (fun d => d.offers.map Prod.fst) =
      (bindings ds).filterMap fun p => p.1.entryOf p.2 := by
  induction ds with
  | nil => rfl
  | cons d ds ih =>
    simp only [bindings, List.flatMap_cons, List.filterMap_append] at ih ⊢
    rw [ih, offers_entries]

/-- What a body has to report after some earlier offers: declaration by declaration the problems of
    its annotations, then its late offers. -/
def report (earlier : List Entry) : List Declaration → List Diagnostic
  | [] => []
  | d :: ds =>
    d.problems ++ Registry.refusals earlier d.offers ++
      report (earlier ++ d.offers.map Prod.fst) ds

theorem annotationsOf_isRead {path : Option String} {decorators : List Body.Decorator}
    {as : List Annotation} (found : annotationsOf path decorators = .ok as) :
    ∀ a ∈ as, a.IsRead := by
  induction decorators generalizing as with
  | nil => simp_all [annotationsOf]
  | cons d ds ih =>
    simp only [annotationsOf, bind_eq_ok_iff, pure, Except.pure, Except.ok.injEq] at found
    obtain ⟨a, here, more, rest, rfl⟩ := found
    refine List.forall_mem_cons.mpr ⟨?_, ih rest⟩
    simp only [ Annotation.ofDecorator, bind_eq_ok_iff, pure, Except.pure, Except.ok.injEq] at here
    obtain ⟨directive, read, rfl⟩ := here
    exact ⟨⟨_, read⟩, rfl⟩

theorem ofStatements_isRead {path : Option String} {found : List Body.Statement}
    {ds : List Declaration} (read : ofStatements path found = .ok ds) : ∀ d ∈ ds, d.IsRead := by
  induction found generalizing ds with
  | nil => simp_all [ofStatements]
  | cons statement rest ih =>
    cases statement with
    | other => exact ih read
    | definition decorators definition =>
      simp only [ofStatements, bind_eq_ok_iff, pure, Except.pure, Except.ok.injEq] at read
      obtain ⟨d, here, more, rest', rfl⟩ := read
      refine List.forall_mem_cons.mpr ⟨?_, ih rest'⟩
      simp only [ofDefinition, bind_eq_ok_iff, pure, Except.pure, Except.ok.injEq] at here
      obtain ⟨as, annotations, rfl⟩ := here
      exact annotationsOf_isRead annotations

/-- The annotations of a module body are read from their sources. -/
theorem ofSource_isRead {source : String} {path : Option String} {ds : List Declaration}
    (read : ofSource source path = .ok ds) : ∀ d ∈ ds, d.IsRead := by
  unfold ofSource at read
  split at read
  · contradiction
  · rename_i found _
    cases statements : ofStatements path found with
    | error fault => simp [statements] at read
    | ok ds' =>
      simp only [statements, mapError_ok, Except.ok.injEq] at read
      exact ofStatements_isRead (read ▸ statements)

end Declaration

namespace Walk

theorem along_fits {ds : List Declaration} (fits : ∀ d ∈ ds, d.Fits) (es : List Entry) (w : Walk)
    (registry : w.registry = .ofOffers es) :
    w.along ds = .ok {
      registry := .ofOffers (es ++ ds.flatMap fun d => d.offers.map Prod.fst)
      declarations := w.declarations ++ ds.map Declaration.stripped
      removed := w.removed ++ ds.flatMap fun d => d.annotations.filter (·.isBinding)
      diagnostics := w.diagnostics ++ Declaration.report es ds } := by
  induction ds generalizing es w with
  | nil => simp [along, Declaration.report, ← registry]
  | cons d ds ih =>
    have here := Registry.extract_fits es (fits d (by simp))
    have later := fun d' member => fits d' (List.mem_cons_of_mem d member)
    simp only [along, registry, here]
    rw [ih later (es ++ d.offers.map Prod.fst) _ rfl]
    simp [append, Declaration.report]

theorem along_stops {ds : List Declaration} (misfit : ¬ ∀ d ∈ ds, d.Fits) (es : List Entry)
    (w : Walk) (registry : w.registry = .ofOffers es) : ∃ stop, w.along ds = .error stop := by
  induction ds generalizing es w with
  | nil => simp at misfit
  | cons d ds ih =>
    by_cases here : d.Fits
    · have later : ¬ ∀ d' ∈ ds, d'.Fits := fun all =>
        misfit (List.forall_mem_cons.mpr ⟨here, all⟩)
      simp only [along, registry, Registry.extract_fits es here]
      exact ih later _ _ rfl
    · obtain ⟨stop, stopped⟩ := Registry.extract_stops es here
      simp only [along, registry, stopped]
      exact ⟨_, rfl⟩

theorem ofDeclarations_fits {ds : List Declaration} (fits : ∀ d ∈ ds, d.Fits) :
    ofDeclarations ds = .ok {
      registry := .ofOffers ((Declaration.bindings ds).filterMap fun p => p.1.entryOf p.2)
      declarations := ds.map Declaration.stripped
      removed := ds.flatMap fun d => d.annotations.filter (·.isBinding)
      diagnostics := Declaration.report [] ds } := by
  rw [ofDeclarations, along_fits fits [] {} rfl, List.nil_append, Declaration.offers_bindings]
  rfl

/-- A walk that comes to an end has met nothing that stops it. -/
theorem fits_of_ok {ds : List Declaration} {w : Walk} (ended : ofDeclarations ds = .ok w) :
    ∀ d ∈ ds, d.Fits := by
  by_cases fits : ∀ d ∈ ds, d.Fits
  · exact fits
  · obtain ⟨stop, stopped⟩ := along_stops fits [] {} rfl
    rw [ofDeclarations, stopped] at ended
    contradiction

end Walk

/-! ### Bodies without problems -/

namespace Registry

theorem refusals_nil {earlier : List Entry} {offers : List (Entry × Span)}
    (none_ : refusals earlier offers = []) (accepted : ofOffers earlier = ⟨earlier⟩) :
    ofOffers (earlier ++ offers.map Prod.fst) = ⟨earlier ++ offers.map Prod.fst⟩ := by
  induction offers generalizing earlier with
  | nil => simpa using accepted
  | cons offer rest ih =>
    obtain ⟨x, span⟩ := offer
    simp only [refusals] at none_
    split at none_
    · simp at none_
    · rename_i found
      have free : earlier.any x.clashes = false := by simpa [List.find?_eq_none] using found
      have next : ofOffers (earlier ++ [x]) = ⟨earlier ++ [x]⟩ := by
        rw [ofOffers_accepted free, accepted]
      simpa using ih none_ next

end Registry

namespace Declaration

theorem report_nil {ds : List Declaration} {earlier : List Entry} (none_ : report earlier ds = [])
    (accepted : Registry.ofOffers earlier = ⟨earlier⟩) :
    Registry.ofOffers (earlier ++ ds.flatMap fun d => d.offers.map Prod.fst) =
        ⟨earlier ++ ds.flatMap fun d => d.offers.map Prod.fst⟩ ∧
      ∀ d ∈ ds, d.problems = [] := by
  induction ds generalizing earlier with
  | nil => simpa using accepted
  | cons d ds ih =>
    simp only [report, List.append_eq_nil_iff] at none_
    obtain ⟨⟨problems, refused⟩, later⟩ := none_
    obtain ⟨entries, clean⟩ := ih later (Registry.refusals_nil refused accepted)
    exact ⟨by simpa using entries, List.forall_mem_cons.mpr ⟨problems, clean⟩⟩

theorem mem_bindings {ds : List Declaration} {p : Declaration × Annotation}
    (member : p ∈ bindings ds) : p.1 ∈ ds ∧ p.2 ∈ p.1.annotations ∧ p.2.isBinding = true := by
  simp only [bindings, List.mem_flatMap, List.mem_map, List.mem_filter] at member
  obtain ⟨d, inBody, a, ⟨inDeclaration, binds⟩, rfl⟩ := member
  exact ⟨inBody, inDeclaration, binds⟩

theorem entryOf_isSome {d : Declaration} {a : Annotation} (member : a ∈ d.annotations)
    (binds : a.isBinding = true) (clean : d.problems = []) : (d.entryOf a).isSome = true := by
  have noProblems : a.problems d.ident = [] := List.flatMap_eq_nil_iff.mp clean a member
  rw [entryOf_eq, Option.isSome_map]
  exact ( Annotation.offer?_or_problems binds).resolve_right (absurd noProblems)

theorem map_eq_map_some {α β : Type} {f : α → Option β} {xs : List α}
    (total : ∀ x ∈ xs, (f x).isSome = true) : xs.map f = (xs.filterMap f).map some := by
  induction xs with
  | nil => rfl
  | cons x xs ih =>
    obtain ⟨y, found⟩ := Option.isSome_iff_exists.mp (total x (by simp))
    simp [found, ih fun x' member => total x' (List.mem_cons_of_mem x member)]

/-- Without a report every binding annotation has an entry, and no two have one key. -/
theorem entries_of_no_report {ds : List Declaration} (clean : report [] ds = []) :
    (Registry.ofOffers ((bindings ds).filterMap fun p => p.1.entryOf p.2)).entries.map some =
      (bindings ds).map fun p => p.1.entryOf p.2 := by
  obtain ⟨accepted, noProblems⟩ := report_nil clean rfl
  simp only [List.nil_append, offers_bindings] at accepted
  rw [accepted]
  refine (map_eq_map_some ?_).symm
  intro p member
  obtain ⟨inBody, inDeclaration, binds⟩ := mem_bindings member
  exact entryOf_isSome inDeclaration binds (noProblems p.1 inBody)

end Declaration

/-- An expansion is written from a walk without problems. -/
theorem Expansion.written_of_ok {source : String} {path moduleName : Option String}
    {ds : List Declaration} {e : Expansion}
    (expanded : (ofDeclarations source path moduleName ds).1 = .ok e) :
    ∃ w, Walk.ofDeclarations ds = .ok w ∧ w.diagnostics = [] ∧ e.registry = w.registry ∧
      e.declarations = w.declarations ∧ expandedSource e.moduleName source w = .ok e.source := by
  unfold ofDeclarations at expanded
  cases walked : Walk.ofDeclarations ds with
  | error stop => simp [walked] at expanded
  | ok w =>
    simp only [walked] at expanded
    cases batch : Diagnostic.Batch.ofList? w.diagnostics with
    | some b => simp [batch] at expanded
    | none =>
      simp only [batch] at expanded
      split at expanded
      · simp at expanded
      · rename_i text written
        simp only [Except.ok.injEq] at expanded
        subst expanded
        exact ⟨w, rfl, (Diagnostic.Batch.ofList?_eq_none_iff _).mp batch, rfl, rfl, written⟩

theorem Expansion.walk_of_ok {source : String} {path moduleName : Option String}
    {ds : List Declaration} {e : Expansion}
    (expanded : (ofDeclarations source path moduleName ds).1 = .ok e) :
    ∃ w, Walk.ofDeclarations ds = .ok w ∧ w.diagnostics = [] ∧ e.registry = w.registry := by
  obtain ⟨w, ended, clean, registry, -⟩ := written_of_ok expanded
  exact ⟨w, ended, clean, registry⟩

/- The walk is first-wins classification of all pairs of a declaration and a binding annotation. It
   ends whenever the annotations are read from their sources, as those of a body are, and stand on
   the right kinds; then its entries are the first offers under each key, with all guards of their
   declarations, and its diagnostics are the report. An expansion has exactly one entry for every
   binding annotation. -/
theorem walk_is_first_wins (ds : List Declaration) :
    (∀ source path, Declaration.ofSource source path = .ok ds → ∀ d ∈ ds, d.IsRead) ∧
    ((∀ d ∈ ds, d.IsRead) → (∀ d ∈ ds, d.KindsAgree) → ∃ w, Walk.ofDeclarations ds = .ok w) ∧
    (∀ w, Walk.ofDeclarations ds = .ok w →
      (∀ d ∈ ds, ∀ a ∈ d.annotations, a.isGuard = true →
        Guard.make a.source "" a.span = .ok a.guard) ∧
      w.registry.entries = ((Declaration.bindings ds).filterMap fun p => p.1.entryOf p.2).eraseDupsBy
        Entry.clashes ∧
      w.diagnostics = Declaration.report [] ds) ∧
    ∀ source path moduleName e,
      (Expansion.ofDeclarations source path moduleName ds).1 = .ok e →
      e.registry.entries.map some = (Declaration.bindings ds).map fun p => p.1.entryOf p.2 := by
  refine ⟨fun _ _ => Declaration.ofSource_isRead, ?_, ?_, ?_⟩
  · intro isRead agrees
    have fits : ∀ d ∈ ds, d.Fits := fun d member =>
      Declaration.fits_of_isRead (isRead d member) (agrees d member)
    exact ⟨_, Walk.ofDeclarations_fits fits⟩
  · intro w ended
    have fits := Walk.fits_of_ok ended
    rw [Walk.ofDeclarations_fits fits, Except.ok.injEq] at ended
    subst ended
    refine ⟨?_, rfl, rfl⟩
    intro d inBody a inDeclaration guard
    obtain ⟨key, structural⟩ := (fits d inBody a inDeclaration).key guard
    exact Annotation.make_guard a key structural
  · intro source path moduleName e expanded
    obtain ⟨w, ended, clean, registry⟩ := Expansion.walk_of_ok expanded
    have fits := Walk.fits_of_ok ended
    rw [Walk.ofDeclarations_fits fits, Except.ok.injEq] at ended
    subst ended
    rw [registry]
    exact Declaration.entries_of_no_report clean

/-- A bare directive in a row of its own. -/
def bareDecorator (name : String) (row : Nat) : Annotation :=
  { name := some name
    directive := some (.bare name {})
    source := name
    span := { line := some (row + 1), col := some 1 }
    firstRow := row
    lastRow := row }

/-- Two declarations that offer one name under one guard, which the first of them carries behind its
    directive. -/
def rivals : List Declaration :=
  [⟨.function, "f", {}, [bareDecorator "pyfunction" 0, bareDecorator "cfg" 1]⟩,
   ⟨.function, "f", {}, [bareDecorator "cfg" 3, bareDecorator "pyattr" 4]⟩]

theorem walk_of_rivals :
    (∀ d ∈ rivals, d.IsRead) ∧ (∀ d ∈ rivals, d.KindsAgree) ∧
    ∃ w, Walk.ofDeclarations rivals = .ok w ∧
      w.registry.entries.map (fun e => (e.item.kind, e.item.ident, e.guards.length)) =
        [(.function, "f", 1)] ∧
      w.diagnostics.map Diagnostic.render = ["<source>:5:1: error: Duplicate @py* annotation on " ++
        "pymodule: f (already bound to 'f', rebound by 'f')"] := by
  have isRead : ∀ d ∈ rivals, d.IsRead := by
    simp only [rivals, Declaration.IsRead, List.forall_mem_cons, List.not_mem_nil, false_implies,
      implies_true, and_true]
    exact ⟨⟨⟨⟨{}, rfl⟩, rfl⟩, ⟨⟨{}, rfl⟩, rfl⟩⟩, ⟨⟨⟨{}, rfl⟩, rfl⟩, ⟨⟨{}, rfl⟩, rfl⟩⟩⟩
  have agrees : ∀ d ∈ rivals, d.KindsAgree := by
    have checked : (rivals.all fun d => d.annotations.all fun a =>
        a.binding?.all fun b => d.kind = b.expects) = true := by decide +kernel
    intro d inBody a inDeclaration b binds
    have here := List.all_eq_true.mp (List.all_eq_true.mp checked d inBody) a inDeclaration
    simpa [binds] using here
  obtain ⟨-, ends, outcome, -⟩ := walk_is_first_wins rivals
  obtain ⟨w, walked⟩ := ends isRead agrees
  obtain ⟨-, entries, diagnostics⟩ := outcome w walked
  refine ⟨isRead, agrees, w, walked, ?_, ?_⟩
  · rw [entries]
    decide +kernel
  · rw [diagnostics]
    decide +kernel

end Bindery

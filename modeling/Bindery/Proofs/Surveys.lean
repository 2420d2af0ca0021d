import Bindery.Generation
import Bindery.Proofs.Outcomes
import Mathlib.Data.String.Basic
import Mathlib.Order.Basic

/- What a generation reports. Every source file yields problems of its own, by its path and its text
   alone; a survey that is not stopped collects those of all files in order. A tree is written only
   by a plan, and there is no plan where a file has problems. -/
namespace Bindery.Generation

/-- The problems of a file, by its path and its text or the reason why it has none. -/
def problemsOf (path : String) : Except String String → List Diagnostic
  | .error reason => [⟨unreadableMessage reason, { path := some path }⟩]
  | .ok source =>
    if !mentionsBinding source then []
    else match Declaration.ofSource source (some path) with
      | .error (.unreadable d) => [d]
      | .error (.source _) => []
      | .ok ds =>
        if !hasBindings ds then []
        else match Walk.ofDeclarations ds with
          | .ok w => w.diagnostics
          | .error _ => []

def Finding.diagnostics : Finding → List Diagnostic
  | .problems ds => ds
  | _ => []

theorem expand_diagnostics {settings : Settings} {path source : String} {ds : List Declaration}
    {finding : Finding} (expanded : (expand settings path source ds).1 = .ok finding) :
    ∃ w, Walk.ofDeclarations ds = .ok w ∧ finding.diagnostics = w.diagnostics := by
  unfold expand Expansion.ofDeclarations at expanded
  cases walked : Walk.ofDeclarations ds with
  | error stop => simp [walked] at expanded
  | ok w =>
    refine ⟨w, rfl, ?_⟩
    simp only [walked] at expanded
    cases diagnostics : w.diagnostics with
    | cons d rest =>
      simp only [diagnostics, Diagnostic.Batch.ofList?, Except.ok.injEq] at expanded
      subst expanded
      rfl
    | nil =>
      simp only [diagnostics, Diagnostic.Batch.ofList?] at expanded
      cases written : Expansion.expandedSource
          (ModuleName.resolve (Expansion.identOfPath (some path)) (settings.nameOf? path)) source w with
      | error fault => simp [written] at expanded
      | ok text =>
        simp only [written, Except.ok.injEq] at expanded
        subst expanded
        rfl

/-- A file that stops nothing yields its own problems. -/
theorem examine_diagnostics {t : FileTree} {s : Surroundings} {root p : Path} {settings : Settings}
    {finding : Finding} (examined : (examine t s root settings p).1 = .ok finding) :
    finding.diagnostics = problemsOf p.text (readSource t s (root.join p)) := by
  unfold examine at examined
  unfold problemsOf
  cases text : readSource t s (root.join p) with
  | error reason =>
    simp only [text, Except.ok.injEq] at examined
    subst examined
    rfl
  | ok source =>
    simp only [text] at examined ⊢
    split at examined
    · rename_i plain
      simp only [Except.ok.injEq] at examined
      subst examined
      simp [plain, Finding.diagnostics]
    · rename_i mentions
      simp only [mentions, Bool.false_eq_true, ↓reduceIte]
      cases read : Declaration.ofSource source (some p.text) with
      | error fault =>
        cases fault with
        | unreadable d =>
          simp only [read, Except.ok.injEq] at examined
          subst examined
          rfl
        | source fault => simp [read] at examined
      | ok ds =>
        simp only [read] at examined ⊢
        cases binds : hasBindings ds with
        | false =>
          simp only [binds, Bool.false_eq_true, ↓reduceIte, Except.ok.injEq] at examined
          subst examined
          rfl
        | true =>
          simp only [binds, ↓reduceIte] at examined
          obtain ⟨w, walked, diagnostics⟩ := expand_diagnostics examined
          simp [walked, diagnostics]

/-- A file is examined by its text alone. -/
theorem examine_congr {t u : FileTree} {s : Surroundings} {root p : Path} {settings : Settings}
    (same : readSource u s (root.join p) = readSource t s (root.join p)) :
    examine u s root settings p = examine t s root settings p := by
  unfold examine
  rw [same]

theorem expand_path {settings : Settings} {path source : String} {ds : List Declaration}
    {body : Body} (expanded : (expand settings path source ds).1 = .ok (.expanded body)) :
    body.path = path := by
  unfold expand at expanded
  rcases found : (Expansion.ofDeclarations source (some path) (settings.nameOf? path) ds).1 with
    (batch | fault) | e
  · simp [found] at expanded
  · simp [found] at expanded
  · simp only [found, Except.ok.injEq, Finding.expanded.injEq] at expanded
    rw [← expanded]

theorem examine_path {t : FileTree} {s : Surroundings} {root p : Path} {settings : Settings}
    {body : Body} (examined : (examine t s root settings p).1 = .ok (.expanded body)) :
    body.path = p.text := by
  unfold examine at examined
  extract_lets at examined
  split at examined
  · simp at examined
  · split at examined
    · simp at examined
    · split at examined
      · simp at examined
      · simp at examined
      · split at examined
        · exact expand_path examined
        · simp at examined

/-! ### Surveys -/

namespace Survey

variable {t : FileTree} {s : Surroundings} {root : Path} {settings : Settings}

theorem add_diagnostics (v : Survey) (finding : Finding) :
    (v.add finding).diagnostics = v.diagnostics ++ finding.diagnostics := by
  cases finding <;> simp [add, Finding.diagnostics]

/-- A survey that comes to its end has collected the problems of every file. -/
theorem along_diagnostics {v v' : Survey} {ps : List Path}
    (ended : along t s root settings v ps = (v', none)) :
    v'.diagnostics =
      v.diagnostics ++ ps.flatMap fun p => problemsOf p.text (readSource t s (root.join p)) := by
  induction ps generalizing v with
  | nil =>
    simp only [along, Prod.mk.injEq, and_true] at ended
    simp [ended]
  | cons p ps ih =>
    unfold along at ended
    split at ended
    · simp at ended
    · rename_i finding log examined
      have own := examine_diagnostics (congrArg Prod.fst examined)
      simp [ih ended, add_diagnostics, own]

theorem along_congr {u : FileTree} {v : Survey} {ps : List Path}
    (same : ∀ p ∈ ps, readSource u s (root.join p) = readSource t s (root.join p)) :
    along u s root settings v ps = along t s root settings v ps := by
  induction ps generalizing v with
  | nil => rfl
  | cons p ps ih =>
    obtain ⟨here, later⟩ := List.forall_mem_cons.mp same
    unfold along
    rw [examine_congr here]
    split
    · rfl
    · exact ih later

/-- Every body of a survey is that of one of the files. -/
theorem mem_bodies {v v' : Survey} {ps : List Path} (ended : along t s root settings v ps = (v', none))
    {b : Body} (member : b ∈ v'.bodies) : b ∈ v.bodies ∨ ∃ p ∈ ps, b.path = p.text := by
  induction ps generalizing v with
  | nil =>
    simp only [along, Prod.mk.injEq, and_true] at ended
    exact .inl (ended ▸ member)
  | cons p ps ih =>
    unfold along at ended
    split at ended
    · simp at ended
    · rename_i finding log examined
      rcases ih ended with before | ⟨p', inRest, own⟩
      · cases finding with
        | plain => exact .inl before
        | problems ds => exact .inl before
        | expanded body =>
          rcases List.mem_append.mp before with earlier | here
          · exact .inl earlier
          · obtain rfl := List.mem_singleton.mp here
            exact .inr ⟨p, by simp, examine_path (congrArg Prod.fst examined)⟩
      · exact .inr ⟨p', by simp [inRest], own⟩

/-- Only a fault of a file stops a survey. -/
theorem along_ends {ps : List Path} (v : Survey)
    (sound : ∀ p ∈ ps, ∃ finding, (examine t s root settings p).1 = .ok finding) :
    ∃ v', along t s root settings v ps = (v', none) := by
  induction ps generalizing v with
  | nil => exact ⟨v, rfl⟩
  | cons p ps ih =>
    obtain ⟨⟨finding, here⟩, later⟩ := List.forall_mem_cons.mp sound
    unfold along
    split
    · rename_i examined
      simp [examined] at here
    · exact ih _ later

end Survey

/-! ### Runs -/

theorem sortPaths_ordered (ps : List Path) :
    (Scan.sortPaths ps).Pairwise fun p q => p.text ≤ q.text := by
  have sorted : (Scan.sortPaths ps).Pairwise fun p q => decide (p.text ≤ q.text) = true := by
    refine List.pairwise_mergeSort (fun p q r first second => ?_) (fun p q => ?_) ps
    · exact decide_eq_true (le_trans (of_decide_eq_true first) (of_decide_eq_true second))
    · simpa using le_total p.text q.text
  simpa using sorted

theorem sources_ordered {t : FileTree} {s : Surroundings} {root : Path} {o : Scan.Options}
    {ps : List Path} (scanned : Scan.sources t s root o = .ok ps) :
    ps.Pairwise fun p q => p.text ≤ q.text := by
  simp only [Scan.sources, bind_eq_ok_iff, pure, Except.pure, Except.ok.injEq] at scanned
  obtain ⟨-, -, -, -, kept, -, rfl⟩ := scanned
  exact sortPaths_ordered kept

/-- What the settings of a tree ask of a scan. -/
def scanOptions (settings : Settings) (skipped : String) : Scan.Options :=
  { outputDirectory := skipped
    included := settings.included
    excluded := settings.excluded
    nestedIgnore := settings.nestedIgnore }

variable {t : FileTree} {s : Surroundings} {root : Path} {out : Option Path}
  {settings : Option Settings}

theorem prepare_eq_ok_iff {chosen : Settings} {place : Path} {sources : List Path} :
    prepare t s root out settings = .ok (chosen, place, sources) ↔
      (settings = some chosen ∨ settings = none ∧ Settings.load t s root = .ok chosen) ∧
      outputOf t s root out chosen = .ok place ∧
      ∃ skipped, skippedDirectory t s root place chosen = .ok skipped ∧
        Scan.sources t s root (scanOptions chosen skipped) = .ok sources := by
  unfold prepare
  cases settings <;>
  · simp only [bind_eq_ok_iff, mapError_eq_ok_iff, pure, Except.pure, Except.ok.injEq, Prod.mk.injEq,
      scanOptions]
    constructor
    · rintro ⟨chosen, read, place, outside, skipped, known, sources, scanned, rfl, rfl, rfl⟩
      exact ⟨by simpa using read, outside, skipped, known, scanned⟩
    · rintro ⟨read, outside, skipped, known, scanned⟩
      exact ⟨chosen, by simpa using read, place, outside, skipped, known, sources, scanned, rfl, rfl,
        rfl⟩

/-- What is prepared, when all that it is made of is known but for the order of the files. -/
theorem prepare_of_parts {chosen : Settings} {place : Path} (skipped : String)
    (rules : List Glob.IgnoreFile) (found : List Path) {kept : List Path}
    (parts : (Settings.load t s root).toOption = some chosen ∧
      (outputOf t s root out chosen).toOption = some place ∧
      (skippedDirectory t s root place chosen).toOption = some skipped ∧
      (Scan.ignoreFiles t s root chosen.nestedIgnore).toOption = some rules ∧
      (Scan.below t s root (·.endsWith Scan.sourceExtension)).toOption = some found ∧
      (Scan.keep (Scan.isSource t s root (scanOptions chosen skipped) rules) found).toOption =
        some kept) :
    prepare t s root out none = .ok (chosen, place, Scan.sortPaths kept) := by
  obtain ⟨loaded, outputs, skips, ruled, below, tested⟩ := parts
  refine prepare_eq_ok_iff.mpr ⟨.inr ⟨rfl, eq_ok_of_toOption loaded⟩, eq_ok_of_toOption outputs,
    skipped, eq_ok_of_toOption skips, ?_⟩
  simp only [Scan.sources, bind_eq_ok_iff, mapError_eq_ok_iff]
  exact ⟨rules, eq_ok_of_toOption ruled, found, eq_ok_of_toOption below, kept,
    eq_ok_of_toOption tested, rfl⟩

theorem prepare_ordered {chosen : Settings} {place : Path} {sources : List Path}
    (prepared : prepare t s root out settings = .ok (chosen, place, sources)) :
    sources.Pairwise fun p q => p.text ≤ q.text := by
  obtain ⟨-, -, skipped, -, scanned⟩ := prepare_eq_ok_iff.mp prepared
  exact sources_ordered scanned

/-- Problems are found in files only, and not while these are looked for. -/
theorem prepare_no_problems {batch : Diagnostic.Batch} :
    prepare t s root out settings ≠ .error (.problems batch) := by
  intro refused
  unfold prepare outputOf at refused
  cases settings <;> cases out <;>
    simp [bind_eq_error_iff, mapError_eq_error_iff, pure, Except.pure] at refused

/-- Problems keep a generation from having a plan. -/
theorem plan_problems_iff {batch : Diagnostic.Batch} :
    (plan t s root out settings).1 = .error (.problems batch) ↔
      ∃ chosen place sources v, prepare t s root out settings = .ok (chosen, place, sources) ∧
        Survey.along t s root chosen {} sources = (v, none) ∧ batch.toList = v.diagnostics := by
  unfold plan
  cases prepared : prepare t s root out settings with
  | error fault =>
    have noProblems : fault ≠ .problems batch := by
      rintro rfl
      exact prepare_no_problems prepared
    simpa using noProblems
  | ok found =>
    obtain ⟨chosen, place, sources⟩ := found
    simp only [Except.ok.injEq, Prod.mk.injEq]
    constructor
    · intro stopped
      rcases surveyed : Survey.along t s root chosen {} sources with ⟨v, _ | fault⟩
      · simp only [surveyed] at stopped
        cases collected : Diagnostic.Batch.ofList? v.diagnostics with
        | none => simp [collected] at stopped
        | some found =>
          simp only [collected, Except.error.injEq, Fault.problems.injEq] at stopped
          subst stopped
          exact ⟨chosen, place, sources, v, ⟨rfl, rfl, rfl⟩, surveyed,
            Diagnostic.Batch.ofList?_eq_some_iff.mp collected⟩
      · simp [surveyed] at stopped
    · rintro ⟨_, _, _, v, ⟨rfl, rfl, rfl⟩, surveyed, collected⟩
      simp [surveyed, Diagnostic.Batch.ofList?_eq_some_iff.mpr collected]

theorem run_problems_iff {batch : Diagnostic.Batch} :
    (run t s root out settings).result = .error (.problems batch) ↔
      (plan t s root out settings).1 = .error (.problems batch) := by
  unfold run
  rcases plan t s root out settings with ⟨_ | p, log⟩
  · simp
  · rcases written : p.write t s with ⟨t', _ | fault⟩ <;> simp [written]

/-- There is a plan exactly if the survey ends without problems. -/
theorem plan_ok_iff {p : Plan} :
    (plan t s root out settings).1 = .ok p ↔
      ∃ chosen place sources v, prepare t s root out settings = .ok (chosen, place, sources) ∧
        Survey.along t s root chosen {} sources = (v, none) ∧ v.diagnostics = [] ∧
        p = ⟨place, v.bodies⟩ := by
  unfold plan
  cases prepared : prepare t s root out settings with
  | error fault => simp
  | ok found =>
    obtain ⟨chosen, place, sources⟩ := found
    simp only [Except.ok.injEq, Prod.mk.injEq]
    constructor
    · intro planned
      rcases surveyed : Survey.along t s root chosen {} sources with ⟨v, _ | fault⟩
      · simp only [surveyed] at planned
        cases collected : Diagnostic.Batch.ofList? v.diagnostics with
        | some batch => simp [collected] at planned
        | none =>
          simp only [collected, Except.ok.injEq] at planned
          exact ⟨chosen, place, sources, v, ⟨rfl, rfl, rfl⟩, surveyed,
            (Diagnostic.Batch.ofList?_eq_none_iff _).mp collected, planned.symm⟩
      · simp [surveyed] at planned
    · rintro ⟨_, _, _, v, ⟨rfl, rfl, rfl⟩, surveyed, clean, rfl⟩
      simp [surveyed, (Diagnostic.Batch.ofList?_eq_none_iff _).mpr clean]

/-- A generation comes to a result exactly if there is a plan that is carried out. -/
theorem run_ok_iff {tree : FileTree} :
    (∃ result, (run t s root out settings).result = .ok result) ∧
        (run t s root out settings).tree = tree ↔
      ∃ p, (plan t s root out settings).1 = .ok p ∧ p.write t s = (tree, none) := by
  unfold run
  rcases plan t s root out settings with ⟨fault | p, log⟩
  · simp
  · rcases written : p.write t s with ⟨t', _ | fault⟩ <;> simp [written]

/-- What is planned, when the survey of what was prepared meets no fault and no problem. -/
theorem plan_of_prepared {chosen : Settings} {place : Path} {sources : List Path}
    (prepared : prepare t s root out settings = .ok (chosen, place, sources))
    (surveyed : (Survey.along t s root chosen {} sources).2.isNone = true ∧
      (Survey.along t s root chosen {} sources).1.diagnostics.isEmpty = true) :
    (plan t s root out settings).1 =
      .ok ⟨place, (Survey.along t s root chosen {} sources).1.bodies⟩ :=
  plan_ok_iff.mpr ⟨chosen, place, sources, _, prepared,
    Prod.ext rfl (Option.isNone_iff_eq_none.mp surveyed.1), List.isEmpty_iff.mp surveyed.2, rfl⟩

/-- The result of a run is that of its plan. -/
theorem result_eq {p : Plan} {result : Result} (planned : (plan t s root out settings).1 = .ok p)
    (generated : (run t s root out settings).result = .ok result) : result = p.result := by
  unfold run at generated
  rcases decided : plan t s root out settings with ⟨fault | own, log⟩
  · simp [decided] at planned
  · obtain rfl : own = p := by simpa [decided] using planned
    rcases written : own.write t s with ⟨t', _ | fault⟩
    · simpa [decided, written] using generated.symm
    · simp [decided, written] at generated

theorem Plan.write_of_isNone {p : Plan} (written : (p.write t s).2.isNone = true) :
    p.write t s = ((p.write t s).1, none) :=
  Prod.ext rfl (Option.isNone_iff_eq_none.mp written)

theorem run_of_plan {p : Plan} (planned : (plan t s root out settings).1 = .ok p)
    (written : (p.write t s).2.isNone = true) :
    (∃ result, (run t s root out settings).result = .ok result) ∧
      (run t s root out settings).tree = (p.write t s).1 :=
  run_ok_iff.mpr ⟨p, planned, p.write_of_isNone written⟩

/- A generation is all or nothing. Unless a file cannot be written, a generation that fails leaves the
   tree as it is. Its problems are those of all source files, in the order of their relative paths,
   each by the file's own path and text; and they are reported whenever there are any and no file
   has a fault of another kind. -/
theorem run_is_all_or_nothing (t : FileTree) (s : Surroundings) (root : Path) (out : Option Path)
    (settings : Option Settings) :
    (∀ fault, (run t s root out settings).result = .error fault → (∀ f, fault ≠ .file f) →
      (run t s root out settings).tree = t) ∧
    (∀ batch, (run t s root out settings).result = .error (.problems batch) →
      ∃ chosen place sources,
        prepare t s root out settings = .ok (chosen, place, sources) ∧
        sources.Pairwise (fun p q => p.text ≤ q.text) ∧
        batch.toList = sources.flatMap fun p => problemsOf p.text (readSource t s (root.join p))) ∧
    ∀ chosen place sources, prepare t s root out settings = .ok (chosen, place, sources) →
      (∀ p ∈ sources, ∃ finding, (examine t s root chosen p).1 = .ok finding) →
      (∃ p ∈ sources, problemsOf p.text (readSource t s (root.join p)) ≠ []) →
      ∃ batch, (run t s root out settings).result = .error (.problems batch) := by
  refine ⟨?_, ?_, ?_⟩
  · intro fault failed noFile
    unfold run at failed ⊢
    split at failed
    · rfl
    · split at failed
      · simp only [Except.error.injEq] at failed
        exact absurd failed.symm (noFile _)
      · simp at failed
  · intro batch failed
    obtain ⟨chosen, place, sources, v, prepared, surveyed, collected⟩ :=
      plan_problems_iff.mp (run_problems_iff.mp failed)
    refine ⟨chosen, place, sources, prepared, prepare_ordered prepared, ?_⟩
    simpa [collected] using Survey.along_diagnostics surveyed
  · rintro chosen place sources prepared sound ⟨p, member, problems⟩
    obtain ⟨v, surveyed⟩ := Survey.along_ends {} sound
    have collected := Survey.along_diagnostics surveyed
    cases batch : Diagnostic.Batch.ofList? v.diagnostics with
    | none =>
      rw [Diagnostic.Batch.ofList?_eq_none_iff, collected] at batch
      have noProblems := List.flatMap_eq_nil_iff.mp (List.append_eq_nil_iff.mp batch).2 p member
      exact absurd noProblems problems
    | some batch' =>
      exact ⟨batch', run_problems_iff.mpr (plan_problems_iff.mpr
        ⟨chosen, place, sources, v, prepared, surveyed, Diagnostic.Batch.ofList?_eq_some_iff.mp batch⟩)⟩

/-- A tree with two source files that are no text. -/
def unreadablePair : FileTree :=
  ⟨[(["tree"], .dir), (["tree", "b.py"], .file [0xff]), (["tree", "a.py"], .file [0xfe])]⟩

theorem unreadablePair_prepared :
    prepare unreadablePair ⟨[], "/home"⟩ ⟨0, ["tree"]⟩ none none =
      .ok ({}, FileTree.pathOf ["tree", ".pymodgen"], [⟨0, ["a.py"]⟩, ⟨0, ["b.py"]⟩]) := by
  have later : ¬ Path.text ⟨0, ["b.py"]⟩ ≤ Path.text ⟨0, ["a.py"]⟩ := by decide
  have sorted : Scan.sortPaths [⟨0, ["b.py"]⟩, ⟨0, ["a.py"]⟩] = [⟨0, ["a.py"]⟩, ⟨0, ["b.py"]⟩] := by
    simp [Scan.sortPaths, List.mergeSort, List.MergeSort.Internal.splitInTwo, later]
  rw [← sorted]
  exact prepare_of_parts ".pymodgen" [] [⟨0, ["b.py"]⟩, ⟨0, ["a.py"]⟩] (by decide +kernel)

theorem run_of_unreadablePair : ∃ batch,
    (run unreadablePair ⟨[], "/home"⟩ ⟨0, ["tree"]⟩).result = .error (.problems batch) ∧
    (run unreadablePair ⟨[], "/home"⟩ ⟨0, ["tree"]⟩).tree = unreadablePair ∧
    batch.toList.map Diagnostic.location = ["a.py", "b.py"] := by
  obtain ⟨unchanged, reported, raised⟩ :=
    run_is_all_or_nothing unreadablePair ⟨[], "/home"⟩ ⟨0, ["tree"]⟩ none none
  have sound : ∀ p ∈ ([⟨0, ["a.py"]⟩, ⟨0, ["b.py"]⟩] : List Path), ∃ finding,
      (examine unreadablePair ⟨[], "/home"⟩ ⟨0, ["tree"]⟩ {} p).1 = .ok finding := by
    simp only [List.forall_mem_cons, List.not_mem_nil, false_implies, implies_true, and_true]
    exact ⟨⟨_, rfl⟩, ⟨_, rfl⟩⟩
  obtain ⟨batch, failed⟩ := raised _ _ _ unreadablePair_prepared sound
    ⟨⟨0, ["a.py"]⟩, by simp, by decide⟩
  obtain ⟨chosen, place, sources, prepared, -, collected⟩ := reported batch failed
  rw [unreadablePair_prepared, Except.ok.injEq, Prod.mk.injEq, Prod.mk.injEq] at prepared
  obtain ⟨-, -, rfl⟩ := prepared
  refine ⟨batch, failed, unchanged _ failed (by simp), ?_⟩
  rw [collected]
  decide

end Bindery.Generation

import Bindery.Proofs.Overwriting

/- Generation leaves alone what it reads. A source file has other bytes afterwards only if one of the
   paths that are written leads to it; below an output directory without links none does, unless
   that directory is the root or above it. -/
namespace Bindery.Generation

open FileTree

variable {t t' : FileTree} {s : Surroundings} {root directory : Path} {top place : Location}
  {out : Option Path} {settings : Option Settings} {chosen : Settings}

/-! ### Where the output lies -/

/-- The names of the working directory, and of an output directory that is given, are names that
    texts can hold. -/
structure Spelled (s : Surroundings) (out : Option Path) : Prop where
  working : ∀ name ∈ s.workingDirectory, Path.Textual name
  given : ∀ directory ∈ out, ∀ name ∈ directory.names, Path.Textual name

theorem resolved_of_skippedDirectory {skipped : String}
    (skips : skippedDirectory t s root directory chosen = .ok skipped) :
    ∃ place top, t.resolve s directory = .ok place ∧ t.resolve s root = .ok top := by
  simp only [skippedDirectory, outputName?, bind_eq_ok_iff] at skips
  obtain ⟨name, ⟨place, resolved, top, root_, -⟩, -⟩ := skips
  exact ⟨place, top, resolved, root_⟩

theorem top_textual (wellFormed : t.WellFormed) (leads : t.status s root = .ok (top, .dir)) :
    ∀ name ∈ top, Path.Textual name := by
  by_cases whole : top = []
  · simp [whole]
  · exact wellFormed.textual _ (mem_of_find? whole (holds_of_status leads))

/-- The names of the output directory's place are names that texts can hold. -/
theorem place_textual (wellFormed : t.WellFormed) (spelled : Spelled s out)
    (leads : t.status s root = .ok (top, .dir)) (outputs : outputOf t s root out chosen = .ok directory)
    (resolved : t.resolve s directory = .ok place) : ∀ name ∈ place, Path.Textual name := by
  refine resolve_textual spelled.working ?_ resolved
  cases out with
  | some given =>
    cases outputs
    exact spelled.given _ rfl
  | none =>
    simp only [outputOf, bind_eq_ok_iff, mapError_eq_ok_iff, pure, Except.pure,
      Except.ok.injEq] at outputs
    obtain ⟨place', named, rfl⟩ := outputs
    obtain ⟨-, -, relative, top', sameRoot, resolved', -⟩ := outputPlace_eq_ok_iff.mp named
    rw [resolve_of_status wellFormed.rooted leads (by simp)] at sameRoot
    cases sameRoot
    refine resolve_textual spelled.working ?_ resolved'
    rw [Path.join, if_neg (by simp [relative])]
    exact List.forall_mem_append.mpr ⟨top_textual wellFormed leads, fun _ => Path.textual_of_mem_ofText⟩

/-- Strictly below the root, just what lies below the output is skipped. -/
theorem isUnder_iff (textual : ∀ name ∈ place, Path.Textual name) (below : isBelow top place = true)
    (names : List String) :
    (Path.ofText (Path.text { names := place.drop top.length })).isUnder { names := names } = true ↔
      place <+: top ++ names := by
  obtain ⟨more, some_, rfl⟩ := isBelow_iff.mp below
  rw [List.drop_left, Path.ofText_text fun name member => textual name (by simp [member])]
  simp [Path.isUnder, Path.parts, Path.isAbsolute, some_, List.prefix_append_right_inj]

/-! ### The sources of a run -/

/- A run leaves its sources alone. Every source file has the bytes that it had, unless one of the paths
   that are written leads to that very file; and if no link is below the output directory, that can
   only be where the output directory is the root or above it. -/
theorem run_keeps_sources {result : Result} (wellFormed : t.WellFormed) (spelled : Spelled s out)
    (generated : (run t s root out settings).result = .ok result)
    (tree : (run t s root out settings).tree = t') :
    ∃ chosen directory sources p top place,
      prepare t s root out settings = .ok (chosen, directory, sources) ∧
      (plan t s root out settings).1 = .ok p ∧ p.out = directory ∧
      t.resolve s root = .ok top ∧ t.resolve s directory = .ok place ∧
      ∀ r ∈ sources, ∃ q bytes, t.status s (root.join r) = .ok (q, .file bytes) ∧
        ((∀ f ∈ p.files, ∀ node, t'.status s f.1 ≠ .ok (q, node)) →
          t'.status s (root.join r) = .ok (q, .file bytes)) ∧
        (¬ place <+: top → (∀ names ≠ [], ∀ target, t.find? (place ++ names) ≠ some (.link target)) →
          t'.status s (root.join r) = .ok (q, .file bytes)) := by
  obtain ⟨p, planned, written⟩ := run_ok_iff.mp ⟨⟨result, generated⟩, tree⟩
  obtain ⟨chosen, directory, sources, v, prepared, surveyed, -, rfl⟩ := plan_ok_iff.mp planned
  obtain ⟨-, outputs, skipped, skips, scanned⟩ := prepare_eq_ok_iff.mp prepared
  obtain ⟨place, top, resolved, root_⟩ := resolved_of_skippedDirectory skips
  refine ⟨chosen, directory, sources, _, top, place, prepared, planned, rfl, root_, resolved,
    fun r member => ?_⟩
  obtain ⟨top', leads⟩ := leads_of_mem_sources scanned member
  rw [resolve_of_status wellFormed.rooted leads (by simp)] at root_
  cases root_
  obtain ⟨names, name, bytes, rfl, -, -, found, apart⟩ :=
    mem_sources wellFormed.rooted leads scanned member
  have wrote := Plan.wrote wellFormed.rooted written
  have unled : (∀ f ∈ Plan.files ⟨directory, v.bodies⟩, ∀ node,
      t'.status s f.1 ≠ .ok (top ++ (names ++ [name]), node)) →
      t'.status s (root.join { names := names ++ [name] }) =
        .ok (top ++ (names ++ [name]), .file bytes) := fun apart =>
    status_kept wrote.rewrites.ways found (wrote.unchanged apart (holds_of_status found))
  refine ⟨_, bytes, found, unled, fun outside noLink => unled fun f inPlan node there => ?_⟩
  have sound := plan_sound wellFormed scanned surveyed directory
  have site := Plan.site wellFormed.rooted resolved noLink written
  obtain ⟨g, -, -, same⟩ := sound.place_of_status site inPlan there
  -- a file written where a source is has the output strictly below the root, where it is skipped
  have inside : place <+: top ++ (names ++ [name]) := ⟨g.1, same.symm⟩
  have below : isBelow top place = true := by
    rcases List.prefix_or_prefix_of_prefix inside (List.prefix_append top _) with above | ⟨more, rfl⟩
    · exact absurd above outside
    · refine isBelow_iff.mpr ⟨more, ?_, rfl⟩
      rintro rfl
      simp at outside
  rw [skippedDirectory_eq resolved (resolve_of_status wellFormed.rooted leads (by simp)),
    if_pos below, Except.ok.injEq] at skips
  subst skips
  have textual := place_textual wellFormed spelled leads outputs resolved
  have under := (isUnder_iff textual below (names ++ [name])).mpr inside
  exact Bool.false_ne_true (apart.symm.trans under)

/-- A tree with a source file beside an output directory, whose name begins with that of the directory;
    in the directory is what an earlier run has left. -/
def neighbourTree : FileTree :=
  ⟨[(["tree"], .dir), (["tree", ".pymodgen"], .dir),
    (["tree", ".pymodgen", "old.py"], .file (Text.Utf8.ofString "@pyfunction\ndef old():\n    pass\n")),
    (["tree", ".pymodgen-kept"], .dir),
    (["tree", ".pymodgen-kept", "now.py"],
      .file (Text.Utf8.ofString "@pyfunction\ndef now():\n    pass\n"))]⟩

def neighbourSurvey : Survey :=
  (Survey.along neighbourTree ⟨[], "/home"⟩ ⟨0, ["tree"]⟩ {} {} [⟨0, [".pymodgen-kept", "now.py"]⟩]).1

/-- The one source file is expanded, to wherever the output goes, if what is skipped is the default. -/
theorem neighbourTree_planned (out : Option Path) (directory : Path)
    (known : (outputOf neighbourTree ⟨[], "/home"⟩ ⟨0, ["tree"]⟩ out {}).toOption = some directory ∧
      (skippedDirectory neighbourTree ⟨[], "/home"⟩ ⟨0, ["tree"]⟩ directory {}).toOption =
        some ".pymodgen") :
    prepare neighbourTree ⟨[], "/home"⟩ ⟨0, ["tree"]⟩ out none =
      .ok ({}, directory, [⟨0, [".pymodgen-kept", "now.py"]⟩]) ∧
    (plan neighbourTree ⟨[], "/home"⟩ ⟨0, ["tree"]⟩ out none).1 =
      .ok ⟨directory, neighbourSurvey.bodies⟩ := by
  have prepared : prepare neighbourTree ⟨[], "/home"⟩ ⟨0, ["tree"]⟩ out none =
      .ok ({}, directory, [⟨0, [".pymodgen-kept", "now.py"]⟩]) := by
    rw [← show Scan.sortPaths [⟨0, [".pymodgen-kept", "now.py"]⟩] =
      [⟨0, [".pymodgen-kept", "now.py"]⟩] from List.mergeSort_singleton _]
    exact prepare_of_parts ".pymodgen" []
      [⟨0, [".pymodgen", "old.py"]⟩, ⟨0, [".pymodgen-kept", "now.py"]⟩]
      ⟨by decide +kernel, known.1, known.2, by decide +kernel⟩
  refine ⟨prepared, ?_⟩
  rw [neighbourSurvey]
  exact plan_of_prepared prepared (by decide +kernel)

theorem neighbourTree_keeps_its_source : ∃ t' bytes,
    (run neighbourTree ⟨[], "/home"⟩ ⟨0, ["tree"]⟩).tree = t' ∧
    neighbourTree.status ⟨[], "/home"⟩ ⟨0, ["tree", ".pymodgen-kept", "now.py"]⟩ =
      .ok (["tree", ".pymodgen-kept", "now.py"], .file bytes) ∧
    t'.status ⟨[], "/home"⟩ ⟨0, ["tree", ".pymodgen-kept", "now.py"]⟩ =
      .ok (["tree", ".pymodgen-kept", "now.py"], .file bytes) := by
  obtain ⟨prepared, planned⟩ :=
    neighbourTree_planned none (pathOf ["tree", ".pymodgen"]) (by decide +kernel)
  obtain ⟨⟨result, generated⟩, tree⟩ := run_of_plan planned (by decide +kernel)
  obtain ⟨_, _, _, p, top, place, prepared', -, -, root_, resolved, kept⟩ :=
    run_keeps_sources (by decide +kernel) ⟨by simp, by simp⟩ generated tree
  rw [prepared, Except.ok.injEq, Prod.mk.injEq, Prod.mk.injEq] at prepared'
  obtain ⟨-, rfl, rfl⟩ := prepared'
  obtain rfl : ["tree"] = top := by
    have known : (neighbourTree.resolve ⟨[], "/home"⟩ ⟨0, ["tree"]⟩).toOption = some ["tree"] := by
      decide +kernel
    simpa [root_, Except.toOption] using known.symm
  obtain rfl : ["tree", ".pymodgen"] = place := by
    have known : (neighbourTree.resolve ⟨[], "/home"⟩ (pathOf ["tree", ".pymodgen"])).toOption =
        some ["tree", ".pymodgen"] := by decide +kernel
    simpa [resolved, Except.toOption] using known.symm
  obtain ⟨q, bytes, found, -, unchanged⟩ := kept _ (List.mem_singleton_self _)
  have same : q = ["tree", ".pymodgen-kept", "now.py"] := by
    have known : (neighbourTree.status ⟨[], "/home"⟩
        (Path.join ⟨0, ["tree"]⟩ ⟨0, [".pymodgen-kept", "now.py"]⟩)).toOption.map Prod.fst =
          some ["tree", ".pymodgen-kept", "now.py"] := by decide +kernel
    simpa [found, Except.toOption] using known
  subst same
  refine ⟨_, bytes, tree, found, unchanged (by decide) fun names _ target held => ?_⟩
  simpa [neighbourTree] using mem_of_find? (by simp) held

/-- With the root as its output directory, a run writes the expansion over the source file. -/
theorem neighbourTree_overwritten : ∃ result t' sources,
    (run neighbourTree ⟨[], "/home"⟩ ⟨0, ["tree"]⟩ (some ⟨0, ["tree"]⟩)).result = .ok result ∧
    (run neighbourTree ⟨[], "/home"⟩ ⟨0, ["tree"]⟩ (some ⟨0, ["tree"]⟩)).tree = t' ∧
    prepare neighbourTree ⟨[], "/home"⟩ ⟨0, ["tree"]⟩ (some ⟨0, ["tree"]⟩) none =
      .ok ({}, ⟨0, ["tree"]⟩, sources) ∧
    ∃ r ∈ sources, t'.read ⟨[], "/home"⟩ (Path.join ⟨0, ["tree"]⟩ r) ≠
      neighbourTree.read ⟨[], "/home"⟩ (Path.join ⟨0, ["tree"]⟩ r) := by
  obtain ⟨prepared, planned⟩ :=
    neighbourTree_planned (some ⟨0, ["tree"]⟩) ⟨0, ["tree"]⟩ (by decide +kernel)
  obtain ⟨⟨result, generated⟩, tree⟩ := run_of_plan planned (by decide +kernel)
  refine ⟨result, _, _, generated, tree, prepared, _, List.mem_singleton_self _, fun same => ?_⟩
  have other := congrArg Except.toOption same
  exact absurd other (by decide +kernel)

end Bindery.Generation

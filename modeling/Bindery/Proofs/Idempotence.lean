import Bindery.Proofs.FreshVerification
import Bindery.Proofs.Manifests

/- Generating a tree into itself, twice. All that the first run writes lies below its output directory,
   and what lies there is not scanned; so the second run finds the same source files, plans the same
   and writes the same bytes to the same places. Files beside the output directory are scanned,
   also those whose names begin with its name. -/
namespace Bindery

namespace Generation

open FileTree

variable {t t' : FileTree} {s : Surroundings} {root directory base : Path} {top place : Location}
  {out : Option Path} {settings : Option Settings} {chosen : Settings} {sources : List Path} {p : Plan}

/-! ### Writing the same again -/

/-- Files that are there already are written without a change. -/
theorem writeFiles_same {files : Files} (named : files.Named) (site : t.Site s base place)
    (distinct : t.Distinct) (held : ∀ f ∈ files, t.find? (place ++ f.1) = some (.file f.2)) :
    writeFiles t s (files.at_ base) = (t, none) := by
  induction files with
  | nil => rfl
  | cons f files ih =>
    obtain ⟨path, bytes⟩ := f
    obtain ⟨⟨notEmpty, follows⟩, namedLater⟩ := List.forall_mem_cons.mp named
    obtain ⟨here, later⟩ := List.forall_mem_cons.mp held
    obtain ⟨names, name, rfl⟩ := (List.eq_nil_or_concat' path).resolve_left notEmpty
    rw [← List.append_assoc] at here
    obtain ⟨-, above⟩ := site.rooted.above_of_find? here
    refine writeFiles_cons_ok.mpr ⟨t, t, ?_, ?_, ih namedLater later⟩
    · rw [Path.parent_join_snoc, ensureDirectory]
      exact site.accepts above _
    · refine (site.write_eq_ok_iff (follows name (by simp)) above).mpr ⟨?_, ?_⟩
      · rw [here]
        simp
      · exact (distinct.insert_same (by simp) here).symm

/-- A plan that was carried out is carried out again without a change. -/
theorem Plan.Sound.write_same (sound : p.Sound) (nodup : (p.relativeFiles.map Prod.fst).Nodup)
    (wrote : Wrote t t' s p.files) (distinct : t.Distinct) (site : t'.Site s p.out place) :
    p.write t' s = (t', none) := by
  have held : ∀ f ∈ p.relativeFiles, t'.find? (place ++ f.1) = some (.file f.2) := by
    intro f member
    obtain ⟨q, found⟩ := wrote.own (sound.apart nodup site) (sound.mem_files member)
    exact site.find?_of_status (fun name inNames => ((sound.named f member).2 name inNames).notUp) found
  refine Plan.write_ok_iff.mpr ⟨t', ?_, ?_⟩
  · have dir : t'.find? (place ++ []) = some .dir := by simpa using site.dir
    simpa [ensureDirectory] using site.accepts dir p.out.names.length
  · rw [sound.files]
    exact writeFiles_same sound.named site (wrote.distinct distinct) held

/-! ### The second run -/

/-- An output directory strictly below the root, with no link below it. -/
structure Inside (t : FileTree) (s : Surroundings) (root directory : Path) (top place : Location) :
    Prop where
  leads : t.status s root = .ok (top, .dir)
  resolved : t.resolve s directory = .ok place
  below : isBelow top place = true
  noLink : ∀ names ≠ [], ∀ target, t.find? (place ++ names) ≠ some (.link target)

theorem plan_congr {u : FileTree}
    (prepared : prepare t s root out settings = .ok (chosen, directory, sources))
    (prepared' : prepare u s root out settings = .ok (chosen, directory, sources))
    (same : ∀ r ∈ sources, readSource u s (root.join r) = readSource t s (root.join r)) :
    plan u s root out settings = plan t s root out settings := by
  simp only [plan, prepared, prepared', Survey.along_congr same]

theorem outputOf_again {fileAt : Location → Prop} {q : Location} {node : Node}
    (regrown : Regrown fileAt t t' s root top) (distinct : t.Distinct) (distinct' : t'.Distinct)
    (outputs : outputOf t s root out chosen = .ok directory)
    (leads : t'.status s directory = .ok (q, node)) :
    outputOf t' s root out chosen = .ok directory := by
  cases out with
  | some given => exact outputs
  | none =>
    simp only [outputOf, bind_eq_ok_iff, mapError_eq_ok_iff, pure, Except.pure,
      Except.ok.injEq] at outputs ⊢
    obtain ⟨place, named, rfl⟩ := outputs
    obtain ⟨some_, noHome, relative, top', root_, resolved, within⟩ := outputPlace_eq_ok_iff.mp named
    rw [resolve_of_status regrown.rooted regrown.leads (by simp)] at root_
    cases root_
    refine ⟨place, outputPlace_eq_ok_iff.mpr ⟨some_, noHome, relative, top, ?_, ?_, within⟩, rfl⟩
    · exact resolve_of_status regrown.rooted' regrown.leads' (by simp)
    · exact regrown.rewrites.resolve_again distinct distinct' regrown.rooted regrown.rooted' resolved leads

/-- What lies strictly below the root and was written to is prepared again as it was. -/
theorem prepare_again {fileAt : Location → Prop}
    (regrown : Regrown fileAt t t' s root top) (distinct : t.Distinct) (distinct' : t'.Distinct)
    (prepared : prepare t s root out settings = .ok (chosen, directory, sources))
    (inside : Inside t s root directory top place) (textual : ∀ name ∈ place, Path.Textual name)
    (onto : ∀ q, fileAt q → ∃ names name, q = place ++ (names ++ [name]) ∧ name ≠ Scan.ignoreFileName)
    (leads : t'.status s directory = .ok (place, .dir))
    (config : settings = none → Steady t t' s root top Settings.fileName)
    (links : LinksAgain t t' s root top chosen.nestedIgnore) :
    prepare t' s root out settings = .ok (chosen, directory, sources) ∧
      ∀ r ∈ sources, readSource t' s (root.join r) = readSource t s (root.join r) := by
  obtain ⟨read, outputs, skipped, skips, scanned⟩ := prepare_eq_ok_iff.mp prepared
  have root_ : t.resolve s root = .ok top :=
    resolve_of_status regrown.rooted regrown.leads (by simp)
  have root' : t'.resolve s root = .ok top :=
    resolve_of_status regrown.rooted' regrown.leads' (by simp)
  have resolved' : t'.resolve s directory = .ok place :=
    resolve_of_status regrown.rooted' leads (by simp)
  rw [skippedDirectory_eq inside.resolved root_, if_pos inside.below, Except.ok.injEq] at skips
  subst skips
  have noRules : ∀ q, fileAt q → q.getLast? ≠ some Scan.ignoreFileName := by
    intro q isNew
    obtain ⟨names, name, rfl, noRules⟩ := onto q isNew
    simpa [← List.append_assoc] using noRules
  have hidden : ∀ names, fileAt (top ++ names) →
      (Path.ofText (Path.text { names := place.drop top.length })).isUnder { names := names } = true := by
    intro names isNew
    obtain ⟨more, name, same, -⟩ := onto _ isNew
    exact (isUnder_iff textual inside.below names).mpr ⟨_, same.symm⟩
  have closed : ¬ fileAt (top ++ [Settings.fileName]) := by
    -- the settings have one name below the root, and what was written has two or more
    intro isNew
    obtain ⟨names, name, same, -⟩ := onto _ isNew
    obtain ⟨more, some_, rfl⟩ := isBelow_iff.mp inside.below
    have long := congrArg List.length same
    have notEmpty := List.length_pos_of_ne_nil some_
    simp only [List.length_append, List.length_singleton] at long
    omega
  obtain ⟨scanned', same⟩ := sources_again regrown scanned links noRules hidden
  refine ⟨prepare_eq_ok_iff.mpr ⟨read.imp id fun ⟨unset, loaded⟩ =>
      ⟨unset, regrown.load closed (config unset) loaded⟩,
    outputOf_again regrown distinct distinct' outputs leads, _, ?_, scanned'⟩, same⟩
  rw [skippedDirectory_eq resolved' root', if_pos inside.below]

/-- A path is a source file if it is one where nothing is skipped, and is not skipped. -/
theorem isSource_iff {o : Scan.Options} {rules : List Glob.IgnoreFile} {r : Path} :
    Scan.isSource t s root o rules r = .ok true ↔
      (Path.ofText o.outputDirectory).isUnder r = false ∧
        Scan.isSource t s root { o with outputDirectory := "." } rules r = .ok true := by
  have nothing : (Path.ofText ".").isUnder r = false := by
    have parts : (Path.ofText ".").parts = [] := by decide +kernel
    simp [Path.isUnder, parts]
  unfold Scan.isSource
  simp only [nothing, bind_eq_ok_iff]
  cases (Path.ofText o.outputDirectory).isUnder r with
  | false => simp
  | true =>
    simp only [↓reduceIte, Bool.true_eq_false, false_and, iff_false, not_exists, not_and]
    intro plain isPlain
    cases plain with
    | false => simp [pure, Except.pure]
    | true =>
      simp only [Bool.not_true, Bool.false_eq_true, ↓reduceIte, bind_eq_ok_iff, not_exists, not_and]
      intro within stays
      cases within <;> simp [pure, Except.pure]

/-- The source files are those that are not below the output directory. What lies beside it counts,
    even where its name begins with that of the directory. -/
theorem mem_sources_iff (prepared : prepare t s root out settings = .ok (chosen, directory, sources))
    (rooted : t.Rooted) (inside : Inside t s root directory top place)
    (textual : ∀ name ∈ place, Path.Textual name) :
    ∃ rules found, Scan.ignoreFiles t s root chosen.nestedIgnore = .ok rules ∧
      Scan.below t s root (·.endsWith Scan.sourceExtension) = .ok found ∧
      ∀ r, r ∈ sources ↔ r ∈ found ∧ ¬ place <+: top ++ r.names ∧
        Scan.isSource t s root (scanOptions chosen ".") rules r = .ok true := by
  obtain ⟨-, -, skipped, skips, scanned⟩ := prepare_eq_ok_iff.mp prepared
  rw [skippedDirectory_eq inside.resolved (resolve_of_status rooted inside.leads (by simp)),
    if_pos inside.below, Except.ok.injEq] at skips
  subst skips
  simp only [Scan.sources, below_eq inside.leads, bind_eq_ok_iff, mapError_eq_ok_iff, pure, Except.pure,
    Except.ok.injEq] at scanned
  obtain ⟨rules, ruled, _, rfl, kept, tested, rfl⟩ := scanned
  refine ⟨rules, _, ruled, below_eq inside.leads _, fun r => ?_⟩
  have member : r ∈ Scan.sortPaths kept ↔
      r ∈ pathsBelow t.entries top (·.endsWith Scan.sourceExtension) ∧
      Scan.isSource t s root (scanOptions chosen (Path.text { names := place.drop top.length })) rules r =
        .ok true := by
    rw [Scan.sortPaths, List.mem_mergeSort]
    exact ⟨Scan.mem_of_keep tested, fun both => Scan.mem_keep tested both.1 both.2⟩
  rw [member, isSource_iff]
  refine and_congr_right fun inTree => and_congr_left fun _ => ?_
  obtain ⟨names, name, node, rfl, -, -⟩ := mem_pathsBelow.mp inTree
  rw [← isUnder_iff textual inside.below, Bool.not_eq_true]
  rfl

/-- A run into a directory strictly below the root, without links below it, is repeated by a second one:
    with the same result, and without any change of the tree. Nothing that was written is a source file
    of the second run. This takes that the first run does not come to lead links of the tree elsewhere:
    those for settings and rules of the root are found as they were, and others that a scan looks at
    can be asked for. -/
theorem run_idempotent {result : Result} (wellFormed : t.WellFormed) (distinct : t.Distinct)
    (spelled : Spelled s out)
    (prepared : prepare t s root out settings = .ok (chosen, directory, sources))
    (inside : Inside t s root directory top place)
    (generated : (run t s root out settings).result = .ok result)
    (tree : (run t s root out settings).tree = t')
    (config : settings = none → Steady t t' s root top Settings.fileName)
    (links : LinksAgain t t' s root top chosen.nestedIgnore) :
    run t' s root out settings = run t s root out settings ∧
    prepare t' s root out settings = .ok (chosen, directory, sources) ∧
    (∃ p, (plan t s root out settings).1 = .ok p ∧ ∀ f ∈ p.files, ∀ q node,
      t'.status s f.1 = .ok (q, node) → place <+: q ∧
        ∀ r ∈ sources, ∀ node', t'.status s (root.join r) ≠ .ok (q, node')) ∧
    ∃ rules found, Scan.ignoreFiles t s root chosen.nestedIgnore = .ok rules ∧
      Scan.below t s root (·.endsWith Scan.sourceExtension) = .ok found ∧
      ∀ r, r ∈ sources ↔ r ∈ found ∧ ¬ place <+: top ++ r.names ∧
        Scan.isSource t s root (scanOptions chosen ".") rules r = .ok true := by
  obtain ⟨p, planned, written⟩ := run_ok_iff.mp ⟨⟨result, generated⟩, tree⟩
  obtain ⟨_, _, _, v, same, surveyed, -, rfl⟩ := plan_ok_iff.mp planned
  rw [prepared, Except.ok.injEq, Prod.mk.injEq, Prod.mk.injEq] at same
  obtain ⟨rfl, rfl, rfl⟩ := same
  obtain ⟨-, outputs, skipped, skips, scanned⟩ := prepare_eq_ok_iff.mp prepared
  have textual := place_textual wellFormed spelled inside.leads outputs inside.resolved
  have sound := plan_sound wellFormed scanned surveyed directory
  have nodup := nodup_relativeFiles wellFormed scanned surveyed distinct directory
  have wrote := Plan.wrote wellFormed.rooted written
  have site := Plan.site wellFormed.rooted inside.resolved inside.noLink written
  have onto : ∀ q, WrittenAt t' s (Plan.files ⟨directory, v.bodies⟩) q →
      ∃ names name, q = place ++ (names ++ [name]) ∧ name ≠ Scan.ignoreFileName := by
    rintro q ⟨f, member, bytes, found⟩
    obtain ⟨g, inPlan, -, rfl⟩ := sound.place_of_status site member found
    obtain ⟨names, name, own, -, noRules⟩ := sound.names g inPlan
    exact ⟨names, name, by rw [own], noRules⟩
  have regrown : Regrown (WrittenAt t' s (Plan.files ⟨directory, v.bodies⟩)) t t' s root top :=
    ⟨wellFormed.rooted, wrote.rooted, wrote.rewrites, inside.leads⟩
  obtain ⟨prepared', same⟩ := prepare_again regrown distinct (wrote.distinct distinct) prepared inside
    textual onto site.leads config links
  have planned' := plan_congr prepared prepared' same
  obtain ⟨rules, found, ruled, below, isSource⟩ :=
    mem_sources_iff prepared wellFormed.rooted inside textual
  refine ⟨?_, prepared', ⟨_, planned, fun f member q node leads => ?_⟩,
    rules, found, ruled, below, isSource⟩
  · have again := sound.write_same nodup wrote distinct site
    rw [run, run, planned']
    rcases decided : plan t s root out settings with ⟨fault | p, log⟩
    · simp [decided] at planned
    · obtain rfl : p = ⟨directory, v.bodies⟩ := by simpa [decided] using planned
      simp only [written, again]
  · obtain ⟨g, -, -, rfl⟩ := sound.place_of_status site member leads
    refine ⟨List.prefix_append place g.1, fun r inSources node' there => ?_⟩
    obtain ⟨names, name, bytes, rfl, -, -, before, -⟩ :=
      mem_sources wellFormed.rooted inside.leads scanned inSources
    obtain ⟨own, after, -⟩ := wrote.rewrites.status_file before
    rw [after, Except.ok.injEq, Prod.mk.injEq] at there
    exact ((isSource _).mp inSources).2.1 ⟨g.1, there.1.symm⟩

theorem neighbourTree_repeated : ∃ result t',
    (run neighbourTree ⟨[], "/home"⟩ ⟨0, ["tree"]⟩).result = .ok result ∧
    (run neighbourTree ⟨[], "/home"⟩ ⟨0, ["tree"]⟩).tree = t' ∧
    run t' ⟨[], "/home"⟩ ⟨0, ["tree"]⟩ = run neighbourTree ⟨[], "/home"⟩ ⟨0, ["tree"]⟩ ∧
    prepare t' ⟨[], "/home"⟩ ⟨0, ["tree"]⟩ none none =
      .ok ({}, pathOf ["tree", ".pymodgen"], [⟨0, [".pymodgen-kept", "now.py"]⟩]) := by
  obtain ⟨prepared, planned⟩ :=
    neighbourTree_planned none (pathOf ["tree", ".pymodgen"]) (by decide +kernel)
  obtain ⟨⟨result, generated⟩, tree⟩ := run_of_plan planned (by decide +kernel)
  have noLinks : ∀ e ∈ neighbourTree.entries, isLinkNode e.2 = false := by decide +kernel
  have inside : Inside neighbourTree ⟨[], "/home"⟩ ⟨0, ["tree"]⟩ (pathOf ["tree", ".pymodgen"]) ["tree"]
      ["tree", ".pymodgen"] :=
    ⟨eq_ok_of_toOption (by decide +kernel), eq_ok_of_toOption (by decide +kernel), by decide +kernel,
      fun names _ target => noLink_of_noLinks noLinks (by simp) target⟩
  obtain ⟨same, prepared', -⟩ := run_idempotent (by decide +kernel) (by decide +kernel)
    ⟨by simp, by simp⟩ prepared inside generated tree (fun _ => .of_noLinks noLinks _)
    (.of_noLinks noLinks _)
  exact ⟨result, _, generated, tree, same, prepared'⟩

open Verification in
/-- Once it is generated, the detour tree has other settings, and is not generated again. -/
theorem detourTree_not_repeated : ∃ result t',
    detourTree.WellFormed ∧ detourTree.Distinct ∧
    prepare detourTree ⟨[], "/home"⟩ ⟨0, ["tree"]⟩ none none =
      .ok ({}, pathOf ["tree", ".pymodgen"], []) ∧
    Inside detourTree ⟨[], "/home"⟩ ⟨0, ["tree"]⟩ (pathOf ["tree", ".pymodgen"]) ["tree"]
      ["tree", ".pymodgen"] ∧
    (run detourTree ⟨[], "/home"⟩ ⟨0, ["tree"]⟩).result = .ok result ∧
    (run detourTree ⟨[], "/home"⟩ ⟨0, ["tree"]⟩).tree = t' ∧
    (run t' ⟨[], "/home"⟩ ⟨0, ["tree"]⟩).result ≠ .ok result := by
  obtain ⟨⟨result, generated⟩, tree⟩ := run_of_plan detourTree_planned (by decide +kernel)
  have inside : Inside detourTree ⟨[], "/home"⟩ ⟨0, ["tree"]⟩ (pathOf ["tree", ".pymodgen"]) ["tree"]
      ["tree", ".pymodgen"] := by
    refine ⟨eq_ok_of_toOption (by decide +kernel), eq_ok_of_toOption (by decide +kernel),
      by decide +kernel, fun names _ target held => ?_⟩
    simpa [detourTree] using mem_of_find? (by simp) held
  refine ⟨result, _, by decide +kernel, by decide +kernel, detourTree_prepared, inside, generated, tree,
    fun again => ?_⟩
  have refused : (run (Plan.write ⟨pathOf ["tree", ".pymodgen"], []⟩ detourTree ⟨[], "/home"⟩).1
      ⟨[], "/home"⟩ ⟨0, ["tree"]⟩).result.toOption.isNone = true := by decide +kernel
  rw [again] at refused
  simp [Except.toOption] at refused

end Generation
end Bindery

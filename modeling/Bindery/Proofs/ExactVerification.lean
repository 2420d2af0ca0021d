import Bindery.Proofs.FileTree.Outside
import Bindery.Proofs.FreshVerification
import Bindery.Proofs.Listings

/- What a verification says, and what it leaves behind. The files of a directory are a map from names
   to bytes, and the three lists of the result part the names at which that map and the one of a fresh
   generation differ. All that is written lies at the place of the fresh generation; once that is
   cleared away the tree is what it was. -/
namespace Bindery

open FileTree

variable {t u : FileTree} {s : Surroundings} {root base directory : Path} {place temp : Location}

namespace Generation

/-! ### Writing inside one place -/

theorem writeFiles_outside {files : Files} (named : files.Named) (site : t.Site s base place) :
    (writeFiles t s (files.at_ base)).1.erase place = t.erase place := by
  induction files generalizing t with
  | nil => rfl
  | cons f files ih =>
    obtain ⟨path, bytes⟩ := f
    obtain ⟨⟨notEmpty, follows⟩, namedLater⟩ := List.forall_mem_cons.mp named
    obtain ⟨names, name, rfl⟩ := (List.eq_nil_or_concat' path).resolve_left notEmpty
    have above : (t.ensureDirectory s (base.join { names := names })).1.erase place = t.erase place :=
      site.ensureDirectory_outside fun other member => (follows other (by simp [member])).notUp
    simp only [Files.at_, List.map_cons, writeFiles, Path.parent_join_snoc]
    rcases made : t.ensureDirectory s (base.join { names := names }) with ⟨u, _ | fault⟩
    swap
    · rwa [made] at above
    rw [made] at above
    have grown := ensureDirectory_made site.rooted made
    have before : u.Site s base place := site.grow grown.grows grown.rooted
    cases written : u.write s (base.join { names := names ++ [name] }) bytes with
    | error fault => simpa [written] using above
    | ok w =>
      have outside := before.write_outside (fun other member => (follows other member).notUp) written
      have after := (written_of_ok site follows made written).after
      simp only [written]
      exact (ih namedLater after).trans (outside.trans above)

/-- Whatever a plan comes to below a site, it changes nothing outside it. -/
theorem Plan.Sound.write_outside {p : Plan} (sound : p.Sound) (site : t.Site s p.out place) :
    (p.write t s).1.erase place = t.erase place := by
  simp only [Plan.write, site.ensured, sound.files]
  exact writeFiles_outside sound.named site

end Generation

namespace Verification

/-! ### A place of its own -/

/-- A place that a verification can have for itself: nothing is there, it is not below the directory
    that is verified, and no link names it. -/
structure Aside (t : FileTree) (place temp : Location) : Prop where
  free : (Spot.free temp).Holds t
  textual : ∀ name ∈ temp, Path.Textual name
  outside : ¬ place <+: temp
  unnamed : t.Unnamed (temp.getLastD "")

theorem wellFormed_insert (wellFormed : t.WellFormed) (free : (Spot.free temp).Holds t)
    (textual : ∀ name ∈ temp, Path.Textual name) : (t.insert temp .dir).WellFormed := by
  refine ⟨Generation.empty_rooted wellFormed.rooted free, fun e member => ?_⟩
  have place : e.1 ∈ (t.insert temp .dir).places := List.mem_map_of_mem member
  rw [places_insert] at place
  split at place
  · obtain ⟨own, inTree, same⟩ := List.mem_map.mp place
    exact same ▸ wellFormed.textual own inTree
  · rcases List.mem_append.mp place with before | here
    · obtain ⟨own, inTree, same⟩ := List.mem_map.mp before
      exact same ▸ wellFormed.textual own inTree
    · exact List.mem_singleton.mp here ▸ textual

/-- The plan of a fresh generation writes names that can be written, to the place of its own. -/
theorem afresh_planned (wellFormed : (t.insert temp .dir).WellFormed) {p : Generation.Plan}
    (planned : (Generation.plan (t.insert temp .dir) s root (some (pathOf temp)) none).1 = .ok p) :
    p.Sound ∧ p.out = pathOf temp := by
  obtain ⟨chosen, directory, sources, v, prepared, surveyed, -, rfl⟩ :=
    Generation.plan_ok_iff.mp planned
  obtain ⟨-, outputs, skipped, -, scanned⟩ := Generation.prepare_eq_ok_iff.mp prepared
  exact ⟨Generation.plan_sound wellFormed scanned surveyed directory, (Except.ok.inj outputs).symm⟩

section Afresh

variable (wellFormed : t.WellFormed) (free : (Spot.free temp).Holds t)
  (textual : ∀ name ∈ temp, Path.Textual name)
include wellFormed free textual

/-- Whatever a fresh generation comes to, it writes to the place of its own only. -/
theorem afresh_outside : (afresh t s root temp).tree.erase temp = t := by
  have back : (t.insert temp .dir).erase temp = t :=
    (erase_insert t (List.prefix_refl temp) _).trans (erase_absent wellFormed.rooted free.1)
  unfold afresh Generation.run
  rcases planned : Generation.plan (t.insert temp .dir) s root (some (pathOf temp)) none with
    ⟨fault | p, log⟩
  · exact back
  · obtain ⟨sound, out⟩ := afresh_planned (wellFormed_insert wellFormed free textual) (by rw [planned])
    have site : (t.insert temp .dir).Site s p.out temp := out ▸ Generation.empty_site wellFormed.rooted free s
    have kept := (sound.write_outside site).trans back
    rcases written : p.write (t.insert temp .dir) s with ⟨u, _ | fault⟩ <;>
    · rw [written] at kept
      simpa [written] using kept

/-- A verification leaves the tree as it is, whatever it comes to. -/
theorem treeAfter_eq : treeAfter t s root directory temp = t := by
  unfold treeAfter
  split
  · rfl
  · exact afresh_outside wellFormed free textual

/-- A tree, and what it is after a fresh generation at a place of its own. -/
structure Regenerated (t u : FileTree) (s : Surroundings) (temp : Location) : Prop where
  grows : Grows (Generation.isGenerated temp) (t.insert temp .dir) u
  site : u.Site s (pathOf temp) temp
  distinct : t.Distinct → u.Distinct
  same : SameOutside temp t u

theorem afresh_regenerates {result : Generation.Result}
    (generated : (afresh t s root temp).result = .ok result) :
    Regenerated t (afresh t s root temp).tree s temp := by
  obtain ⟨p, planned, written⟩ := Generation.run_ok_iff.mp ⟨⟨result, generated⟩, rfl⟩
  obtain ⟨sound, out⟩ := afresh_planned (wellFormed_insert wellFormed free textual) planned
  have empty := Generation.empty_site wellFormed.rooted free s
  have wrote := Generation.Plan.wrote empty.rooted written
  obtain ⟨u, ensured, files⟩ := Generation.Plan.write_ok_iff.mp written
  rw [out, empty.ensured] at ensured
  cases ensured
  rw [sound.files, out] at files
  have fresh : ∀ f ∈ p.relativeFiles, (t.insert temp .dir).find? (temp ++ f.1) = none ∧
      Generation.isGenerated temp (temp ++ f.1) := by
    intro f member
    obtain ⟨names, name, own, writable, noRules⟩ := sound.names f member
    exact ⟨Generation.nothing_in_empty wellFormed.rooted free (by simp [own]),
      names, name, by rw [own], fun other inNames => (writable other inNames).textual, noRules⟩
  obtain ⟨grows, site⟩ := Generation.writeFiles_grows sound.named empty files (.refl _) fresh
  have kept : (afresh t s root temp).tree.erase temp = t := afresh_outside wellFormed free textual
  exact ⟨grows, site, fun distinct => wrote.distinct (distinct.insert _ _),
    sameOutside_of_erase (kept.trans (erase_absent wellFormed.rooted free.1).symm)⟩

end Afresh

namespace Regenerated

variable (regenerated : Regenerated t u s temp)
include regenerated

/-- The generated files can be listed. -/
theorem listable (rooted : t.Rooted) (free : (Spot.free temp).Holds t) (distinct : t.Distinct) :
    Listable u s (pathOf temp) temp where
  leads := regenerated.site.leads
  distinct := regenerated.distinct distinct
  asked p member := by
    obtain ⟨names, -, rfl, node, held⟩ := held_of_pathsBelow member
    exact ⟨_, status?_eq_some_iff.mpr (regenerated.site.status held)⟩
  textual p member q bytes reached := by
    obtain ⟨names, named, rfl, node, held⟩ := held_of_pathsBelow member
    rw [regenerated.site.status held, Except.ok.injEq, Prod.mk.injEq] at reached
    rw [reached.2] at held
    rcases regenerated.grows.old_or_new held with old | ⟨-, dir | ⟨⟨more, name, same, textual, -⟩, -⟩⟩
    · simp [Generation.nothing_in_empty rooted free named] at old
    · contradiction
    · rw [List.append_cancel_left_eq] at same
      exact same ▸ textual

theorem ways (free : (Spot.free temp).Holds t) : KeepsWays t u :=
  fun _ _ held _ => regenerated.grows.kept ((Generation.empty_grows free).kept held)

theorem leads_given (free : (Spot.free temp).Holds t)
    (leads : t.status s directory = .ok (place, .dir)) : u.status s directory = .ok (place, .dir) :=
  status_kept (regenerated.ways free) leads ((regenerated.ways free).dir (holds_of_status leads))

variable (wellFormed : t.WellFormed) (leads : t.status s directory = .ok (place, .dir))
  (aside : Aside t place temp)
include wellFormed leads aside

/-- The directory that is verified holds what it held. -/
theorem find?_given (names : List String) : u.find? (place ++ names) = t.find? (place ++ names) := by
  refine regenerated.same _ fun inside => ?_
  rcases List.prefix_or_prefix_of_prefix inside (List.prefix_append place names) with above | below
  · have dir := holds_of_status leads
    exact Generation.not_prefix_of_absent wellFormed.rooted aside.free.1 dir above
  · exact aside.outside below

/-- What lies below the directory that is verified leads where it led. -/
theorem asked_given {names : List String} (named : names ≠ []) {node : Node}
    (held : t.find? (place ++ names) = some node) :
    u.status? s (directory.join { names := names }) = t.status? s (directory.join { names := names }) := by
  have plain : (∀ target, node ≠ .link target) →
      u.status? s (directory.join { names := names }) =
        t.status? s (directory.join { names := names }) := by
    intro noLink
    have held' : u.find? (place ++ names) = some node := by
      rwa [regenerated.find?_given wellFormed leads aside]
    have leads' := regenerated.leads_given aside.free leads
    have found : t.status s (directory.join { names := names }) = .ok (place ++ names, node) :=
      status_join wellFormed.rooted leads held (fun _ => noLink) named
    have found' : u.status s (directory.join { names := names }) = .ok (place ++ names, node) :=
      status_join regenerated.site.rooted leads' held' (fun _ => noLink) named
    rw [status?_eq_some_iff.mpr found, status?_eq_some_iff.mpr found']
  cases node with
  | dir => exact plain (by simp)
  | file bytes => exact plain (by simp)
  | link target =>
    obtain ⟨absent, above, name, rfl, -, -⟩ := id aside.free
    exact status?_link_apart regenerated.same (by simpa using aside.unnamed)
      (regenerated.ways aside.free) wellFormed.rooted leads held absent

theorem status_given {names : List String} (named : names ≠ []) {node : Node}
    (held : t.find? (place ++ names) = some node) {found : Location × Node} :
    u.status s (directory.join { names := names }) = .ok found ↔
      t.status s (directory.join { names := names }) = .ok found := by
  rw [← status?_eq_some_iff, ← status?_eq_some_iff,
    regenerated.asked_given wellFormed leads aside named held]

/-- The files of the directory that is verified are what they were. -/
theorem filesOf_given : filesOf u s directory = filesOf t s directory := by
  have leads' := regenerated.leads_given aside.free leads
  funext name
  refine Option.ext fun bytes => ?_
  rw [filesOf_eq_some_iff leads, filesOf_eq_some_iff leads']
  refine exists_congr fun names => and_congr_right fun named => ?_
  rw [regenerated.find?_given wellFormed leads aside]
  refine and_congr_right' (and_congr_right' (and_congr_right fun held => ?_))
  obtain ⟨node, held⟩ := Option.isSome_iff_exists.mp held
  exact exists_congr fun q => regenerated.status_given wellFormed leads aside named held

/-- The files that were given can be listed, if all links among them can be followed. -/
theorem listable_given (distinct : t.Distinct)
    (askable : ∀ names target, t.find? (place ++ names) = some (.link target) →
      ∃ found, t.status? s (directory.join { names := names }) = .ok found) :
    Listable u s directory place where
  leads := regenerated.leads_given aside.free leads
  distinct := regenerated.distinct distinct
  asked p member := by
    obtain ⟨names, named, rfl, node, held⟩ := held_of_pathsBelow member
    rw [regenerated.find?_given wellFormed leads aside] at held
    rw [regenerated.asked_given wellFormed leads aside named held]
    cases node with
    | link target => exact askable _ target held
    | dir => exact ⟨_, status?_eq_some_iff.mpr
        (status_join wellFormed.rooted leads held (by simp) named)⟩
    | file bytes => exact ⟨_, status?_eq_some_iff.mpr
        (status_join wellFormed.rooted leads held (by simp) named)⟩
  textual p member q bytes reached := by
    obtain ⟨names, named, rfl, node, held⟩ := held_of_pathsBelow member
    rw [regenerated.find?_given wellFormed leads aside] at held
    exact fun name inNames =>
      wellFormed.textual _ (mem_of_find? (by simp [named]) held) name (List.mem_append_right place inNames)

end Regenerated

/-! ### The verdict -/

/-- What can be listed on both sides is compared exactly. -/
theorem runIn_exact {result : Generation.Result} (checked : checkDirectory t s directory = .ok ())
    (generated : (afresh t s root temp).result = .ok result) (tree : (afresh t s root temp).tree = u)
    (given : Listable u s directory place) (fresh : Listable u s (pathOf temp) temp) :
    ∃ r, (runIn t s root directory temp).1 = .ok r ∧
      Exact (filesOf u s directory) (filesOf u s (pathOf temp)) r := by
  obtain ⟨here, listed, ascending, ofGiven⟩ := given.lists
  obtain ⟨there, listed', ascending', ofFresh⟩ := fresh.lists
  refine ⟨compare here there, ?_, ?_⟩
  · rw [afresh] at generated tree
    simp only [runIn, checked, generated, tree, listed, listed', mapError_ok, bind, Except.bind, pure,
      Except.pure]
  · have compared := compare_exact ascending ascending'
    rwa [funext ofGiven, funext ofFresh] at compared

/-- A directory that cannot be listed is not judged. -/
theorem runIn_refused {result : Generation.Result} (checked : checkDirectory t s directory = .ok ())
    (generated : (afresh t s root temp).result = .ok result) (tree : (afresh t s root temp).tree = u)
    {fault : FileFault} (refused : filesBelow u s directory = .error fault) :
    (runIn t s root directory temp).1 = .error (.file fault) := by
  rw [afresh] at generated tree
  simp only [runIn, checked, generated, tree, refused, mapError_error, bind, Except.bind]

/-- A link below the directory that cannot be asked where it leads keeps the directory from being
    judged. -/
theorem runIn_unaskable {result : Generation.Result} (wellFormed : t.WellFormed)
    (leads : t.status s directory = .ok (place, .dir)) (aside : Aside t place temp)
    (generated : (afresh t s root temp).result = .ok result) {names : List String} {target : String}
    {fault : FileFault} (held : t.find? (place ++ names) = some (.link target))
    (refused : t.status? s (directory.join { names := names }) = .error fault) :
    ∃ fault, (runIn t s root directory temp).1 = .error (.file fault) := by
  have regenerated := afresh_regenerates wellFormed aside.free aside.textual generated
  have named : names ≠ [] := by
    rintro rfl
    simp [holds_of_status leads] at held
  have same := regenerated.asked_given wellFormed leads aside named held
  obtain ⟨own, stopped⟩ := filesBelow_refused (regenerated.leads_given aside.free leads) named
    ((regenerated.find?_given wellFormed leads aside names).trans held) (same.trans refused)
  exact ⟨own, runIn_refused (checkDirectory_ok leads) generated rfl stopped⟩

/- Verification is exact, and only reads. The tree is as it was before, however the verification ended.
   A fresh generation that fails is passed on. Where it succeeds, the result tells exactly where the
   files of the directory differ from the generated ones; only a link below the directory that cannot
   be asked where it leads keeps it from being judged. -/
theorem verification_is_exact (wellFormed : t.WellFormed) (distinct : t.Distinct)
    (leads : t.status s directory = .ok (place, .dir)) (aside : Aside t place temp) :
    treeAfter t s root directory temp = t ∧
    (∀ fault, (afresh t s root temp).result = .error fault →
      (runIn t s root directory temp).1 = .error (.generation fault)) ∧
    ∀ result, (afresh t s root temp).result = .ok result →
      ((∀ names target, t.find? (place ++ names) = some (.link target) →
          ∃ found, t.status? s (directory.join { names := names }) = .ok found) →
        ∃ r, (runIn t s root directory temp).1 = .ok r ∧
          Exact (filesOf t s directory) (filesOf (afresh t s root temp).tree s (pathOf temp)) r) ∧
      ∀ names target fault, t.find? (place ++ names) = some (.link target) →
        t.status? s (directory.join { names := names }) = .error fault →
        ∃ fault, (runIn t s root directory temp).1 = .error (.file fault) := by
  have checked : checkDirectory t s directory = .ok () := checkDirectory_ok leads
  refine ⟨treeAfter_eq wellFormed aside.free aside.textual, fun fault failed => ?_,
    fun result generated => ⟨fun askable => ?_, fun names target fault held refused => ?_⟩⟩
  · rw [afresh] at failed
    simp only [runIn, checked, failed]
  · have regenerated := afresh_regenerates wellFormed aside.free aside.textual generated
    have compared := runIn_exact checked generated rfl
      (regenerated.listable_given wellFormed leads aside distinct askable)
      (regenerated.listable wellFormed.rooted aside.free distinct)
    rwa [regenerated.filesOf_given wellFormed leads aside] at compared
  · exact runIn_unaskable wellFormed leads aside generated held refused

/-- The plan for a tree without sources, with an output outside the root. -/
theorem plan_of_no_sources (top : Location) (rooted : t.Rooted) (apart : ¬ top <+: temp)
    (parts : (t.status s root).toOption = some (top, .dir) ∧
      (t.status s (pathOf temp)).toOption = some (temp, .dir) ∧
      (Settings.load t s root).toOption = some {} ∧
      (Scan.ignoreFiles t s root false).toOption = some [] ∧
      (Scan.below t s root (·.endsWith Scan.sourceExtension)).toOption = some []) :
    (Generation.plan t s root (some (pathOf temp)) none).1 = .ok ⟨pathOf temp, []⟩ := by
  obtain ⟨leads, other, loaded, ruled, below⟩ := parts
  have skipped : Generation.skippedDirectory t s root (pathOf temp) {} =
      .ok (Path.ofText ({} : Settings).outputDirectory).text :=
    Generation.skippedDirectory_outside (resolve_of_status rooted (eq_ok_of_toOption other) (by simp))
      (resolve_of_status rooted (eq_ok_of_toOption leads) (by simp)) apart
  have scanned : Scan.sources t s root
      (Generation.scanOptions {} (Path.ofText ({} : Settings).outputDirectory).text) = .ok [] := by
    simp only [Scan.sources, bind_eq_ok_iff, mapError_eq_ok_iff, pure, Except.pure, Except.ok.injEq]
    exact ⟨[], eq_ok_of_toOption ruled, [], eq_ok_of_toOption below, [], rfl, List.mergeSort_nil⟩
  have prepared : Generation.prepare t s root (some (pathOf temp)) none = .ok ({}, pathOf temp, []) :=
    Generation.prepare_eq_ok_iff.mpr ⟨.inr ⟨rfl, eq_ok_of_toOption loaded⟩, rfl, _, skipped, scanned⟩
  exact Generation.plan_ok_iff.mpr ⟨{}, _, [], {}, prepared, rfl, rfl, rfl⟩

/-- A tree without bindings, whose output has drifted: one manifest has other bytes, one is not there,
    and there are an old file and a link to a file. -/
def driftedTree : FileTree :=
  ⟨[(["tree"], .dir), (["tree", "notes"], .file []),
    (["out"], .dir), (["out", "bindings.jsonl"], .file (Text.Utf8.ofString "stale\n")),
    (["out", "notes"], .link "../tree/notes"), (["out", "old.py"], .file [])]⟩

theorem driftedTree_verdict : ∃ r,
    (runIn driftedTree ⟨[], "/home"⟩ ⟨0, ["tree"]⟩ ⟨0, ["out"]⟩ ["tmp"]).1 = .ok r ∧
    r.isOk = false ∧ "notes" ∈ r.missing ∧ "old.py" ∈ r.missing ∧ "modules.jsonl" ∈ r.extra ∧
    "bindings.jsonl" ∈ r.mismatches ∧
    treeAfter driftedTree ⟨[], "/home"⟩ ⟨0, ["tree"]⟩ ⟨0, ["out"]⟩ ["tmp"] = driftedTree := by
  have planned : (Generation.plan (driftedTree.insert ["tmp"] .dir) ⟨[], "/home"⟩ ⟨0, ["tree"]⟩
      (some (pathOf ["tmp"])) none).1 = .ok ⟨pathOf ["tmp"], []⟩ :=
    plan_of_no_sources ["tree"] (by decide +kernel) (by decide) (by decide +kernel)
  obtain ⟨⟨result, generated⟩, tree⟩ := Generation.run_of_plan planned (by decide +kernel)
  have leads : driftedTree.status ⟨[], "/home"⟩ ⟨0, ["out"]⟩ = .ok (["out"], .dir) :=
    eq_ok_of_toOption (by decide +kernel)
  have aside : Aside driftedTree ["out"] ["tmp"] :=
    ⟨by decide +kernel, by decide +kernel, by decide, by decide +kernel⟩
  obtain ⟨kept, -, exact_⟩ := verification_is_exact (by decide +kernel) (by decide +kernel) leads aside
  obtain ⟨r, ran, told⟩ := (exact_ result generated).1 fun names target held => by
    obtain ⟨rfl, -⟩ : names = ["notes"] ∧ target = "../tree/notes" := by
      simpa [driftedTree] using mem_of_find? (by simp) held
    exact ⟨some (["tree", "notes"], .file []), eq_ok_of_toOption (by decide +kernel)⟩
  rw [afresh, tree] at told
  have listed : "notes" ∈ r.missing ∧ "old.py" ∈ r.missing ∧ "modules.jsonl" ∈ r.extra := by
    simp only [told.missing, told.extra]
    decide +kernel
  have other : "bindings.jsonl" ∈ r.mismatches := by
    rw [told.mismatches]
    exact ⟨Text.Utf8.ofString "stale\n", [], by decide +kernel⟩
  have bad : r.isOk = false := by
    rw [Bool.eq_false_iff, ne_eq, told.verdict]
    intro same
    exact absurd (congrFun same "old.py") (by decide +kernel)
  exact ⟨r, ran, bad, listed.1, listed.2.1, listed.2.2, other, kept⟩

/-! ### What cannot be judged -/

/-- The files of a directory are those that are generated, but no verdict says so. -/
def Misjudged (t : FileTree) (s : Surroundings) (root directory : Path) (temp : Location) : Prop :=
  (∃ result, (afresh t s root temp).result = .ok result) ∧
  filesOf t s directory = filesOf (afresh t s root temp).tree s (pathOf temp) ∧
  ∀ r, (runIn t s root directory temp).1 = .ok r → r.isOk = false

/-- A name that is too long. -/
def longName : String := String.ofList (List.replicate 256 'a')

theorem longName_chars : longName.toList = List.replicate 256 'a' := String.toList_ofList

theorem utf8Len_replicate (n : Nat) : String.utf8Len (List.replicate n 'a') = n := by
  induction n with
  | zero => rfl
  | succ n ih => rw [List.replicate_succ, String.utf8Len_cons, ih]; rfl

theorem longName_long : maxName < longName.utf8ByteSize :=
  Nat.lt_of_lt_of_eq (Nat.lt_succ_self maxName)
    ((utf8Len_replicate 256).symm.trans (String.utf8ByteSize_ofList _).symm)

theorem notMem_longName {c : Char} (other : c ≠ 'a') : c ∉ longName.toList := by
  rw [longName_chars, List.mem_replicate]
  exact fun ⟨_, same⟩ => other same

theorem longName_ne {name : String} (short : name.toList.length ≠ 256) : longName ≠ name := by
  rintro rfl
  rw [longName_chars, List.length_replicate] at short
  exact short rfl

theorem ofText_longName : Path.ofText longName = { names := [longName] } := by
  have textual : ∀ name ∈ [longName], Path.Textual name := by
    simpa using ⟨longName_ne (by decide), longName_ne (by decide), notMem_longName (by decide)⟩
  have text : Path.text { names := [longName] } = longName := by simp [Path.text, Path.root]
  have read := Path.ofText_text textual
  rwa [text] at read

/-- A tree whose output is what is generated, but for a link to a name that is too long. -/
def overlongTree : FileTree :=
  ⟨[(["tree"], .dir), (["out"], .dir), (["out", "bindings.jsonl"], .file []),
    (["out", "modules.jsonl"], .file []), (["out", "x"], .link longName)]⟩

theorem status?_refused {last : Bool} {p : Path} {e : FileError} (refused : t.spot s p last = .error e)
    (present : e.isAbsence = false) : t.status? s p last = .error ⟨e, p⟩ := by
  simp [FileTree.status?, FileTree.status, refused, present]

/-- A link to a name that is too long cannot be asked where it leads. -/
theorem status?_overlong {directory name home : String} (dir : t.find? [directory] = some .dir)
    (link : t.find? [directory, name] = some (.link longName))
    (passable : Followable directory) (follows : Followable name) :
    t.status? ⟨[], home⟩ ⟨0, [directory, name]⟩ = .error ⟨.nameTooLong, ⟨0, [directory, name]⟩⟩ := by
  have behind_ : t.behind true maxLinks [directory] [longName] = .error .nameTooLong := by
    have clean : longName.toList.contains '\x00' = false := by
      simpa using notMem_longName (by decide)
    rw [show maxLinks = 39 + 1 from rfl, behind, follow_eq]
    unfold followWith
    rw [dir, if_neg (by simp), clean, if_neg (by simp), if_neg (longName_ne (by decide)),
      if_pos longName_long]
  have followed : t.follow true maxLinks [] [directory, name] = .error .nameTooLong := by
    rw [follow_eq, followWith_cons rfl passable, List.nil_append, dir]
    simp only
    rw [followWith_cons dir follows, List.singleton_append, link]
    simpa [targetOf, ofText_longName, Path.isAbsolute] using behind_
  have clean : ([directory, name].any fun name => name.toList.contains '\x00') = false := by
    simpa using ⟨passable.noNull, follows.noNull⟩
  have spot : t.spot ⟨[], home⟩ ⟨0, [directory, name]⟩ = .error .nameTooLong := by
    rw [FileTree.spot, clean, if_neg (by simp)]
    exact followed
  exact status?_refused spot rfl

theorem overlongTree_refuses : overlongTree.status? ⟨[], "/home"⟩ ⟨0, ["out", "x"]⟩ =
    .error ⟨.nameTooLong, ⟨0, ["out", "x"]⟩⟩ :=
  status?_overlong rfl rfl (by decide) (by decide)

theorem overlongTree_leads :
    overlongTree.status ⟨[], "/home"⟩ ⟨0, ["out"]⟩ = .ok (["out"], .dir) :=
  rfl

theorem overlongTree_aside : Aside overlongTree ["out"] ["tmp"] := by
  refine ⟨by decide, by decide, by decide, fun e member target held => ?_⟩
  have links : ∀ e ∈ overlongTree.entries, ∀ target ∈ e.2.target?, target = longName := by
    simp [overlongTree, Node.target?]
  rw [links e member target held, ofText_longName, List.mem_singleton]
  exact (longName_ne (by decide)).symm

theorem overlongTree_misjudged :
    Misjudged overlongTree ⟨[], "/home"⟩ ⟨0, ["tree"]⟩ ⟨0, ["out"]⟩ ["tmp"] := by
  have planned : (Generation.plan (overlongTree.insert ["tmp"] .dir) ⟨[], "/home"⟩ ⟨0, ["tree"]⟩
      (some (pathOf ["tmp"])) none).1 = .ok ⟨pathOf ["tmp"], []⟩ :=
    plan_of_no_sources ["tree"] (by decide +kernel) (by decide) (by decide +kernel)
  obtain ⟨⟨result, generated⟩, tree⟩ := Generation.run_of_plan planned (by decide +kernel)
  have fresh : (Generation.Plan.write ⟨pathOf ["tmp"], []⟩ (overlongTree.insert ["tmp"] .dir)
      ⟨[], "/home"⟩).1.status ⟨[], "/home"⟩ (pathOf ["tmp"]) = .ok (["tmp"], .dir) :=
    eq_ok_of_toOption (by decide +kernel)
  have refused : overlongTree.status? ⟨[], "/home"⟩ (Path.join ⟨0, ["out"]⟩ { names := ["x"] }) =
      .error ⟨.nameTooLong, ⟨0, ["out", "x"]⟩⟩ := overlongTree_refuses
  have none_ : filesOf overlongTree ⟨[], "/home"⟩ ⟨0, ["out"]⟩ "x" = none := by
    refine Option.eq_none_iff_forall_ne_some.mpr fun bytes found => ?_
    obtain ⟨names, -, own, -, -, q, reached⟩ := (filesOf_eq_some_iff overlongTree_leads).mp found
    rw [show Path.ofText "x" = { names := ["x"] } by decide +kernel, Path.mk.injEq] at own
    obtain ⟨-, rfl⟩ := own
    rw [← status?_eq_some_iff, refused] at reached
    cases reached
  refine ⟨⟨result, generated⟩, ?_, fun r ran => ?_⟩
  · rw [afresh, tree]
    refine filesOf_ext overlongTree_leads fresh fun p member => ?_
    have known : p = ⟨0, ["bindings.jsonl"]⟩ ∨ p = ⟨0, ["modules.jsonl"]⟩ ∨ p = ⟨0, ["x"]⟩ := by
      revert p
      decide +kernel
    rcases known with rfl | rfl | rfl
    · decide +kernel
    · decide +kernel
    · exact none_.trans (by decide +kernel)
  · have link : overlongTree.find? (["out"] ++ ["x"]) = some (.link longName) := rfl
    obtain ⟨fault, stopped⟩ := runIn_unaskable (by decide +kernel) overlongTree_leads
      overlongTree_aside generated link refused
    rw [stopped] at ran
    cases ran

/-- What lies below a directory can be listed, if all of it passes these tests. -/
def Tested (t : FileTree) (s : Surroundings) (base : Path) (place : Location) : Prop :=
  (t.status s base).toOption = some (place, .dir) ∧ t.Distinct ∧
  ∀ p ∈ pathsBelow t.entries place fun _ => true,
    (t.status? s (base.join p)).toOption.isSome = true ∧ ∀ name ∈ p.names, Path.Textual name

instance : Decidable (Tested t s base place) := inferInstanceAs (Decidable (_ ∧ _ ∧ _))

theorem Tested.listable (tested : Tested t s base place) : Listable t s base place where
  leads := eq_ok_of_toOption tested.1
  distinct := tested.2.1
  asked p member := by
    obtain ⟨found, asked⟩ := Option.isSome_iff_exists.mp (tested.2.2 p member).1
    exact ⟨found, eq_ok_of_toOption asked⟩
  textual p member _ _ _ := (tested.2.2 p member).2

/-- Files that were the same before, and that differ by what the fresh generation has added. -/
theorem misjudged_of_plan {p : Generation.Plan} (place : Location) (name : String)
    (planned : (Generation.plan (t.insert temp .dir) s root (some (pathOf temp)) none).1 = .ok p)
    (tree : (p.write (t.insert temp .dir) s).1 = u)
    (written : (p.write (t.insert temp .dir) s).2.isNone = true)
    (leads : (t.status s directory).toOption = some (place, .dir))
    (given : Tested u s directory place) (fresh : Tested u s (pathOf temp) temp)
    (same : ∀ q ∈ pathsBelow t.entries place (fun _ => true) ++
      pathsBelow u.entries temp (fun _ => true),
      filesOf t s directory q.text = filesOf u s (pathOf temp) q.text)
    (differs : filesOf u s directory name ≠ filesOf u s (pathOf temp) name) :
    Misjudged t s root directory temp := by
  have leads := eq_ok_of_toOption leads
  obtain ⟨⟨result, generated⟩, tree'⟩ := Generation.run_of_plan planned written
  have outcome : (afresh t s root temp).tree = u := tree'.trans tree
  refine ⟨⟨result, generated⟩, ?_, fun r ran => ?_⟩
  · rw [outcome]
    exact filesOf_ext leads fresh.listable.leads same
  · obtain ⟨own, ran', told⟩ :=
      runIn_exact (checkDirectory_ok leads) generated outcome given.listable fresh.listable
    rw [ran', Except.ok.injEq] at ran
    subst ran
    rw [Bool.eq_false_iff, ne_eq, told.verdict]
    exact fun equal => differs (congrFun equal name)

/-- A directory that holds what is generated, and in which the place of the fresh generation is. -/
def crowdedTree : FileTree :=
  ⟨[(["bindings.jsonl"], .file []), (["modules.jsonl"], .file [])]⟩

theorem crowdedTree_misjudged :
    Misjudged crowdedTree ⟨[], "/home"⟩ ⟨1, []⟩ ⟨1, []⟩ ["tmp"] := by
  have prepared : Generation.prepare (crowdedTree.insert ["tmp"] .dir) ⟨[], "/home"⟩ ⟨1, []⟩
      (some (pathOf ["tmp"])) none = .ok ({}, pathOf ["tmp"], []) := by
    rw [← show Scan.sortPaths [] = [] from List.mergeSort_nil]
    exact Generation.prepare_of_parts "tmp" [] [] (by decide +kernel)
  exact misjudged_of_plan [] "tmp/bindings.jsonl"
    (Generation.plan_ok_iff.mpr ⟨{}, _, [], {}, prepared, rfl, rfl, rfl⟩) rfl (by decide +kernel)
    (by decide +kernel) (by decide +kernel) (by decide +kernel) (by decide +kernel) (by decide +kernel)

/-- A tree whose output is what is generated, and in which a link leads to the place of the fresh
    generation. -/
def expectantTree : FileTree :=
  ⟨[(["tree"], .dir), (["out"], .dir), (["out", "bindings.jsonl"], .file []),
    (["out", "modules.jsonl"], .file []), (["out", "x"], .link "/tmp/bindings.jsonl")]⟩

theorem expectantTree_misjudged :
    Misjudged expectantTree ⟨[], "/home"⟩ ⟨0, ["tree"]⟩ ⟨0, ["out"]⟩ ["tmp"] :=
  misjudged_of_plan ["out"] "x"
    (plan_of_no_sources ["tree"] (by decide +kernel) (by decide) (by decide +kernel)) rfl
    (by decide +kernel) (by decide +kernel) (by decide +kernel) (by decide +kernel) (by decide +kernel)
    (by decide +kernel)

/-- Directories whose files are exactly those that are generated, and that do not verify: one with a link
    that cannot be asked where it leads, one around the place of the fresh generation, and one with a
    link into it. -/
theorem same_files_misjudged :
    (overlongTree.WellFormed ∧ overlongTree.Distinct ∧ Aside overlongTree ["out"] ["tmp"] ∧
      overlongTree.status ⟨[], "/home"⟩ ⟨0, ["out"]⟩ = .ok (["out"], .dir) ∧
      Misjudged overlongTree ⟨[], "/home"⟩ ⟨0, ["tree"]⟩ ⟨0, ["out"]⟩ ["tmp"]) ∧
    (crowdedTree.WellFormed ∧ crowdedTree.Distinct ∧ (Spot.free ["tmp"]).Holds crowdedTree ∧
      Misjudged crowdedTree ⟨[], "/home"⟩ ⟨1, []⟩ ⟨1, []⟩ ["tmp"]) ∧
    expectantTree.WellFormed ∧ expectantTree.Distinct ∧ (Spot.free ["tmp"]).Holds expectantTree ∧
      ¬ ["out"] <+: ["tmp"] ∧
      Misjudged expectantTree ⟨[], "/home"⟩ ⟨0, ["tree"]⟩ ⟨0, ["out"]⟩ ["tmp"] :=
  ⟨⟨by decide, by decide, overlongTree_aside, overlongTree_leads,
      overlongTree_misjudged⟩,
    ⟨by decide, by decide, by decide, crowdedTree_misjudged⟩,
    by decide, by decide, by decide, by decide, expectantTree_misjudged⟩

end Verification
end Bindery

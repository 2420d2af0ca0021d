import Bindery.Proofs.Regeneration
import Bindery.Verification

/- Verification of what was generated afresh. The files below the place of the generation are the
   ones that it has written, and the second generation writes the same ones to a directory of its
   own; so the two listings have the same members, and nothing differs. -/
namespace Bindery

open FileTree

variable {t t' t₃ : FileTree} {s : Surroundings} {root base : Path} {top place temp : Location}
  {out : Option Path} {settings : Settings}

namespace Verification

/-! ### Listings -/

/-- What a listing says of a path below a place. -/
def listed? (t : FileTree) (place : Location) (p : Path) : Option (String × List UInt8) :=
  match t.find? (place ++ p.names) with
  | some (.file bytes) => some (p.text, bytes)
  | _ => none

theorem collect_eq (site : t.Site s base place) {ps : List Path}
    (held : ∀ p ∈ ps, p.slashes = 0 ∧ (t.find? (place ++ p.names)).isSome = true) :
    filesBelow.collect t s base ps = .ok (ps.filterMap (listed? t place)) := by
  induction ps with
  | nil => rfl
  | cons p ps ih =>
    obtain ⟨⟨relative, inTree⟩, later⟩ := List.forall_mem_cons.mp held
    obtain ⟨node, here⟩ := Option.isSome_iff_exists.mp inTree
    have own : p = { names := p.names } := by rw [← relative]
    have asked : t.status? s (base.join p) = .ok (some (place ++ p.names, node)) := by
      rw [own]
      exact status?_eq_some_iff.mpr (site.status here)
    rw [filesBelow.collect, asked, ih later]
    cases node <;> simp [listed?, here, bind, Except.bind, pure, Except.pure]

/-- The listing of a directory has the files that are below it, under their relative paths. -/
theorem filesBelow_lists (site : t.Site s base place) :
    ∃ files, filesBelow t s base = .ok files ∧ ∀ name bytes, (name, bytes) ∈ files ↔
      ∃ names, names ≠ [] ∧ name = Path.text { names := names } ∧
        t.find? (place ++ names) = some (.file bytes) := by
  have held : ∀ p ∈ pathsBelow t.entries place fun _ => true,
      p.slashes = 0 ∧ (t.find? (place ++ p.names)).isSome = true := by
    intro p member
    obtain ⟨names, name, node, rfl, -, inTree⟩ := mem_pathsBelow.mp member
    exact ⟨rfl, find?_isSome_of_mem inTree⟩
  refine ⟨_, by
    simp only [filesBelow, below_eq site.leads, collect_eq site held, bind, Except.bind, pure,
      Except.pure]; rfl, fun name bytes => ?_⟩
  rw [List.mem_mergeSort, List.mem_filterMap]
  constructor
  · rintro ⟨p, member, listed⟩
    obtain ⟨names, last, node, rfl, -, -⟩ := mem_pathsBelow.mp member
    simp only [listed?] at listed
    split at listed
    · rename_i own here
      cases listed
      exact ⟨names ++ [last], by simp, rfl, here⟩
    · contradiction
  · rintro ⟨names, named, rfl, here⟩
    obtain ⟨names, last, rfl⟩ := (List.eq_nil_or_concat' names).resolve_left named
    have inTree := mem_of_find? (by simp) here
    exact ⟨{ names := names ++ [last] }, mem_pathsBelow.mpr ⟨names, last, _, rfl, rfl, inTree⟩,
      by simp [listed?, here]⟩

/-- Two listings with the same members do not differ, if no name is listed twice. -/
theorem compare_same {given generated : List (String × List UInt8)}
    (same : ∀ f, f ∈ given ↔ f ∈ generated)
    (functional : ∀ name a b, (name, a) ∈ given → (name, b) ∈ given → a = b) :
    compare given generated = ⟨[], [], []⟩ := by
  have onlyIn_nil : ∀ {fs gs : List (String × List UInt8)}, (∀ f ∈ fs, f ∈ gs) → onlyIn fs gs = [] := by
    intro fs gs within
    rw [onlyIn, List.filter_eq_nil_iff]
    rintro name member
    obtain ⟨f, inFs, rfl⟩ := List.mem_map.mp member
    simpa using ⟨f.2, within f inFs⟩
  simp only [compare, Result.mk.injEq]
  refine ⟨onlyIn_nil fun f => (same f).mp, onlyIn_nil fun f => (same f).mpr, ?_⟩
  rw [List.map_eq_nil_iff, List.filter_eq_nil_iff]
  rintro ⟨name, bytes⟩ member
  cases found : generated.lookup name with
  | none => simp
  | some bytes' =>
    have inGiven : (name, bytes') ∈ given := by
      obtain ⟨before, after, split_, -⟩ := List.lookup_eq_some_iff.mp found
      exact (same _).mpr (by simp [split_])
    simp [functional name bytes bytes' member inGiven]

/-- A path that leads to a directory passes the check. -/
theorem checkDirectory_ok (leads : t.status s base = .ok (place, .dir)) :
    checkDirectory t s base = .ok () := by
  simp [checkDirectory, status?_eq_some_iff.mpr leads, bind, Except.bind, pure,
    Except.pure]

end Verification

/-! ### Two generations -/

namespace Generation.Repeated

variable {directory given : Path} (repeated : Repeated t t' t₃ s directory place temp)
include repeated

/-- The second generation leaves the files of the first one as they are. -/
theorem kept (free : (Spot.free temp).Holds t') (beside : ¬ place <+: temp) (names : List String)
    (bytes : List UInt8) : t₃.find? (place ++ names) = some (.file bytes) ↔
      t'.find? (place ++ names) = some (.file bytes) := by
  constructor
  · intro held
    rcases repeated.second.old_or_new held with old | ⟨-, dir | ⟨new, -⟩⟩
    · rw [find?_empty free] at old
      split at old
      · simp at old
      · exact old
    · contradiction
    · rcases List.prefix_or_prefix_of_prefix (List.prefix_append place names) new with around | inside
      · exact absurd around beside
      · exact absurd inside (not_prefix_of_absent repeated.site.rooted free.1 repeated.site.dir)
  · intro held
    exact repeated.second.kept ((empty_grows free).kept held)

/-- Where nothing was, all names below are those of generated files, which can be told apart. -/
theorem textual (rooted : t.Rooted) (absent : t.find? place = none) {names : List String}
    {bytes : List UInt8} (held : t'.find? (place ++ names) = some (.file bytes)) :
    ∀ name ∈ names, Path.Textual name := by
  rcases repeated.first.old_or_new held with old | ⟨-, dir | ⟨⟨more, last, same, textual, -⟩, -⟩⟩
  · simp [rooted.none_below absent names] at old
  · contradiction
  · rw [List.append_cancel_left_eq] at same
    exact same ▸ textual

/-- The place of the first generation is still reached after the second one. -/
theorem still (free : (Spot.free temp).Holds t') (leads : t'.status s given = .ok (place, .dir)) :
    t₃.Site s given place := by
  refine ⟨repeated.other.rooted, ?_, fun names target held => ?_⟩
  · exact repeated.second.status_kept ((empty_grows free).status_kept leads)
  · have old := (empty_grows free).link_iff.mp (repeated.second.link_iff.mp held)
    exact repeated.site.noLink names target old

/-- The files of both generations are the same. -/
theorem same_listings (rooted : t.Rooted) (absent : t.find? place = none)
    (free : (Spot.free temp).Holds t') (beside : ¬ place <+: temp)
    (leads : t'.status s given = .ok (place, .dir)) :
    ∃ here there, Verification.filesBelow t₃ s given = .ok here ∧
      Verification.filesBelow t₃ s (pathOf temp) = .ok there ∧
      Verification.compare here there = ⟨[], [], []⟩ := by
  obtain ⟨here, listedHere, mem_here⟩ := Verification.filesBelow_lists (repeated.still free leads)
  obtain ⟨there, listedThere, mem_there⟩ := Verification.filesBelow_lists repeated.other
  refine ⟨here, there, listedHere, listedThere, Verification.compare_same ?_ ?_⟩
  · rintro ⟨name, bytes⟩
    rw [mem_here, mem_there]
    simp only [repeated.kept free beside, repeated.mirrors.files]
  · intro name a b first second
    obtain ⟨names, -, rfl, held⟩ := (mem_here _ _).mp first
    obtain ⟨names', -, text, held'⟩ := (mem_here _ _).mp second
    rw [repeated.kept free beside] at held held'
    obtain rfl := Path.text_injective (repeated.textual rooted absent held)
      (repeated.textual rooted absent held') text
    simpa [held] using held'

end Generation.Repeated

namespace Verification

/- A tree that was generated afresh verifies: nothing is missing, nothing is extra, and no file has
   other bytes. The place of the generation is the one of the settings or one outside the root; the
   second generation goes to an empty directory apart from both. Links that led nowhere may not come
   to matter by what was generated. -/
theorem fresh_generation_verifies {result : Generation.Result} (wellFormed : t.WellFormed)
    (leads : t.status s root = .ok (top, .dir)) (loaded : Settings.load t s root = .ok settings)
    (destination : Generation.Destination t s root top settings out place)
    (absent : t.find? place = none) (generated : (Generation.run t s root out).result = .ok result)
    (tree : (Generation.run t s root out).tree = t') (free : (Spot.free temp).Holds t')
    (apart : ¬ top <+: temp) (beside : ¬ place <+: temp)
    (links : LinksStay t (t'.insert temp .dir) s root top) :
    (∃ directory, Generation.outputOf t s root out settings = .ok directory ∧
      t'.status s directory = .ok (place, .dir)) ∧
    ∀ directory, t'.status s directory = .ok (place, .dir) →
      (runIn t' s root directory temp).1 = .ok ⟨[], [], []⟩ := by
  obtain ⟨chosen, result', t₃, outputs, again, tree', repeated⟩ :=
    Generation.run_again wellFormed leads loaded destination absent generated tree free apart links
  refine ⟨⟨chosen, outputs, repeated.site.leads⟩, fun directory leads' => ?_⟩
  obtain ⟨here, there, listedHere, listedThere, same⟩ :=
    repeated.same_listings wellFormed.rooted absent free beside leads'
  simp only [runIn, checkDirectory_ok leads', again, tree', listedHere, listedThere, same,
    mapError_ok, bind, Except.bind, pure, Except.pure]

/-! ### Two trees -/

/-- A tree with one source file that binds a function. -/
def clockTree : FileTree :=
  ⟨[(["tree"], .dir),
    (["tree", "clock.py"], .file (Text.Utf8.ofString "@pyfunction\ndef now():\n    pass\n"))]⟩

/-- What the source file of the clock tree comes to. -/
def clockSurvey : Generation.Survey :=
  (Generation.Survey.along clockTree ⟨[], "/home"⟩ ⟨0, ["tree"]⟩ {} {} [⟨0, ["clock.py"]⟩]).1

def clockPlan : Generation.Plan := ⟨pathOf ["tree", ".pymodgen"], clockSurvey.bodies⟩

theorem clockTree_planned :
    (Generation.plan clockTree ⟨[], "/home"⟩ ⟨0, ["tree"]⟩ none none).1 = .ok clockPlan := by
  have prepared : Generation.prepare clockTree ⟨[], "/home"⟩ ⟨0, ["tree"]⟩ none none =
      .ok ({}, pathOf ["tree", ".pymodgen"], [⟨0, ["clock.py"]⟩]) := by
    rw [← show Scan.sortPaths [⟨0, ["clock.py"]⟩] = [⟨0, ["clock.py"]⟩] from List.mergeSort_singleton _]
    exact Generation.prepare_of_parts ".pymodgen" [] [⟨0, ["clock.py"]⟩] (by decide +kernel)
  rw [clockPlan, clockSurvey]
  exact Generation.plan_of_prepared prepared (by decide +kernel)

theorem clockTree_generated : ∃ result t',
    (Generation.run clockTree ⟨[], "/home"⟩ ⟨0, ["tree"]⟩).result = .ok result ∧
    (Generation.run clockTree ⟨[], "/home"⟩ ⟨0, ["tree"]⟩).tree = t' ∧ (Spot.free ["tmp"]).Holds t' ∧
    t'.status ⟨[], "/home"⟩ (pathOf ["tree", ".pymodgen"]) = .ok (["tree", ".pymodgen"], .dir) := by
  have written : (clockPlan.write clockTree ⟨[], "/home"⟩).2.isNone = true ∧
      (Spot.free ["tmp"]).Holds (clockPlan.write clockTree ⟨[], "/home"⟩).1 ∧
      ((clockPlan.write clockTree ⟨[], "/home"⟩).1.status ⟨[], "/home"⟩
        (pathOf ["tree", ".pymodgen"])).toOption = some (["tree", ".pymodgen"], .dir) := by
    decide +kernel
  obtain ⟨done, free, leads⟩ := written
  obtain ⟨⟨result, generated⟩, tree⟩ := Generation.run_of_plan clockTree_planned done
  exact ⟨result, _, generated, tree, free, eq_ok_of_toOption leads⟩

theorem clockTree_verifies : ∃ t', (Generation.run clockTree ⟨[], "/home"⟩ ⟨0, ["tree"]⟩).tree = t' ∧
    (runIn t' ⟨[], "/home"⟩ ⟨0, ["tree"]⟩ (pathOf ["tree", ".pymodgen"]) ["tmp"]).1 =
      .ok ⟨[], [], []⟩ := by
  obtain ⟨result, t', generated, tree, free, leads⟩ := clockTree_generated
  have destination : Generation.Destination clockTree ⟨[], "/home"⟩ ⟨0, ["tree"]⟩ ["tree"] {} none
      ["tree", ".pymodgen"] := by
    refine .configured (by decide +kernel) fun k target held => ?_
    simpa [clockTree] using mem_of_find? (by simp) held
  have verified := fresh_generation_verifies (by decide +kernel) (eq_ok_of_toOption (by decide +kernel))
    (eq_ok_of_toOption (by decide +kernel)) destination (by decide +kernel) generated tree free
    (by decide) (by decide) (.of_noLinks (by decide +kernel))
  exact ⟨t', tree, verified.2 _ leads⟩

/-- A tree whose settings lead through the output directory: as long as that is not there, the link
    leads nowhere, and the settings are the default ones. -/
def detourTree : FileTree :=
  ⟨[(["tree"], .dir), (["tree", "strict.toml"], .file (Text.Utf8.ofString "bogus = 1\n")),
    (["tree", "pymodgen.toml"], .link ".pymodgen/../strict.toml")]⟩

theorem detourTree_prepared : Generation.prepare detourTree ⟨[], "/home"⟩ ⟨0, ["tree"]⟩ none none =
    .ok ({}, pathOf ["tree", ".pymodgen"], []) := by
  rw [← show Scan.sortPaths [] = [] from List.mergeSort_nil]
  exact Generation.prepare_of_parts ".pymodgen" [] [] (by decide +kernel)

theorem detourTree_planned :
    (Generation.plan detourTree ⟨[], "/home"⟩ ⟨0, ["tree"]⟩ none none).1 =
      .ok ⟨pathOf ["tree", ".pymodgen"], []⟩ :=
  Generation.plan_ok_iff.mpr ⟨{}, _, [], {}, detourTree_prepared, rfl, rfl, rfl⟩

/-- Once it is generated, the detour tree has other settings, and does not verify. -/
theorem detourTree_does_not_verify : ∃ result t',
    detourTree.WellFormed ∧ detourTree.status ⟨[], "/home"⟩ ⟨0, ["tree"]⟩ = .ok (["tree"], .dir) ∧
    Settings.load detourTree ⟨[], "/home"⟩ ⟨0, ["tree"]⟩ = .ok {} ∧
    Generation.Destination detourTree ⟨[], "/home"⟩ ⟨0, ["tree"]⟩ ["tree"] {} none
      ["tree", ".pymodgen"] ∧
    detourTree.find? ["tree", ".pymodgen"] = none ∧
    (Generation.run detourTree ⟨[], "/home"⟩ ⟨0, ["tree"]⟩).result = .ok result ∧
    (Generation.run detourTree ⟨[], "/home"⟩ ⟨0, ["tree"]⟩).tree = t' ∧
    (Spot.free ["tmp"]).Holds t' ∧ ¬ ["tree"] <+: ["tmp"] ∧ ¬ ["tree", ".pymodgen"] <+: ["tmp"] ∧
    t'.status ⟨[], "/home"⟩ (pathOf ["tree", ".pymodgen"]) = .ok (["tree", ".pymodgen"], .dir) ∧
    (runIn t' ⟨[], "/home"⟩ ⟨0, ["tree"]⟩ (pathOf ["tree", ".pymodgen"]) ["tmp"]).1 ≠
      .ok ⟨[], [], []⟩ := by
  obtain ⟨⟨result, generated⟩, tree⟩ := Generation.run_of_plan detourTree_planned (by decide +kernel)
  refine ⟨result, _, by decide +kernel, eq_ok_of_toOption (by decide +kernel),
    eq_ok_of_toOption (by decide +kernel), .configured (by decide +kernel) fun k target held => ?_,
    by decide +kernel, generated, tree, by decide +kernel, by decide, by decide,
    eq_ok_of_toOption (by decide +kernel), fun verified => ?_⟩
  · have inTree := mem_of_find? (by simp) held
    have strict : (Path.ofText ({} : Settings).outputDirectory).names.take k ≠ ["pymodgen.toml"] := by
      intro same
      have inNames : "pymodgen.toml" ∈ (Path.ofText ({} : Settings).outputDirectory).names :=
        List.mem_of_mem_take (same ▸ List.mem_singleton_self _)
      exact absurd inNames (by decide +kernel)
    simp [detourTree, strict] at inTree
  · have refused := congrArg Except.toOption verified
    exact absurd refused (by decide +kernel)

end Verification
end Bindery

import Bindery.Proofs.PathTexts
import Bindery.Proofs.Rescans
import Bindery.Proofs.Surveys
import Bindery.Proofs.Writing

/- Generating a tree a second time, to another place. The first generation adds nothing that the
   second one reads, so both have the same plan but for the place; and what the plan writes to a
   place where nothing was, it writes to an empty directory as well. -/
namespace Bindery

open FileTree

/-- A tree as file systems have them: rooted, and with names that paths can hold. -/
structure FileTree.WellFormed (t : FileTree) : Prop where
  rooted : t.Rooted
  textual : ∀ e ∈ t.entries, ∀ name ∈ e.1, Path.Textual name

instance (t : FileTree) : Decidable t.WellFormed :=
  decidable_of_iff (t.Rooted ∧ ∀ e ∈ t.entries, ∀ name ∈ e.1, Path.Textual name)
    ⟨fun ⟨rooted, textual⟩ => ⟨rooted, textual⟩, fun h => ⟨h.rooted, h.textual⟩⟩

namespace Generation

variable {t u : FileTree} {s : Surroundings} {root : Path} {top place temp : Location}
  {out : Option Path} {settings : Settings} {fileAt : Location → Prop}

/-! ### What a plan writes -/

/-- The files of a plan by their names below the output directory. -/
def Plan.relativeFiles (p : Plan) : Files :=
  p.bodies.map (fun b => ((Path.ofText b.path).names, Text.Utf8.ofString b.expansion.source)) ++
  [([Manifest.bindingsName], Manifest.bytes (p.bindings.map Manifest.BindingRecord.value)),
   ([Manifest.modulesName], Manifest.bytes (p.modules.map Manifest.ModuleRecord.value))]

theorem Plan.files_eq {p : Plan} (relative : ∀ b ∈ p.bodies, (Path.ofText b.path).slashes = 0) :
    p.files = p.relativeFiles.at_ p.out := by
  have same : p.bodies.map (fun b =>
        (p.out.join (Path.ofText b.path), Text.Utf8.ofString b.expansion.source)) =
      (p.bodies.map fun b => ((Path.ofText b.path).names, Text.Utf8.ofString b.expansion.source)).map
        fun f => (p.out.join { names := f.1 }, f.2) := by
    rw [List.map_map]
    refine List.map_congr_left fun b member => ?_
    have own : Path.ofText b.path = { names := (Path.ofText b.path).names } := by
      rw [← relative b member]
    simp only [Function.comp_apply]
    rw [← own]
  simp only [Plan.files, Plan.relativeFiles, Files.at_, List.map_append, same, child_eq_join]
  rfl

/-- Where generated files may be: below the output directory, under names that are no rules. -/
def isGenerated (place q : Location) : Prop :=
  ∃ names name, q = place ++ (names ++ [name]) ∧ (∀ other ∈ names ++ [name], Path.Textual other) ∧
    name ≠ Scan.ignoreFileName

/-- A source file is a plain file below the root, and not below the output directory. -/
theorem mem_sources (rooted : t.Rooted) {o : Scan.Options} {ps : List Path}
    (leads : t.status s root = .ok (top, .dir)) (scanned : Scan.sources t s root o = .ok ps) {p : Path}
    (member : p ∈ ps) : ∃ names name bytes, p = { names := names ++ [name] } ∧
      name.endsWith Scan.sourceExtension = true ∧
      t.find? (top ++ (names ++ [name])) = some (.file bytes) ∧
      t.status s (root.join p) = .ok (top ++ (names ++ [name]), .file bytes) ∧
      (Path.ofText o.outputDirectory).isUnder p = false := by
  simp only [Scan.sources, below_eq leads, bind_eq_ok_iff, mapError_eq_ok_iff, pure, Except.pure,
    Except.ok.injEq] at scanned
  obtain ⟨rules, -, _, rfl, kept, tested, rfl⟩ := scanned
  obtain ⟨inBelow, isSource⟩ := Scan.mem_of_keep tested (List.mem_mergeSort.mp member)
  obtain ⟨names, name, node, rfl, named, inTree⟩ := mem_pathsBelow.mp inBelow
  simp only [Scan.isSource, bind_eq_ok_iff, mapError_eq_ok_iff] at isSource
  obtain ⟨plain, isPlain, within⟩ := isSource
  cases plain with
  | false => simp [pure, Except.pure] at within
  | true =>
    obtain ⟨bytes, held, itself⟩ :=
      held_of_isPlainFile rooted leads (by simp) (find?_isSome_of_mem inTree) isPlain
    refine ⟨names, name, bytes, rfl, named, held, itself, ?_⟩
    simp only [staysWithin_of_status rooted leads itself, Bool.not_true, Bool.false_eq_true, ↓reduceIte,
      bind, Except.bind, pure, Except.pure] at within
    by_contra under
    simp [Bool.of_not_eq_false under] at within

/-- Only a directory has source files. -/
theorem leads_of_mem_sources {o : Scan.Options} {ps : List Path}
    (scanned : Scan.sources t s root o = .ok ps) {p : Path} (member : p ∈ ps) :
    ∃ top, t.status s root = .ok (top, .dir) := by
  simp only [Scan.sources, bind_eq_ok_iff, mapError_eq_ok_iff, pure, Except.pure,
    Except.ok.injEq] at scanned
  obtain ⟨rules, -, found, below, kept, tested, rfl⟩ := scanned
  obtain ⟨inBelow, -⟩ := Scan.mem_of_keep tested (List.mem_mergeSort.mp member)
  simp only [Scan.below, bind_eq_ok_iff] at below
  obtain ⟨asked, leads, result⟩ := below
  split at result
  · rename_i top
    exact ⟨top, status?_eq_some_iff.mp leads⟩
  · cases result
    simp at inBelow

/-- A name that generated files can have below the output directory. -/
structure Writable (name : String) : Prop where
  follows : Followable name
  textual : Path.Textual name

/-- A path that source files can have below the root. -/
def SourcePath (p : Path) : Prop :=
  ∃ names name, p = { names := names ++ [name] } ∧ name.endsWith Scan.sourceExtension = true ∧
    ∀ other ∈ names ++ [name], Writable other

/-- The path of a source file is read back from its text. -/
theorem SourcePath.ofText_text {p : Path} (path : SourcePath p) : Path.ofText p.text = p := by
  obtain ⟨names, name, rfl, -, writable⟩ := path
  exact Path.ofText_text fun other member => (writable other member).textual

theorem sourcePath_of_mem (wellFormed : t.WellFormed) {o : Scan.Options} {ps : List Path}
    (scanned : Scan.sources t s root o = .ok ps) {p : Path} (member : p ∈ ps) : SourcePath p := by
  obtain ⟨top, leads⟩ := leads_of_mem_sources scanned member
  obtain ⟨names, name, bytes, rfl, named, held, -, -⟩ :=
    mem_sources wellFormed.rooted leads scanned member
  exact ⟨names, name, rfl, named, fun other inNames =>
    ⟨wellFormed.rooted.followable held other inNames,
      wellFormed.textual _ (mem_of_find? (by simp) held) other (List.mem_append_right top inNames)⟩⟩

theorem sourcePath_of_body (wellFormed : t.WellFormed) {o : Scan.Options} {ps : List Path}
    (scanned : Scan.sources t s root o = .ok ps) {v : Survey}
    (ended : Survey.along t s root settings {} ps = (v, none)) {b : Body} (member : b ∈ v.bodies) :
    ∃ p, SourcePath p ∧ b.path = p.text := by
  obtain ⟨p, isSource, path⟩ := (Survey.mem_bodies ended member).resolve_left (by simp)
  exact ⟨p, sourcePath_of_mem wellFormed scanned isSource, path⟩

theorem relativeFiles_names {p : Plan} (bodies : ∀ b ∈ p.bodies, ∃ r, SourcePath r ∧ b.path = r.text)
    {f : List String × List UInt8} (member : f ∈ p.relativeFiles) :
    ∃ names name, f.1 = names ++ [name] ∧ (∀ other ∈ names ++ [name], Writable other) ∧
      name ≠ Scan.ignoreFileName := by
  have manifest : ∀ name ∈ Manifest.names, Writable name ∧ name ≠ Scan.ignoreFileName := by
    simp only [Manifest.names, List.forall_mem_cons, List.not_mem_nil, false_implies, implies_true,
      and_true]
    exact ⟨⟨⟨by decide, by decide⟩, by decide⟩, ⟨⟨by decide, by decide⟩, by decide⟩⟩
  simp only [Plan.relativeFiles, List.mem_append, List.mem_map, List.mem_cons, List.not_mem_nil,
    or_false] at member
  rcases member with ⟨b, inBodies, rfl⟩ | rfl | rfl
  · obtain ⟨r, path, text⟩ := bodies b inBodies
    have own := path.ofText_text
    obtain ⟨names, name, rfl, named, writable⟩ := path
    refine ⟨names, name, by rw [text, own], writable, ?_⟩
    rintro rfl
    exact absurd named (by decide +kernel)
  · obtain ⟨writable, noRules⟩ := manifest Manifest.bindingsName (by simp [Manifest.names])
    exact ⟨[], _, rfl, by simpa using writable, noRules⟩
  · obtain ⟨writable, noRules⟩ := manifest Manifest.modulesName (by simp [Manifest.names])
    exact ⟨[], _, rfl, by simpa using writable, noRules⟩

/-! ### Where a tree is generated -/

/-- The place of an output directory: the one that the settings name below the root, without links on
    the way, or one outside the root that is given. -/
inductive Destination (t : FileTree) (s : Surroundings) (root : Path) (top : Location)
    (settings : Settings) : Option Path → Location → Prop where
  | configured
      (notUp : ∀ name ∈ (Path.ofText settings.outputDirectory).names, name ≠ "..")
      (noLink : ∀ k target, t.find? (top ++ (Path.ofText settings.outputDirectory).names.take k) ≠
        some (.link target)) :
      Destination t s root top settings none
        (top ++ (Path.ofText settings.outputDirectory).names)
  | given {out : Path} {place : Location} (resolved : t.resolve s out = .ok place)
      (outside : ¬ top <+: place) : Destination t s root top settings (some out) place

theorem outputName?_eq {out : Path} (resolved : t.resolve s out = .ok place)
    (root_ : t.resolve s root = .ok top) :
    outputName? t s out root = .ok (if isBelow top place then
      some (Path.text { names := place.drop top.length }) else none) := by
  simp only [outputName?, resolved, root_, bind, Except.bind, pure, Except.pure]
  split <;> rfl

/-- Strictly below the root, the output directory itself is the one that is skipped. -/
theorem skippedDirectory_eq {out : Path} (resolved : t.resolve s out = .ok place)
    (root_ : t.resolve s root = .ok top) :
    skippedDirectory t s root out settings = .ok (if isBelow top place then
      Path.text { names := place.drop top.length } else (Path.ofText settings.outputDirectory).text) := by
  rw [skippedDirectory, outputName?_eq resolved root_]
  cases isBelow top place <;> rfl

/-- Outside the root, the directory of the settings is the one that is skipped. -/
theorem skippedDirectory_outside {out : Path} (resolved : t.resolve s out = .ok place)
    (root_ : t.resolve s root = .ok top) (outside : ¬ top <+: place) :
    skippedDirectory t s root out settings = .ok (Path.ofText settings.outputDirectory).text := by
  have notBelow : isBelow top place = false := by
    rw [Bool.eq_false_iff]
    intro below
    obtain ⟨names, -, rfl⟩ := isBelow_iff.mp below
    exact outside (List.prefix_append top names)
  rw [skippedDirectory_eq resolved root_, notBelow, if_neg Bool.false_ne_true]

theorem outputPlace_eq_ok_iff {directory : String} :
    Settings.outputPlace t s root directory = .ok place ↔
      directory.isEmpty = false ∧ directory.startsWith "~" = false ∧
      (Path.ofText directory).isAbsolute = false ∧ ∃ top, t.resolve s root = .ok top ∧
        t.resolve s ((pathOf top).join (Path.ofText directory)) = .ok place ∧ top <+: place := by
  unfold Settings.outputPlace
  cases empty : directory.isEmpty
  swap
  · simp [bind, Except.bind]
  cases home : directory.startsWith "~"
  swap
  · simp [bind, Except.bind]
  cases absolute : (Path.ofText directory).isAbsolute
  swap
  · simp [absolute, bind, Except.bind]
  simp only [absolute, Bool.or_self, Bool.false_eq_true, ↓reduceIte, bind_eq_ok_iff,
    mapError_eq_ok_iff, pure, Except.pure, true_and]
  constructor
  · rintro ⟨top, root_, place', resolved, within⟩
    split at within
    · rename_i inside
      cases within
      exact ⟨top, root_, resolved, List.isPrefixOf_iff_prefix.mp inside⟩
    · contradiction
  · rintro ⟨top, root_, resolved, inside⟩
    refine ⟨top, root_, place, resolved, ?_⟩
    rw [if_pos (List.isPrefixOf_iff_prefix.mpr inside)]

/-- The output directory is resolved to the destination. -/
theorem Destination.resolved (wellFormed : t.WellFormed) (leads : t.status s root = .ok (top, .dir))
    (destination : Destination t s root top settings out place) {directory : Path}
    (outputs : outputOf t s root out settings = .ok directory) :
    t.resolve s directory = .ok place ∧
      (out = none → directory = pathOf place ∧ (Path.ofText settings.outputDirectory).slashes = 0) := by
  cases destination with
  | given resolved outside =>
    cases outputs
    exact ⟨resolved, by simp⟩
  | configured notUp noLink =>
    have root_ : t.resolve s root = .ok top := resolve_of_status wellFormed.rooted leads (by simp)
    simp only [outputOf, bind_eq_ok_iff, mapError_eq_ok_iff, pure, Except.pure,
      Except.ok.injEq] at outputs
    obtain ⟨place, named, rfl⟩ := outputs
    obtain ⟨-, -, relative, top', sameRoot, resolved, -⟩ := outputPlace_eq_ok_iff.mp named
    rw [root_] at sameRoot
    cases sameRoot
    have slashes : (Path.ofText settings.outputDirectory).slashes = 0 := by
      simpa [Path.isAbsolute] using relative
    have joined : (pathOf top).join (Path.ofText settings.outputDirectory) =
        pathOf (top ++ (Path.ofText settings.outputDirectory).names) := by
      simp [Path.join, relative, pathOf]
    rw [joined] at resolved
    have dir : t.find? ([] ++ top) = some .dir := holds_of_status leads
    obtain rfl : place = top ++ (Path.ofText settings.outputDirectory).names := by
      refine resolve_plain (fun name member => ?_) (fun k target => ?_) resolved
      · rcases List.mem_append.mp member with inTop | inNames
        · exact (wellFormed.rooted.followable dir name inTop).notUp
        · exact notUp name inNames
      · rw [List.take_append]
        by_cases above : k ≤ top.length
        · have onWay := wellFormed.rooted.dir_take dir k
          simp only [List.nil_append] at onWay
          simp [Nat.sub_eq_zero_of_le above, onWay]
        · rw [List.take_of_length_le (by omega)]
          exact noLink _ target
    exact ⟨resolved, fun _ => ⟨rfl, slashes⟩⟩

/-- Nothing that is there lies below a place where nothing is. -/
theorem not_prefix_of_absent (rooted : t.Rooted) (absent : t.find? place = none) {q : Location}
    {node : Node} (held : t.find? q = some node) : ¬ place <+: q := by
  rintro ⟨names, rfl⟩
  simp [rooted.none_below absent names] at held

theorem not_generated_in (rooted : t.Rooted) (absent : t.find? place = none)
    (dir : t.find? top = some .dir) (name : String) : ¬ isGenerated place (top ++ [name]) := by
  rintro ⟨names, last, same, -, -⟩
  rw [← List.append_assoc] at same
  refine not_prefix_of_absent rooted absent dir ⟨names, ?_⟩
  exact (List.append_inj_left' same rfl).symm

namespace Destination

variable (wellFormed : t.WellFormed) (leads : t.status s root = .ok (top, .dir))
  (destination : Destination t s root top settings out place) (absent : t.find? place = none)
include wellFormed leads destination absent

/-- The directory that is skipped is the one of the settings, wherever the output goes. -/
theorem skipped {directory : Path} (outputs : outputOf t s root out settings = .ok directory) :
    skippedDirectory t s root directory settings =
      .ok (Path.ofText settings.outputDirectory).text := by
  have root_ : t.resolve s root = .ok top := resolve_of_status wellFormed.rooted leads (by simp)
  obtain ⟨resolved, relative⟩ := destination.resolved wellFormed leads outputs
  cases destination with
  | given _ outside => exact skippedDirectory_outside resolved root_ outside
  | configured notUp noLink =>
    have below : isBelow top (top ++ (Path.ofText settings.outputDirectory).names) = true := by
      refine isBelow_iff.mpr ⟨_, fun top_ => ?_, rfl⟩
      have dir : t.find? top = some .dir := holds_of_status leads
      simp [top_, dir] at absent
    have own : Path.ofText settings.outputDirectory =
        { names := (Path.ofText settings.outputDirectory).names } := by
      rw [← (relative rfl).2]
    rw [skippedDirectory_eq resolved root_, if_pos below, List.drop_left, ← own]

/-- What is generated below the root lies below the directory of the settings. -/
theorem hidden {directory : Path} (outputs : outputOf t s root out settings = .ok directory)
    {names : List String} (generated : isGenerated place (top ++ names)) :
    (Path.ofText (Path.ofText settings.outputDirectory).text).isUnder { names := names } = true := by
  have dir : t.find? top = some .dir := holds_of_status leads
  obtain ⟨-, relative⟩ := destination.resolved wellFormed leads outputs
  obtain ⟨more, name, same, -, -⟩ := generated
  cases destination with
  | given _ outside =>
    rcases List.prefix_or_prefix_of_prefix ⟨names, rfl⟩ ⟨_, same.symm⟩ with inside | around
    · exact absurd inside outside
    · exact absurd around (not_prefix_of_absent wellFormed.rooted absent dir)
  | configured notUp noLink =>
    have own : Path.ofText settings.outputDirectory =
        { names := (Path.ofText settings.outputDirectory).names } := by
      rw [← (relative rfl).2]
    have named : (Path.ofText settings.outputDirectory).names ≠ [] := fun top_ => by
      simp [top_, dir] at absent
    rw [List.append_assoc, List.append_cancel_left_eq] at same
    rw [own, Path.ofText_text fun _ => Path.textual_of_mem_ofText, same]
    simp [Path.isUnder, Path.parts, Path.isAbsolute, named]

end Destination

/-! ### Writing a plan twice -/

/-- All files of a plan have names that can be written. -/
structure Plan.Sound (p : Plan) : Prop where
  files : p.files = p.relativeFiles.at_ p.out
  names : ∀ f ∈ p.relativeFiles, ∃ names name, f.1 = names ++ [name] ∧
    (∀ other ∈ names ++ [name], Writable other) ∧ name ≠ Scan.ignoreFileName

theorem plan_sound (wellFormed : t.WellFormed) {o : Scan.Options} {ps : List Path}
    (scanned : Scan.sources t s root o = .ok ps) {v : Survey}
    (ended : Survey.along t s root settings {} ps = (v, none)) (directory : Path) :
    Plan.Sound ⟨directory, v.bodies⟩ := by
  have bodies := fun b (member : b ∈ v.bodies) => sourcePath_of_body wellFormed scanned ended member
  refine ⟨Plan.files_eq fun b member => ?_, fun f => relativeFiles_names bodies⟩
  obtain ⟨r, path, text⟩ := bodies b member
  rw [text, path.ofText_text]
  obtain ⟨names, name, rfl, -⟩ := path
  rfl

namespace Plan.Sound

variable {p : Plan} {t₁ t' : FileTree}

theorem named (sound : p.Sound) : p.relativeFiles.Named := by
  intro f member
  obtain ⟨names, name, own, writable, -⟩ := sound.names f member
  rw [own]
  exact ⟨by simp, fun other inNames => (writable other inNames).follows⟩

/-- What is written to a place where nothing was. -/
theorem write_fresh (sound : p.Sound) (rooted : t.Rooted) (resolved : t.resolve s p.out = .ok place)
    (absent : t.find? place = none) (written : p.write t s = (t', none)) :
    ∃ t₁, Grows noFile t t₁ ∧ t₁.Site s p.out place ∧
      writeFiles t₁ s (p.relativeFiles.at_ p.out) = (t', none) ∧
      Grows (isGenerated place) t t' ∧ t'.Site s p.out place := by
  obtain ⟨t₁, ensured, files⟩ := Plan.write_ok_iff.mp written
  have made := ensureDirectory_made rooted ensured
  rw [sound.files] at files
  obtain ⟨place', leads⟩ := made.leads rfl
  obtain rfl := made.grows.resolve_place resolved leads
  have site : t₁.Site s p.out place' := by
    refine ⟨made.rooted, leads, fun names target link => ?_⟩
    simp [made.grows.link_iff, rooted.none_below absent names] at link
  have fresh : ∀ f ∈ p.relativeFiles, t.find? (place' ++ f.1) = none ∧
      isGenerated place' (place' ++ f.1) := by
    intro f member
    obtain ⟨names, name, own, writable, noRules⟩ := sound.names f member
    exact ⟨rooted.none_below absent _,
      names, name, by rw [own], fun other inNames => (writable other inNames).textual, noRules⟩
  obtain ⟨grows, site'⟩ := writeFiles_grows sound.named site files
    (made.grows.weaken fun _ => False.elim) fresh
  exact ⟨t₁, made.grows, site, files, grows, site'⟩

/-- The same is written to an empty directory. -/
theorem write_again (sound : p.Sound) (sound' : Plan.Sound ⟨pathOf temp, p.bodies⟩)
    (rooted : t.Rooted) (absent : t.find? place = none) (grows : Grows noFile t t₁)
    (site : t₁.Site s p.out place)
    (written : writeFiles t₁ s (p.relativeFiles.at_ p.out) = (t', none))
    (empty : u.Site s (pathOf temp) temp) (nothing : ∀ names ≠ [], u.find? (temp ++ names) = none) :
    ∃ t₃, Plan.write ⟨pathOf temp, p.bodies⟩ u s = (t₃, none) ∧ Mirrors t' place t₃ temp ∧
      Grows (temp <+: ·) u t₃ ∧ t₃.Site s (pathOf temp) temp := by
  have mirrors : Mirrors t₁ place u temp := by
    constructor
    · intro names held
      by_cases here : names = []
      · simpa [here] using site.dir
      · simp [nothing names here] at held
    · intro names bytes
      constructor
      · intro held
        by_cases here : names = []
        · simp [here, empty.dir] at held
        · simp [nothing names here] at held
      · intro held
        rcases grows.old_or_new held with old | ⟨-, dir | ⟨new, -⟩⟩
        · simp [rooted.none_below absent names] at old
        · contradiction
        · exact new.elim
  obtain ⟨t₃, again, mirrors'⟩ := writeFiles_mirrors sound.named mirrors site empty written
  have grown : Grows (temp <+: ·) u t₃ ∧ t₃.Site s (pathOf temp) temp :=
    writeFiles_grows sound.named empty again (.refl u) fun f member =>
      ⟨nothing f.1 (sound.named f member).1, List.prefix_append temp f.1⟩
  refine ⟨t₃, ?_, mirrors', grown.1, grown.2⟩
  simp only [Plan.write, empty.ensured, sound'.files]
  exact again

end Plan.Sound

/-! ### An empty directory -/

section Empty

variable {t' : FileTree} (rooted : t'.Rooted) (free : (Spot.free temp).Holds t')
include free

theorem empty_grows : Grows noFile t' (t'.insert temp .dir) :=
  (Grows.refl t').insert free.1 (.inl rfl)

theorem find?_empty (q : Location) :
    (t'.insert temp .dir).find? q = if q = temp then some .dir else t'.find? q := by
  obtain ⟨-, here, name, rfl, -, -⟩ := free
  exact find?_insert t' (by simp) _ q

include rooted

theorem empty_rooted : (t'.insert temp .dir).Rooted := by
  obtain ⟨absent, here, name, rfl, follows, above⟩ := free
  exact rooted.insert follows above _ (by simp [absent])

theorem nothing_in_empty {names : List String} (named : names ≠ []) :
    (t'.insert temp .dir).find? (temp ++ names) = none := by
  rw [find?_empty free, if_neg (by simpa using named)]
  exact rooted.none_below free.1 names

theorem empty_site (s : Surroundings) : (t'.insert temp .dir).Site s (pathOf temp) temp := by
  have dir : (t'.insert temp .dir).find? ([] ++ temp) = some .dir := by
    simp [find?_empty free]
  have rooted' := empty_rooted rooted free
  refine ⟨rooted', status_eq_ok_iff.mpr ⟨?_, ?_⟩, fun names target link => ?_⟩
  · exact fun name member => (rooted'.followable dir name member).noNull
  · exact rooted'.reaches dir (by simp)
  · by_cases top : names = []
    · simp [top, find?_empty free] at link
    · simp [nothing_in_empty rooted free top] at link

end Empty

/-! ### The second run -/

/-- A file that is found as it was is read as it was. -/
theorem readSource_same {q : Location} {bytes : List UInt8} {p : Path}
    (found : t.status s p = .ok (q, .file bytes)) (found' : u.status s p = .ok (q, .file bytes)) :
    readSource u s p = readSource t s p := by
  have read : t.read s p = .ok bytes := read_eq_ok_iff.mpr ⟨q, found⟩
  have read' : u.read s p = .ok bytes := read_eq_ok_iff.mpr ⟨q, found'⟩
  simp only [readSource, read, read']

/-- What was scanned and read once is scanned and read again, if all that was written is hidden. -/
theorem sources_again (regrown : Regrown fileAt t u s root top) {o : Scan.Options} {ps : List Path}
    (scanned : Scan.sources t s root o = .ok ps) (links : LinksAgain t u s root top o.nestedIgnore)
    (noRules : ∀ q, fileAt q → q.getLast? ≠ some Scan.ignoreFileName)
    (hidden : ∀ names, fileAt (top ++ names) →
      (Path.ofText o.outputDirectory).isUnder { names := names } = true) :
    Scan.sources u s root o = .ok ps ∧
      ∀ p ∈ ps, readSource u s (root.join p) = readSource t s (root.join p) := by
  refine ⟨regrown.sources links noRules hidden scanned, fun p member => ?_⟩
  obtain ⟨names, name, bytes, rfl, -, -, found, apart⟩ :=
    mem_sources regrown.rooted regrown.leads scanned member
  refine readSource_same found (regrown.rewrites.status_kept (fun isNew => ?_) found)
  rw [hidden _ isNew] at apart
  contradiction

/-- What was planned once is planned again, for an output outside the root. -/
theorem plan_again (regrown : Regrown fileAt t u s root top) {sources : List Path} {v : Survey}
    (links : LinksStay t u s root top) (grows : Grows fileAt t u)
    (noRules : ∀ q, fileAt q → q.getLast? ≠ some Scan.ignoreFileName)
    (closed : ¬ fileAt (top ++ [Settings.fileName])) (loaded : Settings.load t s root = .ok settings)
    (hidden : ∀ names, fileAt (top ++ names) →
      (Path.ofText (Path.ofText settings.outputDirectory).text).isUnder { names := names } = true)
    (scanned : Scan.sources t s root
      (scanOptions settings (Path.ofText settings.outputDirectory).text) = .ok sources)
    (surveyed : Survey.along t s root settings {} sources = (v, none)) (clean : v.diagnostics = [])
    (other : u.status s (pathOf temp) = .ok (temp, .dir)) (apart : ¬ top <+: temp) :
    (plan u s root (some (pathOf temp)) none).1 = .ok ⟨pathOf temp, v.bodies⟩ := by
  have root_ : u.resolve s root = .ok top :=
    resolve_of_status regrown.rooted' regrown.leads' (by simp)
  have resolved : u.resolve s (pathOf temp) = .ok temp :=
    resolve_of_status regrown.rooted' other (by simp)
  have loaded' := regrown.load closed (links.steady grows (by simp)) loaded
  obtain ⟨scanned', same⟩ := sources_again regrown scanned (links.again grows _) noRules hidden
  have prepared : prepare u s root (some (pathOf temp)) none = .ok (settings, pathOf temp, sources) :=
    prepare_eq_ok_iff.mpr ⟨.inr ⟨rfl, loaded'⟩, rfl, _,
      skippedDirectory_outside resolved root_ apart, scanned'⟩
  exact plan_ok_iff.mpr ⟨settings, pathOf temp, sources, v, prepared,
    (Survey.along_congr same).trans surveyed, clean, rfl⟩

/-- A tree, what it is after a generation at a place, and after one more into an empty directory. -/
structure Repeated (t t' t₃ : FileTree) (s : Surroundings) (directory : Path)
    (place temp : Location) : Prop where
  first : Grows (isGenerated place) t t'
  site : t'.Site s directory place
  second : Grows (temp <+: ·) (t'.insert temp .dir) t₃
  mirrors : Mirrors t' place t₃ temp
  other : t₃.Site s (pathOf temp) temp

/-- A tree that was generated afresh is generated again, to an empty directory outside the root, with
    the same files. -/
theorem run_again {result : Result} {t' : FileTree} (wellFormed : t.WellFormed)
    (leads : t.status s root = .ok (top, .dir)) (loaded : Settings.load t s root = .ok settings)
    (destination : Destination t s root top settings out place) (absent : t.find? place = none)
    (generated : (run t s root out).result = .ok result) (tree : (run t s root out).tree = t')
    (free : (Spot.free temp).Holds t') (apart : ¬ top <+: temp)
    (links : LinksStay t (t'.insert temp .dir) s root top) :
    ∃ directory result' t₃, outputOf t s root out settings = .ok directory ∧
      (run (t'.insert temp .dir) s root (some (pathOf temp))).result = .ok result' ∧
      (run (t'.insert temp .dir) s root (some (pathOf temp))).tree = t₃ ∧
      Repeated t t' t₃ s directory place temp := by
  obtain ⟨p, planned, written⟩ := run_ok_iff.mp ⟨⟨result, generated⟩, tree⟩
  obtain ⟨chosen, directory, sources, v, prepared, surveyed, clean, rfl⟩ := plan_ok_iff.mp planned
  obtain ⟨read, outputs, skipped, skips, scanned⟩ := prepare_eq_ok_iff.mp prepared
  obtain rfl : settings = chosen := by simpa [loaded] using read
  obtain ⟨resolved, -⟩ := destination.resolved wellFormed leads outputs
  rw [destination.skipped wellFormed leads absent outputs, Except.ok.injEq] at skips
  subst skips
  have sound := plan_sound wellFormed scanned surveyed directory
  have sound' := plan_sound wellFormed scanned surveyed (pathOf temp)
  obtain ⟨t₁, grows₁, site₁, files, grows, site⟩ :=
    sound.write_fresh wellFormed.rooted resolved absent written
  have empty := empty_site site.rooted free s
  obtain ⟨t₃, again, mirrors, grows₃, site₃⟩ := sound.write_again sound' wellFormed.rooted absent grows₁
    site₁ files empty fun _ => nothing_in_empty site.rooted free
  have dir : t.find? top = some .dir := holds_of_status leads
  have both : Grows (isGenerated place) t (t'.insert temp .dir) :=
    grows.trans ((empty_grows free).weaken fun _ => False.elim)
  have regrown : Regrown (isGenerated place) t (t'.insert temp .dir) s root top :=
    ⟨wellFormed.rooted, empty_rooted site.rooted free, both.rewrites, leads⟩
  have noRules : ∀ q, isGenerated place q → q.getLast? ≠ some Scan.ignoreFileName := by
    rintro q ⟨names, name, rfl, -, noRules⟩
    simpa [← List.append_assoc] using noRules
  have planned' := plan_again regrown links both noRules
    (not_generated_in wellFormed.rooted absent dir _) loaded
    (fun names => destination.hidden wellFormed leads absent outputs) scanned surveyed clean
    empty.leads apart
  obtain ⟨⟨result', generated'⟩, tree'⟩ := run_ok_iff.mpr ⟨_, planned', again⟩
  exact ⟨directory, result', t₃, outputs, generated', tree', grows, site, grows₃, mirrors, site₃⟩

end Generation
end Bindery

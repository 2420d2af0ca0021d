import Bindery.CommandLine.Run
import Bindery.Proofs.KeptSources

/- The directory that settings name, as generation and verification understand it. Verification finds the
   default that generation writes to, but does not refuse what generation refuses. Generation passes over
   one directory below the root, its own output or that of the settings. -/
namespace Bindery

open FileTree

variable {t : FileTree} {s : Surroundings}

/-! ### Defaults -/

theorem FileTree.pathOf_inj {place place' : Location} : pathOf place = pathOf place' ↔ place = place' := by
  simp [pathOf]

/-- The default of generation is that of verification, where the settings name a relative directory that
    does not lead out of the root. Verification does not ask whether they do. -/
theorem CommandLine.default_directories {top place : Location} {settings : Settings}
    (resolved : t.resolve s (pathOf top) = .ok top)
    (loaded : Settings.load t s (pathOf top) = .ok settings) :
    Generation.outputOf t s (pathOf top) none settings = .ok (pathOf place) ↔
      artifactsOf t s (pathOf top) none = .ok (pathOf place) ∧
        settings.outputDirectory.isEmpty = false ∧ settings.outputDirectory.startsWith "~" = false ∧
        (Path.ofText settings.outputDirectory).isAbsolute = false ∧ top <+: place := by
  have given : artifactsOf t s (pathOf top) none = .ok (pathOf place) ↔
      t.resolve s ((pathOf top).join (Path.ofText settings.outputDirectory)) = .ok place := by
    simp [artifactsOf, loaded, bind_eq_ok_iff, mapError_eq_ok_iff, pure, Except.pure, pathOf_inj]
  have written : Generation.outputOf t s (pathOf top) none settings = .ok (pathOf place) ↔
      Settings.outputPlace t s (pathOf top) settings.outputDirectory = .ok place := by
    simp [Generation.outputOf, bind_eq_ok_iff, mapError_eq_ok_iff, pure, Except.pure, pathOf_inj]
  rw [given, written, Generation.outputPlace_eq_ok_iff]
  constructor
  · rintro ⟨some_, home, relative, top', root_, leads, inside⟩
    obtain rfl : top = top' := Except.ok.inj (resolved.symm.trans root_)
    exact ⟨leads, some_, home, relative, inside⟩
  · rintro ⟨leads, some_, home, relative, inside⟩
    exact ⟨some_, home, relative, top, resolved, leads, inside⟩

/-! ### The directory that is passed over -/

namespace Generation

variable {root directory : Path} {top place there : Location} {out : Option Path}
  {settings : Option Settings} {chosen : Settings} {sources : List Path}

/-- The directory that is passed over covers a place: it is the output itself where that lies below the
    root, and the one that the settings spell out anywhere else. -/
def PassesOver (top there : Location) (chosen : Settings) (place : Location) : Prop :=
  if isBelow top there then there <+: place
  else place = top ++ (Path.ofText chosen.outputDirectory).names

/-- A relative directory that settings spell out without links or dots is passed over as it is. -/
theorem isUnder_spelled {directory : String} (relative : (Path.ofText directory).isAbsolute = false)
    (some_ : (Path.ofText directory).names ≠ []) {names : List String}
    (inside : top ++ (Path.ofText directory).names <+: top ++ names) :
    (Path.ofText (Path.ofText directory).text).isUnder { names := names } = true := by
  have whole : Path.ofText directory = { names := (Path.ofText directory).names } := by
    have slashes : (Path.ofText directory).slashes = 0 := by simpa [Path.isAbsolute] using relative
    rw [← slashes]
  rw [whole, Path.ofText_text fun _ => Path.textual_of_mem_ofText]
  simp [Path.isUnder, Path.parts, Path.isAbsolute, some_, (List.prefix_append_right_inj top).mp inside]

/-- No source lies in the directory of the settings, where what is passed over covers that. It does not
    where the output goes to another place below the root. -/
theorem sources_apart (wellFormed : t.WellFormed) (spelled : Spelled s out)
    (leads : t.status s root = .ok (top, .dir))
    (prepared : prepare t s root out settings = .ok (chosen, directory, sources))
    (resolved : t.resolve s directory = .ok there)
    (configured : Settings.outputPlace t s root chosen.outputDirectory = .ok place)
    (below : isBelow top place = true) (covers : PassesOver top there chosen place) :
    ∀ r ∈ sources, ∃ q bytes, t.status s (root.join r) = .ok (q, .file bytes) ∧ ¬ place <+: q := by
  intro r member
  obtain ⟨-, outputs, skipped, skips, scanned⟩ := prepare_eq_ok_iff.mp prepared
  have root_ : t.resolve s root = .ok top := resolve_of_status wellFormed.rooted leads (by simp)
  obtain ⟨names, name, bytes, rfl, -, -, found, apart⟩ :=
    mem_sources wellFormed.rooted leads scanned member
  refine ⟨_, bytes, found, fun inside => ?_⟩
  rw [skippedDirectory_eq resolved root_, Except.ok.injEq] at skips
  subst skips
  unfold PassesOver at covers
  split at covers
  · rename_i own
    have textual := place_textual wellFormed spelled leads outputs resolved
    have under := (isUnder_iff textual own (names ++ [name])).mpr (covers.trans inside)
    rw [if_pos own] at apart
    exact Bool.false_ne_true (apart.symm.trans under)
  · rename_i outside
    subst covers
    obtain ⟨more, some_, same⟩ := isBelow_iff.mp below
    obtain rfl := List.append_cancel_left same
    obtain ⟨-, -, relative, -⟩ := outputPlace_eq_ok_iff.mp configured
    have under := isUnder_spelled relative some_ inside
    rw [if_neg outside] at apart
    exact Bool.false_ne_true (apart.symm.trans under)

/-- Wherever an output goes outside the root, the same files are sources. -/
theorem sources_outside {out' : Path} {there' : Location} (root_ : t.resolve s root = .ok top)
    (prepared : prepare t s root (some directory) settings = .ok (chosen, directory, sources))
    (resolved : t.resolve s directory = .ok there) (outside : ¬ top <+: there)
    (resolved' : t.resolve s out' = .ok there') (outside' : ¬ top <+: there') :
    prepare t s root (some out') settings = .ok (chosen, out', sources) := by
  obtain ⟨read, -, skipped, skips, scanned⟩ := prepare_eq_ok_iff.mp prepared
  rw [skippedDirectory_outside resolved root_ outside] at skips
  rw [← skippedDirectory_outside resolved' root_ outside'] at skips
  exact prepare_eq_ok_iff.mpr ⟨read, rfl, skipped, skips, scanned⟩

/-- What an earlier run left in the directory of the settings is a source again, once the output goes to
    another place below the root. -/
theorem neighbourTree_reads_its_output : ∃ sources,
    prepare neighbourTree ⟨[], "/home"⟩ ⟨0, ["tree"]⟩ (some ⟨0, ["tree", "out"]⟩) none =
      .ok ({}, ⟨0, ["tree", "out"]⟩, sources) ∧
    (outputOf neighbourTree ⟨[], "/home"⟩ ⟨0, ["tree"]⟩ none {}).toOption =
      some (pathOf ["tree", ".pymodgen"]) ∧
    ⟨0, [".pymodgen", "old.py"]⟩ ∈ sources := by
  have prepared : prepare neighbourTree ⟨[], "/home"⟩ ⟨0, ["tree"]⟩ (some ⟨0, ["tree", "out"]⟩) none =
      .ok ({}, ⟨0, ["tree", "out"]⟩,
        Scan.sortPaths [⟨0, [".pymodgen", "old.py"]⟩, ⟨0, [".pymodgen-kept", "now.py"]⟩]) :=
    prepare_of_parts "out" [] [⟨0, [".pymodgen", "old.py"]⟩, ⟨0, [".pymodgen-kept", "now.py"]⟩]
      (by decide +kernel)
  exact ⟨_, prepared, by decide +kernel, List.mem_mergeSort.mpr (by simp)⟩

end Generation
end Bindery

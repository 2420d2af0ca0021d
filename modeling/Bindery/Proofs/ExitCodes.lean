import Bindery.Proofs.ExactVerification
import Bindery.Proofs.LoneFiles

/- What the exit codes tell. A command that ends in order ends with one of three codes, and unless the
   code is that of success it has printed nothing and changed nothing. Each code has its one
   meaning. A root that is no directory is not among the meanings: nothing below it is read, and the
   generation goes on without sources. -/
namespace Bindery

namespace Generation

variable {t : FileTree} {s : Surroundings} {root : Path} {out : Option Path} {settings : Option Settings}

/-- Only a file that cannot be written is found out after something was changed. -/
theorem tree_of_refused {fault : Fault} (refused : (run t s root out settings).result = .error fault)
    (early : ∀ f, fault ≠ .file f) : (run t s root out settings).tree = t := by
  unfold run at refused ⊢
  split at refused
  · rfl
  · split at refused
    · exact absurd (Except.error.inj refused).symm (early _)
    · cases refused

/-- A root that is no directory has no sources, and is no reason to stop. -/
theorem plan_of_no_directory {chosen : Settings} {place : Path} {sources : List Path}
    (noDirectory : ∀ top, t.status s root ≠ .ok (top, .dir))
    (prepared : prepare t s root out settings = .ok (chosen, place, sources)) :
    (plan t s root out settings).1 = .ok ⟨place, []⟩ := by
  obtain ⟨-, -, skipped, -, scanned⟩ := prepare_eq_ok_iff.mp prepared
  have none_ : sources = [] := by
    simp only [Scan.sources, bind_eq_ok_iff, mapError_eq_ok_iff, pure, Except.pure, Except.ok.injEq]
      at scanned
    obtain ⟨rules, -, found, listed, kept, tested, rfl⟩ := scanned
    have nothing : found = [] := by
      obtain ⟨asked, held, listed⟩ := bind_eq_ok_iff.mp listed
      split at listed
      · exact absurd (FileTree.status?_eq_some_iff.mp held) (noDirectory _)
      · exact (Except.ok.inj listed).symm
    subst nothing
    obtain rfl : [] = kept := Except.ok.inj tested
    exact List.mergeSort_nil
  subst none_
  exact plan_ok_iff.mpr ⟨chosen, place, [], {}, prepared, rfl, rfl, rfl⟩

end Generation

namespace CommandLine

variable {t : FileTree} {s : Surroundings} {level : Log.Level}

/-! ### No trace of a failure -/

/-- An outcome that ends in order has one of three codes, and leaves no trace unless it is that of
    success. -/
structure Orderly (t : FileTree) (o : Outcome) : Prop where
  known : ∀ code, o.exit = .ok code → code = success ∨ code = problemsFound ∨ code = unusable
  traceless : ∀ code, o.exit = .ok code → code ≠ success → o.tree = t ∧ o.output = ""

namespace Orderly

theorem ended {output errors : String} {t' : FileTree} :
    Orderly t { exit := .ok success, output, errors, tree := t' } where
  known := by simp
  traceless := by simp

theorem failed {failure : Failure} {errors : String} {t' : FileTree} :
    Orderly t { exit := .error failure, errors, tree := t' } where
  known := by simp
  traceless := by simp

theorem told {code : Nat} {errors : String}
    (known : code = success ∨ code = problemsFound ∨ code = unusable) :
    Orderly t (.told t code errors) where
  known := by simpa [Outcome.told] using known
  traceless := fun _ _ _ => ⟨rfl, rfl⟩

end Orderly

theorem ofGenerationFault_orderly {log : String} {f : Generation.Fault} {t' : FileTree}
    (unchanged : (∀ fault, f ≠ .file fault) → t' = t) : Orderly t (ofGenerationFault t' log f) := by
  unfold ofGenerationFault
  extract_lets aside
  split
  · rw [unchanged (by simp)]
    exact .told (by simp)
  · split
    · rw [unchanged (by simp)]
      exact .told (by simp)
    · exact .failed
  · split
    · rw [unchanged (by simp)]
      exact .told (by simp)
    · exact .failed
  · exact .failed

theorem expand_orderly {file : String} {name output : Option String} :
    Orderly t (expand t s level file name output) := by
  unfold expand
  extract_lets path
  repeat' split
  all_goals first | exact .failed | exact .ended | exact .told (by simp)

theorem generate_orderly {root : Path} {out : Option String} :
    Orderly t (generate t s level root out) := by
  unfold generate
  split
  · exact .failed
  · rename_i place _
    dsimp only
    split
    · exact .ended
    · rename_i fault refused
      exact ofGenerationFault_orderly (Generation.tree_of_refused refused)

theorem verify_orderly {root : Path} {artifacts : Option String} :
    Orderly t (verify t s level root artifacts) := by
  unfold verify
  repeat' split
  all_goals first
    | exact .failed
    | exact .told (by simp)
    | exact ofGenerationFault_orderly fun _ => rfl

/-- Whatever the words, a command that ends with a code other than that of success has printed nothing
    and left the tree as it was. -/
theorem run_orderly (t : FileTree) (s : Surroundings) (words : List String) :
    Orderly t (run t s words) := by
  unfold run
  split
  · exact .ended
  · exact .told (by simp)
  · rename_i i _
    unfold runRequest
    split
    · exact expand_orderly
    · split
      · exact .failed
      · exact generate_orderly
    · split
      · exact .failed
      · exact verify_orderly

/-! ### The meanings of the codes -/

/-- What the codes of an outcome mean. -/
structure Means (o : Outcome) (succeeds hasProblems isUnusable : Prop) : Prop where
  success : o.exit = .ok success ↔ succeeds
  problemsFound : o.exit = .ok problemsFound ↔ hasProblems
  unusable : o.exit = .ok unusable ↔ isUnusable

/-- A fault of the settings that is told to the user. -/
def IsTold (f : Generation.Fault) : Prop :=
  (∃ fault, f = .settings fault ∧ (settingsMessage? fault).isSome) ∨
    ∃ fault, f = .output fault ∧ (outputMessage? fault).isSome

theorem ofGenerationFault_means (t : FileTree) (log : String) (f : Generation.Fault) :
    Means (ofGenerationFault t log f) False (∃ batch, f = .problems batch) (IsTold f) := by
  unfold ofGenerationFault IsTold
  extract_lets aside
  constructor <;>
    (cases f with
    | settings fault =>
      cases known : settingsMessage? fault <;>
        simp [known, aside, Outcome.told, success, problemsFound, unusable]
    | output fault =>
      cases known : outputMessage? fault <;>
        simp [known, aside, Outcome.told, success, problemsFound, unusable]
    | _ => simp [aside, Outcome.told, success, problemsFound, unusable])

/-- The expansion of a file ends with success once the text is where it belongs, with problems if the
    source has them, and as unusable exactly if the file cannot be read. -/
theorem expand_means {file : String} {name output : Option String}
    (plain : ∀ p, t.read s (Path.ofText file) ≠ .error ⟨.nullCharacter, p⟩) :
    Means (expand t s level file name output)
      (∃ source e, Generation.readSource t s (Path.ofText file) = .ok source ∧
        Expansion.ofSource source (some (Path.ofText file).text) name = .ok e ∧
        ∀ place ∈ output, ∃ t', t.write s (Path.ofText place) (Text.Utf8.ofString e.source) = .ok t')
      (∃ source batch, Generation.readSource t s (Path.ofText file) = .ok source ∧
        Expansion.ofSource source (some (Path.ofText file).text) name = .error (.problems batch))
      (∃ reason, Generation.readSource t s (Path.ofText file) = .error reason) := by
  cases read : Generation.readSource t s (Path.ofText file) with
  | error reason =>
    have ended : ∃ errors, expand t s level file name output = .told t unusable errors := by
      unfold expand
      extract_lets path
      split
      · rename_i p refused
        exact absurd refused (plain p)
      · simp only [path, read]
        exact ⟨_, rfl⟩
    obtain ⟨errors, ended⟩ := ended
    constructor <;> simp [ended, Outcome.told, success, problemsFound, unusable]
  | ok source =>
    rcases found : Expansion.ofSource source (some (Path.ofText file).text) name with
      (batch | fault) | e
    · obtain ⟨lines, -, ended⟩ := expand_problems read level output found
      constructor <;> simp [ended, found, Outcome.told, success, problemsFound, unusable]
    · obtain ⟨lines, -, ended⟩ := expand_fault read level output found
      constructor <;> simp [ended, found]
    · obtain ⟨bytes, legible⟩ := read_of_readSource read
      obtain ⟨ds, parsed, expanded⟩ := bind_eq_ok_iff.mp found
      rw [mapError_eq_ok_iff] at parsed
      simp only [expand, legible, read, parsed, expanded]
      cases output with
      | none => constructor <;> simp [found, success, problemsFound, unusable]
      | some place =>
        dsimp only
        cases written : t.write s (Path.ofText place) (Text.Utf8.ofString e.source) <;>
          constructor <;> simp [found, written, success, problemsFound, unusable]

/-- A generation ends with success if its run does, with problems if the run has them, and as unusable
    exactly if the settings are at fault. The root is not asked about. -/
theorem generate_means {root : Path} {out : Option String} {place : Option Path}
    (found : out.mapM (placeOf t s) = .ok place) :
    Means (generate t s level root out)
      (∃ result, (Generation.run t s root place).result = .ok result)
      (∃ batch, (Generation.run t s root place).result = .error (.problems batch))
      (∃ fault, (Generation.run t s root place).result = .error fault ∧ IsTold fault) := by
  simp only [generate, found]
  cases (Generation.run t s root place).result with
  | ok result => constructor <;> simp [success, problemsFound, unusable]
  | error fault =>
    have told := ofGenerationFault_means (Generation.run t s root place).tree
      (Log.shown level (Generation.run t s root place).log) fault
    exact ⟨by simpa using told.success, by simpa using told.problemsFound, by simpa using told.unusable⟩

/-- A path can be asked about, and leads to no directory. -/
def NoDirectory (t : FileTree) (s : Surroundings) (p : Path) : Prop :=
  ∃ found, t.status? s p = .ok found ∧ ∀ place, found ≠ some (place, .dir)

/-- What cannot be asked about is no matter of directories that are missing. -/
theorem status?_refused {p : Path} {fault : FileFault} (refused : t.status? s p = .error fault) :
    isDirectoryError fault.error = false := by
  unfold FileTree.status? at refused
  split at refused
  · cases refused
  · split at refused
    · cases refused
    · rename_i first _ present
      obtain rfl : first = fault := Except.error.inj refused
      cases known : first.error <;> simp_all [FileError.isAbsence, isDirectoryError]

theorem collect_refused {directory : Path} {ps : List Path} {fault : FileFault}
    (refused : Verification.filesBelow.collect t s directory ps = .error fault) :
    ∃ p, t.status? s p = .error fault := by
  induction ps with
  | nil => cases refused
  | cons p ps ih =>
    rw [Verification.filesBelow.collect] at refused
    rcases bind_eq_error_iff.mp refused with here | ⟨held, -, rest⟩
    · exact ⟨_, here⟩
    · rcases bind_eq_error_iff.mp rest with later | ⟨more, -, listed⟩
      · exact ih later
      · split at listed <;> cases listed

theorem filesBelow_unasked {directory : Path} {fault : FileFault}
    (refused : Verification.filesBelow t s directory = .error fault) :
    ∃ p, t.status? s p = .error fault := by
  rcases bind_eq_error_iff.mp refused with listing | ⟨ps, -, rest⟩
  · rcases bind_eq_error_iff.mp listing with asked | ⟨held, -, listed⟩
    · exact ⟨_, asked⟩
    · split at listed <;> cases listed
  · rcases bind_eq_error_iff.mp rest with collected | ⟨files, -, sorted⟩
    · exact collect_refused collected
    · cases sorted

theorem compare_refused {u : FileTree} {given generated : Path} {f : FileFault}
    (refused : (do
      return Verification.compare (← Verification.filesBelow u s given)
        (← Verification.filesBelow u s generated)) = .error f) :
    isDirectoryError f.error = false := by
  rcases bind_eq_error_iff.mp refused with first | ⟨here, -, rest⟩
  · obtain ⟨p, asked⟩ := filesBelow_unasked first
    exact status?_refused asked
  · rcases bind_eq_error_iff.mp rest with second | ⟨there, -, compared⟩
    · obtain ⟨p, asked⟩ := filesBelow_unasked second
      exact status?_refused asked
    · cases compared

theorem checkDirectory_cases (t : FileTree) (s : Surroundings) (p : Path) :
    (NoDirectory t s p ∧ ∃ fault, (fault = .absent p ∨ fault = .noDirectory p) ∧
      Verification.checkDirectory t s p = .error fault) ∨
    ¬ NoDirectory t s p ∧ (Verification.checkDirectory t s p = .ok () ∨
      ∃ f, t.status? s p = .error f ∧ Verification.checkDirectory t s p = .error (.file f)) := by
  unfold Verification.checkDirectory NoDirectory
  rcases t.status? s p with own | _ | ⟨place, _ | _ | _⟩ <;>
    simp [bind, Except.bind, pure, Except.pure]

/-- A verification without a directory is told so; any other that is refused was refused by a path that
    cannot be asked about, or by the generation. -/
theorem run_cases (t : FileTree) (s : Surroundings) (root directory : Path) :
    (NoDirectory t s directory ∧ ∃ fault,
      (fault = .absent directory ∨ fault = .noDirectory directory) ∧
      (Verification.run t s root directory).1 = .error fault) ∨
    ¬ NoDirectory t s directory ∧ ((∃ r, (Verification.run t s root directory).1 = .ok r) ∨
      (∃ f, (Verification.run t s root directory).1 = .error (.file f) ∧
        isDirectoryError f.error = false) ∨
      ∃ f, (Verification.run t s root directory).1 = .error (.generation f)) := by
  unfold Verification.run Verification.runIn
  rcases checkDirectory_cases t s directory with
    ⟨without, fault, known, checked⟩ | ⟨there, checked | ⟨f, asked, checked⟩⟩
  · exact .inl ⟨without, fault, known, by simp [checked]⟩
  · refine .inr ⟨there, ?_⟩
    simp only [checked]
    generalize Generation.run (t.insert t.freshPlace .dir) s root
      (some (FileTree.pathOf t.freshPlace)) = outcome
    cases outcome.result with
    | error f => exact .inr (.inr ⟨f, rfl⟩)
    | ok result =>
      dsimp only
      cases compared : (do
        return Verification.compare (← Verification.filesBelow outcome.tree s directory)
          (← Verification.filesBelow outcome.tree s (FileTree.pathOf t.freshPlace))) with
      | ok r => exact .inl ⟨r, rfl⟩
      | error f => exact .inr (.inl ⟨f, rfl, compare_refused compared⟩)
  · exact .inr ⟨there, .inr (.inl ⟨f, by simp [checked], status?_refused asked⟩)⟩

/-- A verification ends with success if there is no difference, with problems if there are some or if
    the sources have them, and as unusable exactly if there is no directory to verify, if the
    settings are at fault, or if a file that is generated has no directory to be in. -/
theorem verify_means {root directory : Path} {artifacts : Option String}
    (found : artifactsOf t s root artifacts = .ok directory) :
    Means (verify t s level root artifacts)
      (∃ r, (Verification.run t s root directory).1 = .ok r ∧ r.isOk = true)
      ((∃ r, (Verification.run t s root directory).1 = .ok r ∧ r.isOk = false) ∨
        ∃ batch, (Verification.run t s root directory).1 = .error (.generation (.problems batch)))
      (NoDirectory t s directory ∨
        ∃ f, (Verification.run t s root directory).1 = .error (.generation f) ∧
          (IsTold f ∨ ∃ fault, f = .file fault ∧ isDirectoryError fault.error = true)) := by
  unfold verify
  simp only [found]
  rcases run_cases t s root directory with
    ⟨without, fault, rfl | rfl, ran⟩ | ⟨there, ⟨r, ran⟩ | ⟨f, ran, other⟩ | ⟨f, ran⟩⟩
  · constructor <;> simp [ran, without, Outcome.told, success, problemsFound, unusable]
  · constructor <;> simp [ran, without, Outcome.told, success, problemsFound, unusable]
  · cases same : r.isOk <;>
      constructor <;> simp [ran, there, same, Outcome.told, success, problemsFound, unusable]
  · constructor <;> simp [ran, there, other]
  · have told := ofGenerationFault_means t
      (Log.shown level (Verification.run t s root directory).2) f
    cases f with
    | file fault =>
      cases known : isDirectoryError fault.error <;>
        constructor <;> simp [ran, there, known, IsTold, Outcome.told, success, problemsFound, unusable]
    | _ =>
      constructor <;> simp [ran, there] <;>
        first | simpa using told.success | simpa using told.problemsFound | simpa using told.unusable

/-- A root where nothing is is generated all the same, and then it is there. -/
example : (run {} ⟨[], "/home"⟩ ["generate", "/missing"]).exit.toOption = some success ∧
    (run {} ⟨[], "/home"⟩ ["generate", "/missing"]).tree.find? ["missing", ".pymodgen"] =
      some .dir := by
  decide +kernel

end CommandLine
end Bindery

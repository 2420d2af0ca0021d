import Bindery.CommandLine.Help
import Bindery.CommandLine.Reader
import Bindery.Verification

/- What a command does: texts for the user, an exit code, and a changed file tree. Problems of sources
   and settings are told to the user; any other fault leaves the program as it is. -/
namespace Bindery.CommandLine

/-- A fault that is not told to the user. -/
inductive Failure where
  | registry (fault : Registry.Fault)
  | file (fault : FileFault)
  | resolve (fault : FileTree.ResolveFault)
  | settings (fault : Settings.ReadFault)
  | generation (fault : Generation.Fault)
  | unknownHome
  deriving Repr

def Failure.message : Failure → String
  | .registry fault => fault.message
  | .file fault => fault.message
  | .resolve fault => fault.message
  | .settings fault => fault.message
  | .generation fault => fault.message
  | .unknownHome => Path.unknownHomeMessage

structure Outcome where
  exit : Except Failure Nat
  output : String := ""
  errors : String := ""
  tree : FileTree
  deriving Repr

/-! ### Exit codes -/

def success : Nat := 0

/-- Problems of sources, or differences. -/
def problemsFound : Nat := 1

/-- Input that cannot be used at all. -/
def unusable : Nat := 2

def batchLines (b : Diagnostic.Batch) : String :=
  String.join (b.toList.map fun d => d.render ++ "\n")

def errorLine (message : String) : String := "error: " ++ message ++ "\n"

/-- Faults of a settings file that are told to the user. -/
def settingsMessage? (f : Settings.ReadFault) : Option String :=
  match f with
  | .toml _ (.malformed _ _) => some f.message
  | .table _ _ => some f.message
  | _ => none

/-- Faults of an output directory that are told to the user. -/
def outputMessage? (f : Settings.OutputFault) : Option String :=
  match f with
  | .resolve _ => none
  | _ => some f.message

/-- Ends a run with a text for the user. -/
def Outcome.told (t : FileTree) (code : Nat) (errors : String) : Outcome :=
  { exit := .ok code, errors, tree := t }

/-- Ends a run that could not generate. -/
def ofGenerationFault (t : FileTree) (log : String) (f : Generation.Fault) : Outcome :=
  let failed : Outcome := { exit := .error (.generation f), errors := log, tree := t }
  match f with
  | .problems batch => .told t problemsFound (log ++ batchLines batch)
  | .settings fault =>
    match settingsMessage? fault with
    | some message => .told t unusable (log ++ errorLine message)
    | none => failed
  | .output fault =>
    match outputMessage? fault with
    | some message => .told t unusable (log ++ errorLine message)
    | none => failed
  | _ => failed

/-! ### Paths -/

/-- The place that a path given by the user means. -/
def placeOf (t : FileTree) (s : Surroundings) (text : String) : Except Failure Path :=
  match (Path.ofText text).expandHome s.home with
  | none => .error .unknownHome
  | some p =>
    match t.resolve s p with
    | .ok place => .ok (FileTree.pathOf place)
    | .error fault => .error (.resolve fault)

/-! ### Commands -/

def expand (t : FileTree) (s : Surroundings) (level : Log.Level) (file : String)
    (name output : Option String) : Outcome :=
  let path := Path.ofText file
  match t.read s path with
  | .error ⟨.nullCharacter, p⟩ => { exit := .error (.file ⟨.nullCharacter, p⟩), tree := t }
  | _ =>
    match Generation.readSource t s path with
    | .error reason =>
      let d : Diagnostic := ⟨Generation.unreadableMessage reason, { path := some path.text }⟩
      .told t unusable (d.render ++ "\n")
    | .ok source =>
      match Declaration.ofSource source (some path.text) with
      | .error (.unreadable d) => .told t problemsFound (d.render ++ "\n")
      | .error (.source fault) => { exit := .error (.registry (.source fault)), tree := t }
      | .ok ds =>
        let (found, _) := Expansion.ofDeclarations source (some path.text) name ds
        let log := Log.shown level (Log.ofExpansion (some path.text) ds found)
        match found with
        | .error (.problems batch) => .told t problemsFound (log ++ batchLines batch)
        | .error (.registry fault) => { exit := .error (.registry fault), errors := log, tree := t }
        | .ok e =>
          match output with
          | none => { exit := .ok success, output := e.source, errors := log, tree := t }
          | some output =>
            match t.write s (Path.ofText output) (Text.Utf8.ofString e.source) with
            | .ok t => { exit := .ok success, errors := log, tree := t }
            | .error fault => { exit := .error (.file fault), errors := log, tree := t }

def generate (t : FileTree) (s : Surroundings) (level : Log.Level) (root : Path)
    (out : Option String) : Outcome :=
  match out.mapM (placeOf t s) with
  | .error failure => { exit := .error failure, tree := t }
  | .ok out =>
    let found := Generation.run t s root out
    let log := Log.shown level found.log
    match found.result with
    | .ok _ => { exit := .ok success, errors := log, tree := found.tree }
    | .error fault => ofGenerationFault found.tree log fault

/-- The directory that is verified: the one that is given, or else the one of the settings. -/
def artifactsOf (t : FileTree) (s : Surroundings) (root : Path) (artifacts : Option String) :
    Except Failure Path :=
  match artifacts with
  | some text => placeOf t s text
  | none => do
    let settings ← (Settings.load t s root).mapError .settings
    let place ← (t.resolve s (root.join (Path.ofText settings.outputDirectory))).mapError .resolve
    return FileTree.pathOf place

def labelled (label : String) (names : List String) : String :=
  String.join (names.map fun name => label ++ ": " ++ name ++ "\n")

def differences (r : Verification.Result) : String :=
  labelled "missing" r.missing ++ labelled "extra" r.extra ++ labelled "mismatches" r.mismatches

def unusableDirectory (p : Path) (message : String) : String :=
  "artifacts-dir: " ++ p.text ++ "\n" ++ errorLine message

/-- File errors that mean an unusable directory. -/
def isDirectoryError (e : FileError) : Bool := e = .noEntry || e = .notDirectory

def verify (t : FileTree) (s : Surroundings) (level : Log.Level) (root : Path)
    (artifacts : Option String) : Outcome :=
  match artifactsOf t s root artifacts with
  | .error (.settings fault) => ofGenerationFault t "" (.settings fault)
  | .error failure => { exit := .error failure, tree := t }
  | .ok directory =>
    let (found, lines) := Verification.run t s root directory
    let log := Log.shown level lines
    match found with
    | .ok r =>
      if r.isOk then .told t success log else .told t problemsFound (log ++ differences r)
    | .error (.absent p) =>
      .told t unusable (log ++ unusableDirectory directory (Verification.absentMessage p))
    | .error (.noDirectory p) =>
      .told t unusable (log ++ unusableDirectory directory (Verification.noDirectoryMessage p))
    | .error (.file fault) =>
      if isDirectoryError fault.error then
        .told t unusable (log ++ unusableDirectory directory fault.message)
      else { exit := .error (.file fault), errors := log, tree := t }
    | .error (.generation (.file fault)) =>
      if isDirectoryError fault.error then
        .told t unusable (log ++ unusableDirectory directory fault.message)
      else { exit := .error (.file fault), errors := log, tree := t }
    | .error (.generation fault) => ofGenerationFault t log fault

def runRequest (t : FileTree) (s : Surroundings) (level : Log.Level) : Request → Outcome
  | .expand file name output => expand t s level file name output
  | .generate root out =>
    match placeOf t s root with
    | .error failure => { exit := .error failure, tree := t }
    | .ok root => generate t s level root out
  | .verify root artifacts =>
    match placeOf t s root with
    | .error failure => { exit := .error failure, tree := t }
    | .ok root => verify t s level root artifacts

/-- Runs a command line. -/
def run (t : FileTree) (s : Surroundings) (words : List String) : Outcome :=
  match Invocation.ofWords words with
  | .error (.help form) => { exit := .ok success, output := form.help, tree := t }
  | .error (.mistake form m) =>
    .told t unusable (form.usage ++ form.program ++ ": error: " ++ m.message ++ "\n")
  | .ok i => runRequest t s i.level i.request

end Bindery.CommandLine

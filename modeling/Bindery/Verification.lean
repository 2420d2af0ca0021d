import Bindery.Generation

/- Verification of a generated tree: the sources are expanded once more, into a place of their own,
   and the files found there are compared with those of the given directory, byte for byte. -/
namespace Bindery.Verification

/-- The differences, each list in order. -/
structure Result where
  /-- Files that are given but not generated. -/
  missing : List String
  /-- Files that are generated but not given. -/
  extra : List String
  mismatches : List String
  deriving DecidableEq, Repr

def Result.isOk (r : Result) : Bool :=
  r.missing.isEmpty && r.extra.isEmpty && r.mismatches.isEmpty

inductive Fault where
  | absent (directory : Path)
  | noDirectory (path : Path)
  | file (fault : FileFault)
  | generation (fault : Generation.Fault)
  deriving Repr

def absentMessage (p : Path) : String := "Artifacts directory does not exist: " ++ p.text

def noDirectoryMessage (p : Path) : String := "Artifacts path is not a directory: " ++ p.text

/-- The files below a directory by their relative paths, with their bytes, in order. -/
def filesBelow (t : FileTree) (s : Surroundings) (directory : Path) :
    Except FileFault (List (String × List UInt8)) := do
  let found ← Scan.below t s directory fun _ => true
  let rec collect : List Path → Except FileFault (List (String × List UInt8))
    | [] => .ok []
    | p :: ps => do
      let here ← t.status? s (directory.join p)
      let more ← collect ps
      match here with
      | some (_, .file bytes) => return (p.text, bytes) :: more
      | _ => return more
  return (← collect found).mergeSort fun a b => decide (a.1 ≤ b.1)

/-- The names in `a` that are not in `b`. -/
def onlyIn (a b : List (String × List UInt8)) : List String :=
  (a.map Prod.fst).filter fun name => !(b.any (·.1 == name))

def compare (given generated : List (String × List UInt8)) : Result :=
  { missing := onlyIn given generated
    extra := onlyIn generated given
    mismatches := (given.filter fun f =>
      match generated.lookup f.1 with
      | some bytes => bytes != f.2
      | none => false).map Prod.fst }

/-- Makes sure that a directory is there. -/
def checkDirectory (t : FileTree) (s : Surroundings) (p : Path) : Except Fault Unit := do
  match ← (t.status? s p).mapError .file with
  | none => .error (.absent p)
  | some (_, .dir) => return ()
  | some _ => .error (.noDirectory p)

/-- Compares a directory with what the tree at a root generates now into a place of its own. -/
def runIn (t : FileTree) (s : Surroundings) (root directory : Path) (place : Location) :
    Except Fault Result × List Log.Line :=
  match checkDirectory t s directory with
  | .error fault => (.error fault, [])
  | .ok () =>
    let fresh := FileTree.pathOf place
    let outcome := Generation.run (t.insert place .dir) s root (some fresh)
    match outcome.result with
    | .error fault => (.error (.generation fault), outcome.log)
    | .ok _ =>
      let differences := do
        return compare (← filesBelow outcome.tree s directory)
          (← filesBelow outcome.tree s fresh)
      (differences.mapError .file, outcome.log)

/-- The generation that a verification compares with. -/
def afresh (t : FileTree) (s : Surroundings) (root : Path) (place : Location) : Generation.Outcome :=
  Generation.run (t.insert place .dir) s root (some (FileTree.pathOf place))

/-- The tree once a verification has ended, however it did: its own place is cleared away. -/
def treeAfter (t : FileTree) (s : Surroundings) (root directory : Path) (place : Location) : FileTree :=
  match checkDirectory t s directory with
  | .error _ => t
  | .ok () => (afresh t s root place).tree.erase place

/-- Compares a directory with what the tree at a root generates now. -/
def run (t : FileTree) (s : Surroundings) (root directory : Path) :
    Except Fault Result × List Log.Line :=
  runIn t s root directory t.freshPlace

end Bindery.Verification

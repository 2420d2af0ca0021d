import Bindery.FileTree.Change
import Bindery.Glob.Ignore
import Bindery.Glob.Wildcard

/- The source files of a tree: regular files with the right extension, reached through directories
   and not through links, outside the output directory, not ignored, and not filtered out. They
   come in the order of their relative paths. -/
namespace Bindery

namespace Scan

structure Options where
  outputDirectory : String := ".pymodgen"
  included : List String := []
  excluded : List String := []
  nestedIgnore : Bool := false
  deriving DecidableEq, Repr

/-- What stops a scan. -/
inductive Fault where
  | file (fault : FileFault)
  | resolve (fault : FileTree.ResolveFault)
  | encoding (fault : Text.Utf8.Fault)
  | rule (fault : Glob.IgnoreFault)
  | expression (fault : Glob.Expression.Fault)
  deriving DecidableEq, Repr

def Fault.message : Fault → String
  | .file f => f.message
  | .resolve f => f.message
  | .encoding f => f.message
  | .rule f => f.message
  | .expression f => f.message

/-- A path must match an included pattern, if there are any, and no excluded one. -/
def passes (includes excludes : List String) (path : String) : Bool :=
  (includes.isEmpty || includes.any fun pat => Glob.Wildcard.isMatch pat path) &&
    !(excludes.any fun pat => Glob.Wildcard.isMatch pat path)

def sourceExtension : String := ".py"

def ignoreFileName : String := ".gitignore"

/-- Paths relative to the root, of what lies below it under names for which `named` holds. -/
def below (t : FileTree) (s : Surroundings) (root : Path) (named : String → Bool) :
    Except FileFault (List Path) := do
  match ← t.status? s root with
  | some (top, .dir) =>
    return (t.below top).filterMap fun found =>
      if (found.1.getLast?.map named).getD false
      then some { names := found.1.drop top.length } else none
  | _ => return []

def sortPaths (paths : List Path) : List Path :=
  paths.mergeSort fun a b => decide (a.text ≤ b.text)

/-! ### Ignored paths -/

def readIgnoreFile (t : FileTree) (s : Surroundings) (p : Path) : Except Fault Glob.IgnoreFile := do
  let bytes ← (t.read s p).mapError .file
  let text ← (Text.Utf8.decode bytes).mapError .encoding
  let base := FileTree.normalize (FileTree.origin s p) p.parent.names
  (Glob.IgnoreFile.ofText base text).mapError .rule

def readIgnoreFiles (t : FileTree) (s : Surroundings) :
    List Path → Except Fault (List Glob.IgnoreFile)
  | [] => .ok []
  | p :: ps => do return (← readIgnoreFile t s p) :: (← readIgnoreFiles t s ps)

/-- The members of a list for which a test that may fail holds. -/
def keep {α ε : Type} (test : α → Except ε Bool) : List α → Except ε (List α)
  | [] => .ok []
  | a :: as => do
    let here ← test a
    let more ← keep test as
    return if here then a :: more else more

/-- Whether a path leads to a regular file and is no link itself. -/
def isPlainFile (t : FileTree) (s : Surroundings) (p : Path) : Except FileFault Bool := do
  return (← t.isFile s p) && !(← t.isLink s p)

/-- The rules in force: those of the root, or those of all directories. -/
def ignoreFiles (t : FileTree) (s : Surroundings) (root : Path) (nested : Bool) :
    Except Fault (List Glob.IgnoreFile) := do
  let top := root.child ignoreFileName
  if nested then
    let found ← (below t s root (· == ignoreFileName)).mapError .file
    let plain ← (keep (fun p => isPlainFile t s (root.join p)) found).mapError .file
    readIgnoreFiles t s ((sortPaths plain).map root.join)
  else if ← (t.isFile s top).mapError .file then
    return [← readIgnoreFile t s top]
  else return []

/-- Whether one of the files ignores a path. -/
def isIgnored (names : List String) : List Glob.IgnoreFile → Except Glob.Expression.Fault Bool
  | [] => .ok false
  | f :: fs => do
    match ← f.ignores? names with
    | some true => return true
    | _ => isIgnored names fs

/-! ### Source files -/

/-- Whether a path leads to the root or below it when all links are followed. -/
def staysWithin (t : FileTree) (s : Surroundings) (root p : Path) : Except Fault Bool :=
  match t.resolve s p with
  | .error (.loop q) => .error (.resolve (.loop q))
  | .error (.refused _) => .ok false
  | .ok place =>
    match t.resolve s root with
    | .error (.loop q) => .error (.resolve (.loop q))
    | .error (.refused _) => .ok false
    | .ok top => .ok (top.isPrefixOf place)

/-- Whether a file, given by its path relative to the root, is a source file. -/
def isSource (t : FileTree) (s : Surroundings) (root : Path) (o : Options)
    (rules : List Glob.IgnoreFile) (p : Path) : Except Fault Bool := do
  let full := root.join p
  if !(← (isPlainFile t s full).mapError .file) then return false
  if !(← staysWithin t s root full) then return false
  if (Path.ofText o.outputDirectory).isUnder p then return false
  let names := FileTree.normalize (FileTree.origin s full) full.names
  if ← (isIgnored names rules).mapError .expression then return false
  return passes o.included o.excluded p.text

/-- The paths of the source files relative to the root, sorted. -/
def sources (t : FileTree) (s : Surroundings) (root : Path) (o : Options) :
    Except Fault (List Path) := do
  let rules ← ignoreFiles t s root o.nestedIgnore
  let found ← (below t s root (·.endsWith sourceExtension)).mapError .file
  let kept ← keep (isSource t s root o rules) found
  return sortPaths kept

end Scan
end Bindery

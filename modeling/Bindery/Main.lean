import Bindery.CommandLine.Run

/- The program. It takes down what the command can reach of the files there are, runs the command
   on that, and writes what is new. What the files say is decided elsewhere. -/
namespace Bindery.Program

/-- What is at a path itself, links not followed. -/
def kindOf? (place : Location) : IO (Option IO.FS.FileType) := do
  let entry : IO.FS.DirEntry :=
    { root := (FileTree.pathOf place.dropLast).text, fileName := place.getLastD "" }
  match ← entry.path.symlinkMetadata.toBaseIO with
  | .ok found => return some found.type
  | .error _ => return none

/-- The place where a link ends, or its own if it leads nowhere. -/
def linkEnd (place : Location) : IO Location := do
  match ← (IO.FS.realPath (FileTree.pathOf place).text).toBaseIO with
  | .ok target => return (Path.ofText target.toString).names
  | .error _ => return place

def namesIn (place : Location) : IO (List String) := do
  let directory ← IO.FS.realPath (FileTree.pathOf place).text
  return (← directory.readDir).toList.map (·.fileName)

/-- Takes down all on the way from a directory along names, through links, and all below the end of
    the way if `deep`. -/
partial def takeDown (t : FileTree) (here : Location) (names : List String) (deep : Bool) :
    IO FileTree := do
  match names with
  | [] =>
    if deep && t.find? here = some .dir then
      (← namesIn here).foldlM (fun t name => below t (here ++ [name])) t
    else return t
  | ".." :: rest => takeDown t here.dropLast rest deep
  | name :: rest =>
    let place := here ++ [name]
    match t.find? place with
    | some .dir => takeDown t place rest deep
    | some (.link target) =>
      let target := (Path.ofText target).names
      if target = place then return t else takeDown t [] (target ++ rest) deep
    | some (.file _) => return t
    | none =>
      match ← kindOf? place with
      | some .dir => takeDown (t.insert place .dir) place rest deep
      | some .file => return t.insert place (.file (← contents place))
      | some .symlink =>
        let target ← linkEnd place
        takeDown (t.insert place (.link (FileTree.pathOf target).text)) [] (target ++ rest) deep
      | _ => return t
where
  contents (place : Location) : IO (List UInt8) := do
    return (← IO.FS.readBinFile (FileTree.pathOf place).text).toList
  /-- Takes down an entry of a directory and, unless it is a link, all below it. -/
  below (t : FileTree) (place : Location) : IO FileTree := do
    let link := (← kindOf? place) == some .symlink
    takeDown t place.dropLast [place.getLastD ""] (!link)

/-- Takes down what a path leads to. -/
def observe (s : Surroundings) (t : FileTree) (p : Path) (deep : Bool) : IO FileTree := do
  let p := (p.expandHome s.home).getD p
  let t ← takeDown t [] s.workingDirectory false
  takeDown t (FileTree.origin s p) p.names deep

/-- Takes down a source tree and its output directory. -/
def observeSources (s : Surroundings) (root : String) (output : Option String) : IO FileTree := do
  let root := Path.ofText root
  let t ← observe s {} root true
  match output with
  | some output => observe s t (Path.ofText output) true
  | none =>
    match Settings.load t s root with
    | .ok settings => observe s t (root.join (Path.ofText settings.outputDirectory)) true
    | .error _ => return t

def observeRequest (s : Surroundings) : CommandLine.Request → IO FileTree
  | .expand file _ output => do
    let t ← observe s {} (Path.ofText file) false
    match output with
    | some output => observe s t (Path.ofText output) false
    | none => return t
  | .generate root out => observeSources s root out
  | .verify root artifacts => observeSources s root artifacts

/-- Makes the directories and writes the files that are not as they were. -/
def writeNew (before after : FileTree) : IO Unit :=
  after.entries.forM fun (place, node) => do
    if before.find? place ≠ some node then
      let path := (FileTree.pathOf place).text
      match node with
      | .dir => IO.FS.createDirAll path
      | .file bytes => IO.FS.writeBinFile path ⟨bytes.toArray⟩
      | .link _ => pure ()

def surroundings : IO Surroundings := do
  let here ← IO.currentDir
  return { workingDirectory := (Path.ofText here.toString).names
           home := (← IO.getEnv "HOME").getD "/" }

def run (words : List String) : IO UInt32 := do
  let s ← surroundings
  let t ← match CommandLine.Invocation.ofWords words with
    | .ok invocation => observeRequest s invocation.request
    | .error _ => pure {}
  let outcome := CommandLine.run t s words
  writeNew t outcome.tree
  IO.print outcome.output
  IO.eprint outcome.errors
  match outcome.exit with
  | .ok code => return UInt32.ofNat code
  | .error failure =>
    IO.eprint (CommandLine.errorLine failure.message)
    return 1

end Bindery.Program

def main (words : List String) : IO UInt32 := Bindery.Program.run words

import Bindery.FileTree.Walk

/- Reading and writing files. An operation that is refused leaves the tree as it is. -/
namespace Bindery.FileTree

/-- The bytes of a file. -/
def read (t : FileTree) (s : Surroundings) (p : Path) : Except FileFault (List UInt8) := do
  match ← t.status s p with
  | (_, .file bytes) => return bytes
  | _ => .error ⟨.isDirectory, p⟩

/-- Writes a file, which is made if it is not there; its directory must be. -/
def write (t : FileTree) (s : Surroundings) (p : Path) (bytes : List UInt8) :
    Except FileFault FileTree :=
  match t.spot s p with
  | .ok (.found place (.file _)) => .ok (t.insert place (.file bytes))
  | .ok (.found _ _) => .error ⟨.isDirectory, p⟩
  | .ok (.free place) => .ok (t.insert place (.file bytes))
  | .error e => .error ⟨e, p⟩

/-- Makes one directory. -/
def makeDirectory (t : FileTree) (s : Surroundings) (p : Path) : Except FileFault FileTree :=
  match t.spot s p false with
  | .ok (.found _ _) => .error ⟨.alreadyThere, p⟩
  | .ok (.free place) => .ok (t.insert place .dir)
  | .error e => .error ⟨e, p⟩

/-- Accepts a refusal where a directory is there already. -/
def unlessDirectory (t : FileTree) (s : Surroundings) (p : Path) (fault : FileFault) :
    Except FileFault FileTree := do
  if ← t.isDirectory s p then return t else .error fault

/-- Makes a directory and those above it, as far as they are missing. The tree is returned with
    what was made, also when the last step is refused. -/
def makeDirectories (t : FileTree) (s : Surroundings) (p : Path) :
    Nat → FileTree × Option FileFault
  | 0 => (t, some ⟨.noEntry, p⟩)
  | fuel + 1 =>
    match t.makeDirectory s p with
    | .ok t => (t, none)
    | .error fault =>
      if fault.error = .noEntry then
        if p.names.isEmpty then (t, some fault)
        else
          match t.makeDirectories s p.parent fuel with
          | (t, some fault) => (t, some fault)
          | (t, none) =>
            match t.makeDirectory s p with
            | .ok t => (t, none)
            | .error fault =>
              match t.unlessDirectory s p fault with
              | .ok t => (t, none)
              | .error fault => (t, some fault)
      else
        match t.unlessDirectory s p fault with
        | .ok t => (t, none)
        | .error fault => (t, some fault)

/-- Makes a directory and those above it. -/
def ensureDirectory (t : FileTree) (s : Surroundings) (p : Path) : FileTree × Option FileFault :=
  t.makeDirectories s p (p.names.length + 1)

/-- A place of the root that nothing occupies. -/
def freshPlace (t : FileTree) : Location :=
  let longest := t.entries.foldl (fun n e => max n ((e.1.headD "").length)) 0
  [String.ofList (List.replicate (longest + 1) '_')]

end Bindery.FileTree

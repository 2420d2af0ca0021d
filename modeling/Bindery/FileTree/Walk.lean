import Bindery.FileTree.Basic
import Bindery.Text.Utf8

/- Where a path leads. Following a path passes links, at most forty of them, and needs every name
   but the last to be a directory; resolving a path goes on, where nothing is found, as if the names
   were directories still to be made. -/
namespace Bindery

/-- Where programs run: their working directory and the home directory. -/
structure Surroundings where
  workingDirectory : Location
  home : String
  deriving DecidableEq, Repr

namespace FileTree

/-- Where a path ended. -/
inductive Spot where
  | found (place : Location) (node : Node)
  /-- Nothing is there, but its directory is. -/
  | free (place : Location)
  deriving DecidableEq, Repr

def maxLinks : Nat := 40

/-- The longest name, in bytes. -/
def maxName : Nat := 255

/-- The names a link's target asks to follow, and from where. -/
def targetOf (here : Location) (target : String) : Location × List String :=
  let p := Path.ofText target
  (if p.isAbsolute then [] else here, p.names)

/-- Follows names from a directory up to the first link that is to be followed; `onLink` goes on from
    there. The last name is followed through a link only if `last`. -/
def followWith (t : FileTree) (last : Bool)
    (onLink : Location → List String → Except FileError Spot) (here : Location) :
    List String → Except FileError Spot
  | [] =>
    match t.find? here with
    | some node => .ok (.found here node)
    | none => .error .noEntry
  | name :: rest =>
    if t.find? here ≠ some .dir then
      .error (if (t.find? here).isSome then .notDirectory else .noEntry)
    else if name.toList.contains '\x00' then .error .nullCharacter
    else if name = ".." then followWith t last onLink here.dropLast rest
    else if maxName < name.utf8ByteSize then .error .nameTooLong
    else
      let place := here ++ [name]
      match t.find? place with
      | none => if rest.isEmpty then .ok (.free place) else .error .noEntry
      | some (.link target) =>
        if rest.isEmpty && !last then .ok (.found place (.link target))
        else
          let (start, more) := targetOf here target
          onLink start (more ++ rest)
      | some .dir => followWith t last onLink place rest
      | some (.file bytes) =>
        if rest.isEmpty then .ok (.found place (.file bytes)) else .error .notDirectory

/-- Follows names from a directory, through so many links at most. -/
def follow (t : FileTree) (last : Bool) : Nat → Location → List String → Except FileError Spot
  | 0 => followWith t last fun _ _ => .error .tooManyLinks
  | links + 1 => followWith t last (follow t last links)

/-- The place from which a path is followed. -/
def origin (s : Surroundings) (p : Path) : Location := if p.isAbsolute then [] else s.workingDirectory

def spot (t : FileTree) (s : Surroundings) (p : Path) (last : Bool := true) :
    Except FileError Spot :=
  if p.names.any (·.toList.contains '\x00') then .error .nullCharacter
  else t.follow last maxLinks (origin s p) p.names

/-- What a path leads to. -/
def status (t : FileTree) (s : Surroundings) (p : Path) (last : Bool := true) :
    Except FileFault (Location × Node) :=
  match t.spot s p last with
  | .ok (.found place node) => .ok (place, node)
  | .ok (.free _) => .error ⟨.noEntry, p⟩
  | .error e => .error ⟨e, p⟩

/-- As `status`, but a path that leads nowhere is no fault. -/
def status? (t : FileTree) (s : Surroundings) (p : Path) (last : Bool := true) :
    Except FileFault (Option (Location × Node)) :=
  match t.status s p last with
  | .ok found => .ok (some found)
  | .error fault => if fault.error.isAbsence then .ok none else .error fault

def isFile (t : FileTree) (s : Surroundings) (p : Path) : Except FileFault Bool := do
  match ← t.status? s p with
  | some (_, .file _) => return true
  | _ => return false

def isDirectory (t : FileTree) (s : Surroundings) (p : Path) : Except FileFault Bool := do
  match ← t.status? s p with
  | some (_, .dir) => return true
  | _ => return false

def isPresent (t : FileTree) (s : Surroundings) (p : Path) : Except FileFault Bool := do
  return (← t.status? s p).isSome

def isLink (t : FileTree) (s : Surroundings) (p : Path) : Except FileFault Bool := do
  match ← t.status? s p false with
  | some (_, .link _) => return true
  | _ => return false

/-! ### Resolving -/

/-- Links seen on the way, each with what it came to, or nothing while it is being followed. -/
abbrev Seen := List (Location × Option Location)

/-- A resolved place, and whether all links on the way came to an end. -/
structure Resolved where
  place : Location
  complete : Bool
  seen : Seen
  deriving Repr

/-- Names that are only put together, with `..` taking the last one away. -/
def normalize (here : Location) : List String → Location
  | [] => here
  | name :: rest => normalize (if name = ".." then here.dropLast else here ++ [name]) rest

/-- Resolves names from a place. A link that is met while it is being followed stays in the path,
    and so does all behind it. -/
def resolveFrom (t : FileTree) : Nat → Seen → Location → List String → Except FileError Resolved
  | 0, seen, here, _ => .ok ⟨here, true, seen⟩
  | _ + 1, seen, here, [] => .ok ⟨here, true, seen⟩
  | fuel + 1, seen, here, name :: rest =>
    if name = ".." then resolveFrom t fuel seen here.dropLast rest
    else if name.toList.contains '\x00' then .error .nullCharacter
    else
      let place := here ++ [name]
      match t.find? place with
      | some (.link target) =>
        match seen.lookup place with
        | some (some known) => resolveFrom t fuel seen known rest
        | some none => .ok ⟨normalize place rest, false, seen⟩
        | none => do
          let (start, names) := targetOf here target
          let r ← resolveFrom t fuel ((place, none) :: seen) start names
          if r.complete then resolveFrom t fuel ((place, some r.place) :: r.seen) r.place rest
          else return ⟨normalize r.place rest, false, r.seen⟩
      | _ => resolveFrom t fuel seen place rest

/-- Enough steps: every link is followed at most once. -/
def resolveSteps (t : FileTree) (names : List String) : Nat :=
  t.entries.foldl (fun n e =>
    match e.2 with
    | .link target => n + (Path.ofText target).names.length + 1
    | _ => n) (names.length + 1)

/-- Why a path cannot be resolved: a chain of links that never ends, or a path that is none. -/
inductive ResolveFault where
  | loop (path : Path)
  | refused (fault : FileFault)
  deriving DecidableEq, Repr

def pathOf (place : Location) : Path := { slashes := 1, names := place }

/-- The place that a path means, with all links followed and nothing required to exist. -/
def resolve (t : FileTree) (s : Surroundings) (p : Path) : Except ResolveFault Location :=
  match t.resolveFrom (t.resolveSteps p.names) [] (origin s p) p.names with
  | .error e => .error (.refused ⟨e, p⟩)
  | .ok r =>
    match t.status s (pathOf r.place) with
    | .error ⟨.tooManyLinks, q⟩ => .error (.loop q)
    | _ => .ok r.place

def ResolveFault.message : ResolveFault → String
  | .loop p => "Symlink loop from " ++ Text.quoted p.text
  | .refused fault =>
    match fault.error with
    | .nullCharacter => fault.error.reason
    | e => "[Errno " ++ toString e.number ++ "] " ++ e.reason ++ ": " ++ Text.quoted fault.path.text

end FileTree

/-- The text of a refused operation. -/
def FileFault.message (f : FileFault) : String :=
  match f.error with
  | .nullCharacter => f.error.reason
  | e => "[Errno " ++ toString e.number ++ "] " ++ e.reason ++ ": " ++ Text.quoted f.path.text

end Bindery

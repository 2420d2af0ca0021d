import Bindery.Path

/- A tree of files, directories and symbolic links. What is at a place is found by the names that
   lead to it from the root, none of them a link. The root itself is a directory. -/
namespace Bindery

/-- The names that lead from the root to a place. -/
abbrev Location := List String

inductive FileTree.Node where
  | file (bytes : List UInt8)
  | link (target : String)
  | dir
  deriving DecidableEq, Repr

structure FileTree where
  entries : List (Location × FileTree.Node) := []
  deriving DecidableEq, Repr

/-- Why an operation on a file is refused. -/
inductive FileError where
  | noEntry
  | alreadyThere
  | notDirectory
  | isDirectory
  | nameTooLong
  | tooManyLinks
  | notEmpty
  | nullCharacter
  deriving DecidableEq, Repr

namespace FileError

def number : FileError → Nat
  | .noEntry => 2
  | .alreadyThere => 17
  | .notDirectory => 20
  | .isDirectory => 21
  | .nameTooLong => 36
  | .notEmpty => 39
  | .tooManyLinks => 40
  | .nullCharacter => 22

def reason : FileError → String
  | .noEntry => "No such file or directory"
  | .alreadyThere => "File exists"
  | .notDirectory => "Not a directory"
  | .isDirectory => "Is a directory"
  | .nameTooLong => "File name too long"
  | .notEmpty => "Directory not empty"
  | .tooManyLinks => "Too many levels of symbolic links"
  | .nullCharacter => "embedded null byte"

/-- These only say that a path leads nowhere. -/
def isAbsence : FileError → Bool
  | .noEntry | .notDirectory | .tooManyLinks | .nullCharacter => true
  | _ => false

end FileError

/-- A refused operation and the path it was given. -/
structure FileFault where
  error : FileError
  path : Path
  deriving DecidableEq, Repr

namespace FileTree

/-- What is at a place. -/
def find? (t : FileTree) (at_ : Location) : Option Node :=
  if at_.isEmpty then some .dir else t.entries.lookup at_

/-- Puts a node at a place, in the stead of what is there. -/
def insert (t : FileTree) (at_ : Location) (node : Node) : FileTree :=
  if t.entries.any (·.1 == at_) then
    ⟨t.entries.map fun x => if x.1 == at_ then (at_, node) else x⟩
  else ⟨t.entries ++ [(at_, node)]⟩

/-- Whether a place lies strictly below another one. -/
def isBelow (top place : Location) : Bool := top.isPrefixOf place && top.length < place.length

/-- Removes what is at a place, with all that is below it. -/
def erase (t : FileTree) (at_ : Location) : FileTree :=
  ⟨t.entries.filter fun x => !(at_.isPrefixOf x.1)⟩

/-- All that lies strictly below a place. -/
def below (t : FileTree) (top : Location) : List (Location × FileTree.Node) :=
  t.entries.filter fun x => isBelow top x.1

/-- Makes the directories on the way to a place. -/
def withParents (t : FileTree) (at_ : Location) : FileTree :=
  (List.range at_.length).foldl (fun t n =>
    let top := at_.take n
    if (t.find? top).isSome then t else t.insert top .dir) t

end FileTree
end Bindery

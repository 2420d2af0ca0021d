import Bindery.Text.Blank

/- Paths as texts: names parted by slashes, perhaps behind one root slash or two. Empty names and
   single dots stand for nothing; two dots are kept, since what is above a name depends on links. -/
namespace Bindery

structure Path where
  /-- How many slashes the path begins with: none, one, or two. -/
  slashes : Nat := 0
  names : List String := []
  deriving DecidableEq, Repr

namespace Path

/-- The names of a text that mean something. -/
def namesOf (cs : List Char) : List String :=
  ((Text.splitAt '/' cs).map String.ofList).filter fun name => name ≠ "" && name ≠ "."

/-- Two leading slashes are kept, more are one. -/
def leading (cs : List Char) : Nat :=
  let n := (cs.takeWhile (· = '/')).length
  if n ≤ 2 then n else 1

def ofText (text : String) : Path :=
  let cs := text.toList
  { slashes := leading cs, names := namesOf cs }

def isAbsolute (p : Path) : Bool := p.slashes ≠ 0

def root (p : Path) : String := String.ofList (List.replicate p.slashes '/')

/-- The path as a text; the path of nothing is a dot. -/
def text (p : Path) : String :=
  if p.slashes = 0 && p.names.isEmpty then "." else p.root ++ "/".intercalate p.names

/-- A path below another one. An absolute path stands for itself. -/
def join (p q : Path) : Path :=
  if q.isAbsolute then q else { p with names := p.names ++ q.names }

def child (p : Path) (name : String) : Path := { p with names := p.names ++ [name] }

/-- The path without its last name. -/
def parent (p : Path) : Path := { p with names := p.names.dropLast }

/-- The root, if any, and the names. -/
def parts (p : Path) : List String := if p.isAbsolute then p.root :: p.names else p.names

/-- Whether `p` lies at `q` or below it. -/
def isWithin (p q : Path) : Bool := p.slashes == q.slashes && q.names.isPrefixOf p.names

/-- What is left of `p` behind `q`. -/
def relativeTo? (p q : Path) : Option Path :=
  if p.isWithin q then some { names := p.names.drop q.names.length } else none

/-- Whether the first parts of a path are those of an output directory. A directory without parts
    has nothing below it. -/
def isUnder (output : Path) (p : Path) : Bool :=
  !output.parts.isEmpty && output.parts.isPrefixOf p.parts

/-- Why a home directory cannot be told. -/
def unknownHomeMessage : String := "Could not determine home directory."

/-- The path with a leading `~` replaced by a home directory; `none` when the home of a named user
    is asked for and not known. -/
def expandHome (home : String) (p : Path) : Option Path :=
  if p.isAbsolute then some p
  else match p.names with
    | name :: rest =>
      if name = "~" then some ((ofText home).join { names := rest })
      else if name = "~root" then some ((ofText "/root").join { names := rest })
      else if name.startsWith "~" then none
      else some p
    | [] => some p

end Path
end Bindery

import Bindery.Expansion

/- The log of a run: lines of a level, each from one part of the program. Only lines of the level that
   is asked for, or of a higher one, are shown. -/
namespace Bindery.Log

inductive Level where
  | debug
  | info
  | warning
  | error
  deriving DecidableEq, Repr

namespace Level

def all : List Level := [.debug, .info, .warning, .error]

def name : Level → String
  | .debug => "DEBUG"
  | .info => "INFO"
  | .warning => "WARNING"
  | .error => "ERROR"

def ofName? (name : String) : Option Level := all.find? fun l => l.name == name

def rank : Level → Nat
  | .debug => 0
  | .info => 1
  | .warning => 2
  | .error => 3

end Level

structure Line where
  level : Level
  origin : String
  message : String
  deriving DecidableEq, Repr

def Line.text (l : Line) : String := l.level.name ++ " " ++ l.origin ++ ": " ++ l.message ++ "\n"

/-- The lines that are shown at a level, as one text. -/
def shown (least : Level) (lines : List Line) : String :=
  String.join ((lines.filter fun l => least.rank ≤ l.level.rank).map Line.text)

/-- An item has found its place in a registry. -/
def registered (e : Entry) : Line :=
  { level := .debug
    origin := "pymodgen.pymodule.registry"
    message := "registered " ++ e.item.kind.text ++ " " ++ e.item.ident ++ " as " ++
      Text.quoted e.item.name ++ " (" ++ toString e.guards.length ++ " guards)" }

/-- A body has been expanded. -/
def expandedBody (path : Option String) (e : Expansion) : Line :=
  let path := path.getD ""
  { level := .debug
    origin := "pymodgen.pymodule.driver"
    message := "expanded " ++ (if path.isEmpty then "<source>" else path) ++ " as " ++
      Text.quoted e.moduleName ++ " with " ++ toString e.registry.size ++ " items" }

/-- A file of a tree has been expanded. -/
def expandedFile (path : String) (e : Expansion) : Line :=
  { level := .info
    origin := "pymodgen.artifacts.write"
    message := "expanded " ++ path ++ " (" ++ e.moduleName ++ ", " ++
      toString e.registry.size ++ " items)" }

/-- The registry that a walk leaves, also when a fault stops it. -/
def registryOf (ds : List Declaration) : Registry :=
  match Walk.ofDeclarations ds with
  | .ok w => w.registry
  | .error stop => stop.walk.registry

/-- What the expansion of declarations logs, given its outcome. -/
def ofExpansion (path : Option String) (ds : List Declaration)
    (found : Except Expansion.Fault Expansion) : List Line :=
  (registryOf ds).entries.map registered ++
    match found with
    | .ok e => [expandedBody path e]
    | .error _ => []

end Bindery.Log

import Bindery.Declarations
import Bindery.Glue

/- Expansion of a module body: its declarations are walked in order into one registry, the rows of
   the consumed annotations are dropped, and the code that registers the items is appended. -/
namespace Bindery

/-- A walk over declarations: the registry they fill, the declarations that are left, and what was
    consumed and found on the way. -/
structure Walk where
  registry : Registry := {}
  declarations : List Declaration := []
  removed : List Annotation := []
  diagnostics : List Diagnostic := []
  deriving Repr

namespace Walk

/-- What is left of a walk that a fault stops: the declarations from the faulty one on are as they
    were. -/
structure Stop where
  fault : Registry.Fault
  walk : Walk
  deriving Repr

def append (w : Walk) (found : Registry.Extraction) : Walk :=
  { registry := found.registry
    declarations := w.declarations ++ [found.declaration]
    removed := w.removed ++ found.removed
    diagnostics := w.diagnostics ++ found.diagnostics }

/-- Goes on over further declarations. -/
def along (w : Walk) : List Declaration → Except Stop Walk
  | [] => .ok w
  | d :: ds =>
    match w.registry.extract d with
    | .error stop =>
      .error ⟨stop.fault, { w with
        declarations := w.declarations ++ d :: ds
        diagnostics := w.diagnostics ++ stop.diagnostics }⟩
    | .ok found => (w.append found).along ds

/-- Walks over declarations with an empty registry. -/
def ofDeclarations (ds : List Declaration) : Except Stop Walk := along {} ds

end Walk

/-- An expanded module body. -/
structure Expansion where
  moduleName : String
  source : String
  registry : Registry
  declarations : List Declaration
  deriving Repr

namespace Expansion

/-- What keeps a body from being expanded. -/
inductive Fault where
  | problems (batch : Diagnostic.Batch)
  | registry (fault : Registry.Fault)
  deriving Repr

def Fault.ofRead : Declaration.ReadFault → Fault
  | .unreadable d => .problems ⟨d, []⟩
  | .source f => .registry (.source f)

/-- The name of a body whose path gives none. -/
def defaultIdent : String := "module"

def identOfPath (path : Option String) : String :=
  match path with
  | some p => if p.isEmpty then defaultIdent else (ModuleName.defaultName? p).getD defaultIdent
  | none => defaultIdent

def rowsOf (annotations : List Annotation) : List Glue.Rows :=
  annotations.map fun a => ⟨a.firstRow, a.lastRow⟩

/-- The text of an expanded body. -/
def expandedSource (name source : String) (w : Walk) : Except SourceFault String := do
  let statements ← Glue.registrations w.registry.entries
  return Glue.append (Glue.strip source (rowsOf w.removed)) (Glue.tail name statements)

/-- Expands a body whose declarations are known. The declarations that are left come with either
    outcome. -/
def ofDeclarations (source : String) (path moduleName : Option String) (ds : List Declaration) :
    Except Fault Expansion × List Declaration :=
  let name := ModuleName.resolve (identOfPath path) moduleName
  match Walk.ofDeclarations ds with
  | .error stop => (.error (.registry stop.fault), stop.walk.declarations)
  | .ok w =>
    match Diagnostic.Batch.ofList? w.diagnostics with
    | some batch => (.error (.problems batch), w.declarations)
    | none =>
      match expandedSource name source w with
      | .error f => (.error (.registry (.source f)), w.declarations)
      | .ok text => (.ok ⟨name, text, w.registry, w.declarations⟩, w.declarations)

/-- Expands a body. -/
def ofSource (source : String) (path moduleName : Option String) : Except Fault Expansion := do
  let ds ← (Declaration.ofSource source path).mapError Fault.ofRead
  (ofDeclarations source path moduleName ds).1

end Expansion
end Bindery

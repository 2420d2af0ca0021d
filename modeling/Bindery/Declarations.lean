import Bindery.Binding
import Bindery.Body.Repair

/- The declarations of a module body, in the order of the text. Only definitions on the top level
   are declarations. A body that cannot be read has one problem. -/
namespace Bindery

namespace Declaration

/-- The last part of a dotted text. -/
def lastPart (text : String) : String := ModuleName.lastName text

/-- Bases that make an enumeration of a class. -/
def enumBases : List String := ["Enum", "IntEnum", "StrEnum", "Flag", "IntFlag"]

def Kind.ofDefinition (d : Body.Definition) : Kind :=
  if !d.isClass then .function
  else if d.bases.any fun base => enumBases.contains (lastPart base) then .enum
  else .struct

end Declaration

/-- A place of a file. -/
def Span.ofPlace (path : Option String) (p : Place) : Span :=
  { path, line := some p.line, col := some (p.column + 1) }

/-- Reads the directive behind a decorator's `@`. -/
def Annotation.ofDecorator (path : Option String) (d : Body.Decorator) :
    Except SourceFault Annotation := do
  let directive ← Directive.read d.source (Span.ofPlace path d.sourceStart)
  return {
    name := directive.bind Directive.ident?
    directive
    source := d.source
    span := Span.ofPlace path d.start
    firstRow := d.start.line - 1
    lastRow := d.sourceEnd.line - 1 }

namespace Declaration

/-- Why a body has no declarations. -/
inductive ReadFault where
  | unreadable (problem : Diagnostic)
  | source (fault : SourceFault)
  deriving Repr

def annotationsOf (path : Option String) :
    List Body.Decorator → Except SourceFault (List Annotation)
  | [] => .ok []
  | d :: ds => do
    let a ← Annotation.ofDecorator path d
    let more ← annotationsOf path ds
    return a :: more

def ofDefinition (path : Option String) (decorators : List Body.Decorator) (d : Body.Definition) :
    Except SourceFault Declaration := do
  return {
    kind := .ofDefinition d
    ident := d.name
    span := Span.ofPlace path d.start
    annotations := ← annotationsOf path decorators }

def ofStatements (path : Option String) :
    List Body.Statement → Except SourceFault (List Declaration)
  | [] => .ok []
  | .definition decorators d :: rest => do
    let found ← ofDefinition path decorators d
    let more ← ofStatements path rest
    return found :: more
  | .other :: rest => ofStatements path rest

def unreadableMessage : String := "module body has syntax errors and cannot be expanded"

/-- The declarations of a body. -/
def ofSource (source : String) (path : Option String) : Except ReadFault (List Declaration) :=
  match Body.statements source with
  | .error _ =>
    .error (.unreadable ⟨unreadableMessage, Span.ofPlace path (Body.Repair.placeOf source)⟩)
  | .ok found => (ofStatements path found).mapError .source

end Declaration
end Bindery

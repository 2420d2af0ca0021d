import Bindery.Arguments
import Bindery.Declaration
import Bindery.Item

/- The four directives that bind a declaration, and the item that each one makes of it. -/
namespace Bindery

inductive Binding where
  | function
  | attr
  | classObject
  | structSequence
  deriving DecidableEq, Repr

namespace Binding

def all : List Binding := [.function, .attr, .classObject, .structSequence]

def name : Binding → String
  | .function => "pyfunction"
  | .attr => "pyattr"
  | .classObject => "pyclass"
  | .structSequence => "pystruct_sequence"

def ofName? (name : String) : Option Binding := all.find? fun b => b.name == name

def names : List String := all.map Binding.name

/-- The kind of declaration that the directive may stand on. -/
def expects : Binding → Declaration.Kind
  | .function | .attr => .function
  | .classObject | .structSequence => .struct

def itemKind : Binding → Item.Kind
  | .function => .function
  | .attr => .attr
  | .classObject | .structSequence => .classObject

def allowed : Binding → List String
  | .structSequence => Arguments.structSequenceNames
  | _ => Arguments.simpleNames

/-- A directive on a declaration of the wrong kind is a mistake in the program that calls, not a
    problem of the source. -/
structure KindMismatch where
  binding : Binding
  found : Declaration.Kind
  ident : String
  deriving DecidableEq, Repr

def KindMismatch.message (m : KindMismatch) : String :=
  "@" ++ m.binding.name ++ " on " ++ m.found.text ++ " '" ++ m.ident ++ "', expected a " ++
    m.binding.expects.text ++ " declaration"

/-- The arguments of a directive; the assigned form is a problem of its own. -/
def argumentsOf (b : Binding) (d : Directive) : Except Diagnostic.Batch (List Argument) :=
  match d.argumentList with
  | .ok args => .ok args
  | .error _ => .error (.single d.span (Directive.assignedMessage b.name))

/-- The item that a directive makes of the declaration it stands on. -/
def classify (b : Binding) (ident : String) (d : Directive) (span : Span) :
    Except Diagnostic.Batch Item := do
  let args ← b.argumentsOf d
  let checked ← Arguments.ofList b.name ident args b.allowed (some span)
  return { kind := b.itemKind, ident, name := checked.name }

end Binding

namespace Annotation

/-- The name by which guards are recognized. -/
def guardName : String := "cfg"

def isGuard (a : Annotation) : Bool := a.directive.isSome && a.name == some guardName

/-- The binding that the annotation asks for. -/
def binding? (a : Annotation) : Option Binding :=
  if a.directive.isSome then a.name.bind Binding.ofName? else none

def isBinding (a : Annotation) : Bool := a.binding?.isSome

end Annotation
end Bindery

import Bindery.Directive

/- Top-level declarations of a module body and the decorators on them. -/
namespace Bindery

/-- A decorator: the text behind its `@`, the directive it is, if any, and the rows (counted from
    zero) that it occupies. -/
structure Annotation where
  name : Option String
  directive : Option Directive
  source : String
  span : Span
  firstRow : Nat
  lastRow : Nat
  deriving Repr

inductive Declaration.Kind where
  | function
  | struct
  | enum
  deriving DecidableEq, Repr

def Declaration.Kind.text : Declaration.Kind → String
  | .function => "function"
  | .struct => "struct"
  | .enum => "enum"

structure Declaration where
  kind : Declaration.Kind
  ident : String
  span : Span
  annotations : List Annotation
  deriving Repr

end Bindery

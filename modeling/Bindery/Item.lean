/- What a module can bind: a function, an attribute computed once, or a class. -/
namespace Bindery

inductive Item.Kind where
  | function
  | attr
  | classObject
  deriving DecidableEq, Repr

/-- An identifier of the module body, bound under an external name. -/
structure Item where
  kind : Item.Kind
  ident : String
  name : String
  deriving DecidableEq, Repr

def Item.Kind.text : Item.Kind → String
  | .function => "function"
  | .attr => "attr"
  | .classObject => "class"

end Bindery

import Bindery.Number.Binary64

/- Expressions as trees. Layout, redundant parentheses and the spelling of constants are not part
   of a tree, so two sources that differ only in those have equal trees. -/
namespace Bindery

/-- A constant by type and value. A text remembers whether it was marked as Unicode text. -/
inductive Constant where
  | none
  | true
  | false
  | ellipsis
  | integer (n : Nat)
  | real (x : Number.Binary64)
  | imaginary (x : Number.Binary64)
  | text (s : String) (marked : Bool)
  | bytes (bs : List UInt8)
  deriving DecidableEq, Repr

inductive BinaryOp where
  | add | sub | mult | matMult | div | mod | pow | lshift | rshift | bitOr | bitXor | bitAnd | floorDiv
  deriving DecidableEq, Repr

inductive UnaryOp where
  | invert | not | plus | minus
  deriving DecidableEq, Repr

inductive CompareOp where
  | eq | notEq | lt | ltE | gt | gtE | is | isNot | isIn | notIn
  deriving DecidableEq, Repr

inductive LogicalOp where
  | and | or
  deriving DecidableEq, Repr

mutual

inductive Expr where
  | constant (c : Constant)
  | name (id : String)
  | attribute (value : Expr) (attr : String)
  | subscript (value index : Expr)
  | call (callee : Expr) (arguments : List Expr) (keywords : List Keyword)
  | logical (op : LogicalOp) (operands : List Expr)
  | named (target : String) (value : Expr)
  | binary (left : Expr) (op : BinaryOp) (right : Expr)
  | unary (op : UnaryOp) (operand : Expr)
  | lambda (positionalOnly positional : List Parameter) (rest : Option String)
      (keywordOnly : List Parameter) (extra : Option String) (body : Expr)
  | conditional (test body orelse : Expr)
  | dict (items : List DictItem)
  | set (elements : List Expr)
  | list (elements : List Expr)
  | tuple (elements : List Expr)
  | listComp (element : Expr) (generators : List Generator)
  | setComp (element : Expr) (generators : List Generator)
  | dictComp (key value : Expr) (generators : List Generator)
  | generatorExp (element : Expr) (generators : List Generator)
  | await (value : Expr)
  | yield (value : Option Expr)
  | yieldFrom (value : Expr)
  | compare (left : Expr) (rest : List Comparison)
  | formatted (value : Expr) (conversion : Option Char) (spec : Option Expr)
  | joined (parts : List Expr)
  | starred (value : Expr)
  | slice (lower upper step : Option Expr)

/-- `name=value`, or `**value` without a name. -/
inductive Keyword where
  | mk (name : Option String) (value : Expr)

/-- `key: value`, or `**value`. -/
inductive DictItem where
  | pair (key value : Expr)
  | spread (value : Expr)

/-- `for target in source if condition ...` -/
inductive Generator where
  | mk (isAsync : Bool) (target source : Expr) (conditions : List Expr)

/-- A parameter with its default. -/
inductive Parameter where
  | mk (name : String) (default : Option Expr)

/-- One operator and right operand of a chain of comparisons. -/
inductive Comparison where
  | mk (op : CompareOp) (right : Expr)

end

deriving instance Repr for Expr, Keyword, DictItem, Generator, Parameter, Comparison
deriving instance BEq for Expr, Keyword, DictItem, Generator, Parameter, Comparison

instance : Inhabited Expr := ⟨.constant .none⟩

namespace Expr

/-- A name, or attributes of a name: the dotted path it spells. -/
def dottedName? : Expr → Option String
  | .name id => some id
  | .attribute value attr => (dottedName? value).map fun path => path ++ "." ++ attr
  | _ => .none

end Expr
end Bindery

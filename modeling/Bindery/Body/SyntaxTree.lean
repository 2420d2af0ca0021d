/- The tree of a text that is read to its end whatever faults it has: what could not be placed
   stands below a node of its own kind, and a mark that had to be supplied is a missing leaf.
   Every node says whether something is wrong at or below it. -/
namespace Bindery.Body

/-- A node with what is below it. What it holds tells it from other nodes of the same shape. -/
inductive SyntaxTree (α : Type) where
  | node (kind : String) (held : α) (isMissing hasError : Bool) (children : List (SyntaxTree α))
  deriving Repr

namespace SyntaxTree
variable {α : Type}

def kind : SyntaxTree α → String
  | node kind _ _ _ _ => kind

def held : SyntaxTree α → α
  | node _ held _ _ _ => held

def isMissing : SyntaxTree α → Bool
  | node _ _ isMissing _ _ => isMissing

def hasError : SyntaxTree α → Bool
  | node _ _ _ hasError _ => hasError

/-- The kind of the nodes that hold what could not be placed. -/
def errorKind : String := "ERROR"

def isFault (t : SyntaxTree α) : Bool := t.kind == errorKind || t.isMissing

mutual

/-- Looks for a fault from the root down, below no node that says nothing is wrong. -/
def firstFault : SyntaxTree α → Option (SyntaxTree α)
  | node kind held isMissing hasError children =>
    if kind == errorKind || isMissing then some (node kind held isMissing hasError children)
    else firstFaultAmong children

def firstFaultAmong : List (SyntaxTree α) → Option (SyntaxTree α)
  | [] => none
  | child :: rest =>
    if child.hasError || child.isMissing then
      match firstFault child with
      | some found => some found
      | none => firstFaultAmong rest
    else firstFaultAmong rest

end

/-- The node that stands for the problem of a tree: the whole tree where no node shows it. -/
def problem (t : SyntaxTree α) : SyntaxTree α := t.firstFault.getD t

end SyntaxTree
end Bindery.Body

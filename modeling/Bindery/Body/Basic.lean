import Bindery.Body.Word

/- What is read off a module body: its statements, of which only the definitions of functions and
   classes are kept apart, with their decorators. -/
namespace Bindery.Body

/-- A decorator: the place of its `@`, the text of its expression, and where that begins and ends. Where
    the lines behind the `@` are joined, the first join stands for the expression. -/
structure Decorator where
  start : Place
  source : String
  sourceStart : Place
  sourceEnd : Place
  deriving DecidableEq, Repr

/-- A function, or a class with those of its bases that are names, attributes or subscripts. -/
structure Definition where
  isClass : Bool
  name : String
  start : Place
  bases : List String := []
  deriving DecidableEq, Repr

inductive Statement where
  | definition (decorators : List Decorator) (definition : Definition)
  | other
  deriving DecidableEq, Repr

/-- What kind of expression was read, as far as its use as a target or as a base depends on it. -/
inductive Shape where
  | name
  | attribute
  /-- A subscript, with the place behind what it subscripts. -/
  | subscript (valueEnd : Nat)
  /-- Brackets or a star around targets. -/
  | targets
  /-- A starred expression that is no target. -/
  | starred
  | other
  deriving DecidableEq, Repr

namespace Shape

/-- Names, attributes and subscripts. -/
def isSimpleTarget : Shape → Bool
  | .name | .attribute | .subscript _ => true
  | _ => false

def isTarget : Shape → Bool
  | .targets => true
  | s => s.isSimpleTarget

/-- A starred expression. -/
def afterStar (s : Shape) : Shape := if s.isSimpleTarget then .targets else .starred

/-- Brackets around elements. -/
def ofElements (allTargets : Bool) : Shape := if allTargets then .targets else .other

end Shape

/-- What may stand behind a complete expression. -/
structure Tail where
  newline : Bool := false
  closer : Bool := false
  /-- Whether an `if` behind the expression belongs to it. -/
  conditional : Bool := true
  deriving DecidableEq, Repr

namespace Tail

/-- Behind an expression. -/
def expect (t : Tail) : Expect := { newline := t.newline, closer := t.closer }

/-- Where a further expression may begin too. -/
def expectMore (t : Tail) : Expect := { t.expect with text := true }

def inBrackets : Tail := { closer := true }

def inClause : Tail := { closer := true, conditional := false }

def inStatement : Tail := { newline := true }

end Tail

/-- Where an expression must begin. -/
def Expect.operand : Expect := { text := true }

/-- Where an element of brackets, or their end, may come. -/
def Expect.element : Expect := { text := true, closer := true }

def Expect.nothing : Expect := {}

namespace Cursor

/-- The next visible character; a place before an unexpected layout mark is where reading sticks. -/
def see (x : Expect) (c : Cursor) : Except Cursor Cursor :=
  match c.look x with
  | (.visible, c) => .ok c
  | (_, _) => .error c

/-- Passes a mark. -/
def pass (m : String) (c : Cursor) : Except Cursor Cursor :=
  match c.mark? m with
  | some c => .ok c
  | none => .error c

/-- Passes a word. -/
def passWord (w : String) (c : Cursor) : Except Cursor Cursor :=
  if c.atWord w then .ok (c.skip w.length) else .error c

def passName (c : Cursor) : Except Cursor (String × Cursor) :=
  match c.name? with
  | some found => .ok found
  | none => .error c

/-- The text between two places. -/
def textUpTo (c : Cursor) (offset : Nat) : String := String.ofList (c.rest.take (offset - c.offset))

end Cursor

/-- The first reading or, when it sticks, the second; of two that stick the one that came further. -/
def firstOf {α : Type} (a : Except Cursor α) (b : Unit → Except Cursor α) : Except Cursor α :=
  match a with
  | .ok r => .ok r
  | .error c =>
    match b () with
    | .ok r => .ok r
    | .error d => .error (if c.offset ≤ d.offset then d else c)

end Bindery.Body

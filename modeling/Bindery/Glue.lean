import Bindery.Registry

/- The code that registers a module's items: one statement for each item, in a routine appended to
   the module body, and the body itself without the rows of its binding annotations. -/
namespace Bindery.Glue

def indent : String := "    "

/-- The value that is bound. -/
def value (item : Item) : String :=
  match item.kind with
  | .function =>
    "vm.ctx.new_function_named(" ++ item.ident ++ ", MODULE_NAME, " ++ Text.quoted item.name ++ ")"
  | .attr => "vm.new_pyobj(" ++ item.ident ++ "(vm))"
  | .classObject => item.ident ++ ".make_class(vm.ctx)"

def statement (item : Item) : String :=
  "vm.set_module_attr(module, " ++ Text.quoted item.name ++ ", " ++ value item ++ ")"

/-- The conditions of all guards, in order, as texts. -/
def conditions : List Guard → Except SourceFault (List String)
  | [] => .ok []
  | g :: gs => do
    let s ← g.render
    let ss ← conditions gs
    return s :: ss

/-- The lines that register an item: its statement, under one condition if it has guards. -/
def registration (item : Item) (guards : List Guard) : Except SourceFault (List String) := do
  if guards.isEmpty then return [statement item]
  let cs ← conditions guards
  return ["if " ++ " and ".intercalate cs ++ ":", indent ++ statement item]

def registrations : List Entry → Except SourceFault (List (List String))
  | [] => .ok []
  | e :: es => do
    let lines ← registration e.item e.guards
    let more ← registrations es
    return lines :: more

/-- The lines appended to a module body. A routine without statements passes. -/
def tailLines (moduleName : String) (statements : List (List String)) : List String :=
  let body := statements.flatten.map (indent ++ ·)
  ["MODULE_NAME = " ++ Text.quoted moduleName, "", "", "def extend_module(vm, module):"] ++
    (if body.isEmpty then [indent ++ "pass"] else body) ++
    ["", "", "def make_module(vm):",
     indent ++ "module = vm.new_module(MODULE_NAME, vm.ctx.new_dict())",
     indent ++ "extend_module(vm, module)", indent ++ "return module"]

def tail (moduleName : String) (statements : List (List String)) : String :=
  "\n".intercalate (tailLines moduleName statements) ++ "\n"

/-- A range of rows, both ends included, counted from zero. -/
structure Rows where
  first : Nat
  last : Nat
  deriving DecidableEq, Repr

def Rows.has (r : Rows) (row : Nat) : Bool := r.first ≤ row && row ≤ r.last

/-- The lines outside the ranges. -/
def keepRows (ranges : List Rows) (row : Nat) : List (List Char) → List (List Char)
  | [] => []
  | line :: rest =>
    if ranges.any (·.has row) then keepRows ranges (row + 1) rest
    else line :: keepRows ranges (row + 1) rest

/-- The source without the rows of the ranges. Only a line feed ends a row. -/
def strip (source : String) (ranges : List Rows) : String :=
  if ranges.all fun r => r.last < r.first then source
  else String.ofList
    (Text.joinWith ['\n'] (keepRows ranges 0 (Text.splitAt '\n' source.toList)))

/-- The body without the line feeds at its end, two blank lines, and the tail. -/
def append (source tail : String) : String :=
  let body := (source.toList.reverse.dropWhile (· = '\n')).reverse
  if body.isEmpty then tail else String.ofList body ++ "\n\n\n" ++ tail

end Bindery.Glue

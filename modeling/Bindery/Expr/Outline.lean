import Bindery.Expr.Printer

/- The outline of an expression: the tree written out constructor by constructor, with every field
   by name and every constant in quoted form. Fields that are absent are left out. It serves as the
   key of a structure: layout is not part of it, the type of a constant is. -/
namespace Bindery.Outline

def binaryName : BinaryOp → String
  | .add => "Add" | .sub => "Sub" | .mult => "Mult" | .matMult => "MatMult" | .div => "Div"
  | .mod => "Mod" | .pow => "Pow" | .lshift => "LShift" | .rshift => "RShift" | .bitOr => "BitOr"
  | .bitXor => "BitXor" | .bitAnd => "BitAnd" | .floorDiv => "FloorDiv"

def unaryName : UnaryOp → String
  | .invert => "Invert" | .not => "Not" | .plus => "UAdd" | .minus => "USub"

def compareName : CompareOp → String
  | .eq => "Eq" | .notEq => "NotEq" | .lt => "Lt" | .ltE => "LtE" | .gt => "Gt" | .gtE => "GtE"
  | .is => "Is" | .isNot => "IsNot" | .isIn => "In" | .notIn => "NotIn"

def logicalName : LogicalOp → String
  | .and => "And"
  | .or => "Or"

/-- A node: its name and its fields in order. -/
def node (name : String) (fields : List (String × String)) : String :=
  name ++ "(" ++ ", ".intercalate (fields.map fun (field, value) => field ++ "=" ++ value) ++ ")"

def sequence (parts : List String) : String := "[" ++ ", ".intercalate parts ++ "]"

/-- Whether a place is read or assigned to. -/
inductive Role where
  | read
  | assigned
  deriving DecidableEq, Repr

def Role.text : Role → String
  | .read => "Load()"
  | .assigned => "Store()"

/-- Constants in the form that reads back with the same type; beyond the largest double the word
    for infinity. -/
def constantText : Constant → Except PrintFault String
  | .none => .ok "None"
  | .true => .ok "True"
  | .false => .ok "False"
  | .ellipsis => .ok "Ellipsis"
  | .integer n => Printer.integerText n
  | .real x => .ok x.text
  | .imaginary x => .ok x.imaginaryText
  | .text s _ => .ok (Text.quoted s)
  | .bytes bs => .ok (Text.quotedBytes bs)

def constantNode (c : Constant) : Except PrintFault String := do
  let value ← constantText c
  let kind := match c with
    | .text _ true => [("kind", "'u'")]
    | _ => []
  return node "Constant" (("value", value) :: kind)

def nameNode (id : String) (role : Role) : String :=
  node "Name" [("id", Text.quoted id), ("ctx", role.text)]

def parameterNode (name : String) : String := node "arg" [("arg", Text.quoted name)]

def conversionText : Option Char → String
  | none => "-1"
  | some c => toString c.toNat

mutual

/-- The outline of an expression in the given role, which targets hand down to their parts. -/
def outline (role : Role) : Expr → Except PrintFault String
  | .constant c => constantNode c
  | .name id => .ok (nameNode id role)
  | .attribute value attr => do
    let v ← outline .read value
    return node "Attribute" [("value", v), ("attr", Text.quoted attr), ("ctx", role.text)]
  | .subscript value index => do
    let v ← outline .read value
    let i ← outline .read index
    return node "Subscript" [("value", v), ("slice", i), ("ctx", role.text)]
  | .call callee args keywords => do
    let f ← outline .read callee
    let xs ← outlineEach .read args
    let ks ← outlineKeywords keywords
    return node "Call" [("func", f), ("args", sequence xs), ("keywords", sequence ks)]
  | .logical op operands => do
    let xs ← outlineEach .read operands
    return node "BoolOp" [("op", node (logicalName op) []), ("values", sequence xs)]
  | .named target value => do
    let v ← outline .read value
    return node "NamedExpr" [("target", nameNode target .assigned), ("value", v)]
  | .binary left op right => do
    let a ← outline .read left
    let b ← outline .read right
    return node "BinOp" [("left", a), ("op", node (binaryName op) []), ("right", b)]
  | .unary op operand => do
    let v ← outline .read operand
    return node "UnaryOp" [("op", node (unaryName op) []), ("operand", v)]
  | .lambda positionalOnly positional rest keywordOnly extra body => do
    let (a, da) ← outlineParameters positionalOnly
    let (b, db) ← outlineParameters positional
    let (c, dc) ← outlineParameters keywordOnly
    let v ← outline .read body
    let vararg := (rest.map fun name => ("vararg", parameterNode name)).toList
    let kwarg := (extra.map fun name => ("kwarg", parameterNode name)).toList
    let parameters := node "arguments"
      ([("posonlyargs", sequence a), ("args", sequence b)] ++ vararg ++
       [("kwonlyargs", sequence c), ("kw_defaults", sequence (dc.map (·.getD "None")))] ++ kwarg ++
       [("defaults", sequence ((da ++ db).filterMap id))])
    return node "Lambda" [("args", parameters), ("body", v)]
  | .conditional test body orelse => do
    let t ← outline .read test
    let b ← outline .read body
    let e ← outline .read orelse
    return node "IfExp" [("test", t), ("body", b), ("orelse", e)]
  | .dict items => do
    let keys ← outlineKeys items
    let values ← outlineValues items
    return node "Dict" [("keys", sequence keys), ("values", sequence values)]
  | .set elements => do
    let xs ← outlineEach .read elements
    return node "Set" [("elts", sequence xs)]
  | .list elements => do
    let xs ← outlineEach role elements
    return node "List" [("elts", sequence xs), ("ctx", role.text)]
  | .tuple elements => do
    let xs ← outlineEach role elements
    return node "Tuple" [("elts", sequence xs), ("ctx", role.text)]
  | .listComp element generators => do
    let e ← outline .read element
    let gs ← outlineGenerators generators
    return node "ListComp" [("elt", e), ("generators", sequence gs)]
  | .setComp element generators => do
    let e ← outline .read element
    let gs ← outlineGenerators generators
    return node "SetComp" [("elt", e), ("generators", sequence gs)]
  | .dictComp key value generators => do
    let k ← outline .read key
    let v ← outline .read value
    let gs ← outlineGenerators generators
    return node "DictComp" [("key", k), ("value", v), ("generators", sequence gs)]
  | .generatorExp element generators => do
    let e ← outline .read element
    let gs ← outlineGenerators generators
    return node "GeneratorExp" [("elt", e), ("generators", sequence gs)]
  | .await value => do
    let v ← outline .read value
    return node "Await" [("value", v)]
  | .yield value => do
    let v ← outlineOption "value" value
    return node "Yield" v
  | .yieldFrom value => do
    let v ← outline .read value
    return node "YieldFrom" [("value", v)]
  | .compare left rest => do
    let l ← outline .read left
    let rs ← outlineComparisons rest
    return node "Compare"
      [("left", l), ("ops", sequence (rs.map (·.1))), ("comparators", sequence (rs.map (·.2)))]
  | .formatted value conversion format => do
    let v ← outline .read value
    let f ← outlineOption "format_spec" format
    return node "FormattedValue" ([("value", v), ("conversion", conversionText conversion)] ++ f)
  | .joined parts => do
    let xs ← outlineEach .read parts
    return node "JoinedStr" [("values", sequence xs)]
  | .starred value => do
    let v ← outline role value
    return node "Starred" [("value", v), ("ctx", role.text)]
  | .slice lower upper step => do
    let l ← outlineOption "lower" lower
    let u ← outlineOption "upper" upper
    let s ← outlineOption "step" step
    return node "Slice" (l ++ u ++ s)

def outlineOption (field : String) : Option Expr → Except PrintFault (List (String × String))
  | none => .ok []
  | some e => do
    let s ← outline .read e
    return [(field, s)]

def outlineEach (role : Role) : List Expr → Except PrintFault (List String)
  | [] => .ok []
  | e :: es => do
    let s ← outline role e
    let ss ← outlineEach role es
    return s :: ss

def outlineKeywords : List Keyword → Except PrintFault (List String)
  | [] => .ok []
  | .mk name value :: rest => do
    let v ← outline .read value
    let vs ← outlineKeywords rest
    let arg := (name.map fun n => ("arg", Text.quoted n)).toList
    return node "keyword" (arg ++ [("value", v)]) :: vs

def outlineKeys : List DictItem → Except PrintFault (List String)
  | [] => .ok []
  | .pair key _ :: rest => do
    let k ← outline .read key
    let ks ← outlineKeys rest
    return k :: ks
  | .spread _ :: rest => do
    let ks ← outlineKeys rest
    return "None" :: ks

def outlineValues : List DictItem → Except PrintFault (List String)
  | [] => .ok []
  | .pair _ value :: rest => do
    let v ← outline .read value
    let vs ← outlineValues rest
    return v :: vs
  | .spread value :: rest => do
    let v ← outline .read value
    let vs ← outlineValues rest
    return v :: vs

def outlineGenerators : List Generator → Except PrintFault (List String)
  | [] => .ok []
  | .mk isAsync target source conditions :: rest => do
    let t ← outline .assigned target
    let s ← outline .read source
    let cs ← outlineEach .read conditions
    let more ← outlineGenerators rest
    return node "comprehension"
      [("target", t), ("iter", s), ("ifs", sequence cs), ("is_async", if isAsync then "1" else "0")]
        :: more

/-- The names of parameters, and their defaults where they have one. -/
def outlineParameters : List Parameter → Except PrintFault (List String × List (Option String))
  | [] => .ok ([], [])
  | .mk name none :: rest => do
    let (ns, ds) ← outlineParameters rest
    return (parameterNode name :: ns, none :: ds)
  | .mk name (some default) :: rest => do
    let d ← outline .read default
    let (ns, ds) ← outlineParameters rest
    return (parameterNode name :: ns, some d :: ds)

def outlineComparisons : List Comparison → Except PrintFault (List (String × String))
  | [] => .ok []
  | .mk op right :: rest => do
    let r ← outline .read right
    let more ← outlineComparisons rest
    return (node (compareName op) [], r) :: more

end

end Bindery.Outline

namespace Bindery

def Expr.outline (e : Expr) : Except PrintFault String := Outline.outline .read e

end Bindery

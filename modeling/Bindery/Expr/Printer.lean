import Bindery.Expr.Basic
import Bindery.Number.Shortest
import Bindery.Text.Quoted
import Bindery.Text.Blank

/- The canonical text of an expression: one layout for every tree, with brackets only where a
   looser expression stands in a tighter place. Two trees cannot be written: an integer beyond the
   decimal limit, and a field of formatted text whose expression needs a backslash. -/
namespace Bindery

inductive PrintFault where
  | hugeInteger
  | backslashInField
  deriving DecidableEq, Repr

def PrintFault.message : PrintFault → String
  | .hugeInteger =>
    "Exceeds the limit (4300 digits) for integer string conversion; use " ++
    "sys.set_int_max_str_digits() to increase the limit"
  | .backslashInField => "Unable to avoid backslash in f-string expression part"

namespace Printer

/-- How tightly an expression binds, and how tight its place is. -/
abbrev Level := Nat

namespace Level

def named : Level := 1
def tuple : Level := 2
def yield : Level := 3
def test : Level := 4
def or : Level := 5
def and : Level := 6
def not : Level := 7
def compare : Level := 8
def operand : Level := 9
def bitXor : Level := 10
def bitAnd : Level := 11
def shift : Level := 12
def sum : Level := 13
def term : Level := 14
def factor : Level := 15
def power : Level := 16
def await : Level := 17
def atom : Level := 18

/-- The next tighter level; nothing is tighter than an atom. -/
def next (l : Level) : Level := if l < atom then l + 1 else atom

end Level

def binaryText : BinaryOp → String
  | .add => "+" | .sub => "-" | .mult => "*" | .matMult => "@" | .div => "/" | .mod => "%"
  | .pow => "**" | .lshift => "<<" | .rshift => ">>" | .bitOr => "|" | .bitXor => "^"
  | .bitAnd => "&" | .floorDiv => "//"

def binaryLevel : BinaryOp → Level
  | .add | .sub => Level.sum
  | .mult | .matMult | .div | .mod | .floorDiv => Level.term
  | .pow => Level.power
  | .lshift | .rshift => Level.shift
  | .bitOr => Level.operand
  | .bitXor => Level.bitXor
  | .bitAnd => Level.bitAnd

def unaryText : UnaryOp → String
  | .invert => "~" | .not => "not " | .plus => "+" | .minus => "-"

def unaryLevel : UnaryOp → Level
  | .not => Level.not
  | _ => Level.factor

def compareText : CompareOp → String
  | .eq => "==" | .notEq => "!=" | .lt => "<" | .ltE => "<=" | .gt => ">" | .gtE => ">="
  | .is => "is" | .isNot => "is not" | .isIn => "in" | .notIn => "not in"

def logicalText : LogicalOp → String
  | .and => " and "
  | .or => " or "

def logicalLevel : LogicalOp → Level
  | .and => Level.and
  | .or => Level.or

/-! ### Constants -/

def integerLimit : Nat := 4300

/-- The decimal text of an integer of at most `integerLimit` digits. -/
def integerText (n : Nat) : Except PrintFault String :=
  if n < Nat.pow 10 integerLimit then .ok (toString n) else .error .hugeInteger

/-- No literal is infinite, but one beyond the largest double reads as infinity. -/
def realText (x : Number.Binary64) : String :=
  match x with
  | .infinite _ => "1e309"
  | _ => x.text

def imaginaryText (x : Number.Binary64) : String :=
  match x with
  | .infinite _ => "1e309j"
  | _ => x.imaginaryText

/-- The delimiters of text, in order of preference. -/
def allQuotes : List String := ["'", "\"", "\"\"\"", "'''"]

def isLong (q : String) : Bool := q.length = 3

/-- A character between quotes. A backslash and what is not printable is escaped; line feeds and
    tabs only on demand. -/
def escapeChar (breaksToo : Bool) (c : Char) : List Char :=
  if !breaksToo && (c = '\n' || c = '\t') then [c]
  else if c = '\\' || !Text.isPrintable c then Text.escaped c
  else [c]

def isInfix (part whole : List Char) : Bool :=
  match whole with
  | [] => part.isEmpty
  | c :: cs => part.isPrefixOf (c :: cs) || isInfix part cs

/-- The text between quotes and the delimiters, of those given, that could enclose it. When none
    could, the quoted form decides. -/
def enclose (s : List Char) (quotes : List String) (breaksToo : Bool) : List Char × List String :=
  let body := s.flatMap (escapeChar breaksToo)
  let possible := if body.contains '\n' then quotes.filter isLong else quotes
  let possible := possible.filter fun q => !isInfix q.toList body
  if possible.isEmpty then
    let form := Text.Quoted.encode s
    let quote := form.headD '\''
    let chosen := (quotes.find? fun q => q.toList.contains quote).getD (String.ofList [quote])
    ((form.drop 1).dropLast, [chosen])
  else
    match body.getLast? with
    | none => (body, possible)
    | some last =>
      let ends (q : String) : Bool := q.toList.head? == some last
      let possible := possible.filter (!ends ·) ++ possible.filter ends
      let body := if (possible.head?.map ends).getD false then body.dropLast ++ ['\\', last] else body
      (body, possible)

/-- Text in the delimiter that needs the fewest backslashes. -/
def plainText (s : List Char) : String :=
  let (body, quotes) := enclose s allQuotes false
  let q := quotes.headD "'"
  q ++ String.ofList body ++ q

/-- `inField` asks for a form without backslashes. -/
def constantText (inField : Bool) : Constant → Except PrintFault String
  | .none => .ok "None"
  | .true => .ok "True"
  | .false => .ok "False"
  | .ellipsis => .ok "..."
  | .integer n => integerText n
  | .real x => .ok (realText x)
  | .imaginary x => .ok (imaginaryText x)
  | .text s marked =>
    .ok ((if marked then "u" else "") ++ (if inField then plainText s.toList else Text.quoted s))
  | .bytes bs => .ok (Text.quotedBytes bs)

/-- Adds a space behind a number that an attribute follows. -/
def beforeDot : Expr → String
  | .constant (.integer _) | .constant .true | .constant .false => " "
  | _ => ""

/-! ### Formatted text -/

/-- A part of formatted text and whether it is literal. -/
abbrev Part := String × Bool

/-- Narrows the delimiters part by part; `none` when two parts share none. -/
def narrow : List String → List Part → Option (List Char × List String)
  | quotes, [] => some ([], quotes)
  | quotes, (s, isLiteral) :: rest =>
    let (body, possible) := enclose s.toList quotes isLiteral
    if possible.any quotes.contains then
      (narrow possible rest).map fun (more, quotes) => (body ++ more, quotes)
    else none

/-- Every part in the quoted form with single quotes, for long single quotes around them. -/
def requote (parts : List Part) : List Char :=
  parts.flatMap fun (s, _) => (Text.Quoted.encodeWith '\'' s.toList).drop 1 |>.dropLast

def joinParts (inField : Bool) (parts : List Part) : String :=
  if inField then "f" ++ plainText (parts.flatMap fun (s, _) => s.toList)
  else match narrow allQuotes parts with
    | some (body, quotes) =>
      let q := quotes.headD "'"
      "f" ++ q ++ String.ofList body ++ q
    | none => "f'''" ++ String.ofList (requote parts) ++ "'''"

/-- Literal braces are doubled. -/
def doubleBraces (s : String) : String :=
  String.ofList (s.toList.flatMap fun c => if c = '\x7b' || c = '\x7d' then [c, c] else [c])

/-- A field around the text of its expression. An opening brace is kept apart from the field's. -/
def fieldText (value : String) (conversion : Option Char) (format : Option String) :
    Except PrintFault String :=
  if value.toList.contains '\\' then .error .backslashInField
  else
    let gap := if value.toList.head? == some '\x7b' then " " else ""
    let conversion := match conversion with
      | none => ""
      | some c => "!" ++ String.ofList [c]
    let format := match format with
      | none => ""
      | some f => ":" ++ f
    .ok ("\x7b" ++ gap ++ value ++ conversion ++ format ++ "\x7d")

/-! ### Expressions -/

def brackets (needed : Bool) (s : String) : String := if needed then "(" ++ s ++ ")" else s

def commas (parts : List String) : String := ", ".intercalate parts

/-- Elements apart by commas; a single one keeps a comma. -/
def tupleText : List String → String
  | [one] => one ++ ","
  | parts => commas parts

/-- The pieces of a parameter list: a slash behind the positional-only ones, a star before the
    keyword-only ones. -/
def parameterParts (positionalOnly positional : List String) (rest : Option String)
    (keywordOnly : List String) (extra : Option String) : List String :=
  let slash := if positionalOnly.isEmpty then [] else ["/"]
  let star := match rest with
    | some name => ["*" ++ name]
    | none => if keywordOnly.isEmpty then [] else ["*"]
  positionalOnly ++ slash ++ positional ++ star ++ keywordOnly ++ (extra.map ("**" ++ ·)).toList

mutual

/-- The text of an expression in a place of the given level. A tuple in an index needs no
    brackets. -/
def print (inField : Bool) (level : Level) : Expr → Except PrintFault String
  | .constant c => constantText inField c
  | .name id => .ok id
  | .attribute value attr => do
    let v ← print inField Level.atom value
    return v ++ beforeDot value ++ "." ++ attr
  | .subscript value (.tuple (e :: es)) => do
    let v ← print inField Level.atom value
    let i ← print inField Level.test e
    let is ← printEach inField Level.test es
    return v ++ "[" ++ tupleText (i :: is) ++ "]"
  | .subscript value index => do
    let v ← print inField Level.atom value
    let i ← print inField Level.test index
    return v ++ "[" ++ i ++ "]"
  | .call callee args keywords => do
    let f ← print inField Level.atom callee
    let xs ← printEach inField Level.test args
    let ks ← printKeywords inField keywords
    return f ++ "(" ++ commas (xs ++ ks) ++ ")"
  | .logical op operands => do
    let xs ← printRising inField (logicalLevel op) operands
    return brackets (logicalLevel op < level) ((logicalText op).intercalate xs)
  | .named target value => do
    let v ← print inField Level.atom value
    return brackets (Level.named < level) (target ++ " := " ++ v)
  | .binary left op right => do
    let l := binaryLevel op
    let rightward := op = .pow
    let a ← print inField (if rightward then l.next else l) left
    let b ← print inField (if rightward then l else l.next) right
    return brackets (l < level) (a ++ " " ++ binaryText op ++ " " ++ b)
  | .unary op operand => do
    let v ← print inField (unaryLevel op) operand
    return brackets (unaryLevel op < level) (unaryText op ++ v)
  | .lambda positionalOnly positional rest keywordOnly extra body => do
    let a ← printParameters inField positionalOnly
    let b ← printParameters inField positional
    let c ← printParameters inField keywordOnly
    let v ← print inField Level.test body
    let parts := parameterParts a b rest c extra
    let head := if parts.isEmpty then "lambda" else "lambda " ++ commas parts
    return brackets (Level.test < level) (head ++ ": " ++ v)
  | .conditional test body orelse => do
    let b ← print inField Level.or body
    let t ← print inField Level.or test
    let e ← print inField Level.test orelse
    return brackets (Level.test < level) (b ++ " if " ++ t ++ " else " ++ e)
  | .dict items => do
    let xs ← printItems inField items
    return "\x7b" ++ commas xs ++ "\x7d"
  | .set elements => do
    let xs ← printEach inField Level.test elements
    return if elements.isEmpty then "\x7b*()\x7d" else "\x7b" ++ commas xs ++ "\x7d"
  | .list elements => do
    let xs ← printEach inField Level.test elements
    return "[" ++ commas xs ++ "]"
  | .tuple elements => do
    let xs ← printEach inField Level.test elements
    return brackets (elements.isEmpty || Level.tuple < level) (tupleText xs)
  | .listComp element generators => do
    let e ← print inField Level.test element
    let g ← printGenerators inField generators
    return "[" ++ e ++ g ++ "]"
  | .setComp element generators => do
    let e ← print inField Level.test element
    let g ← printGenerators inField generators
    return "\x7b" ++ e ++ g ++ "\x7d"
  | .dictComp key value generators => do
    let k ← print inField Level.test key
    let v ← print inField Level.test value
    let g ← printGenerators inField generators
    return "\x7b" ++ k ++ ": " ++ v ++ g ++ "\x7d"
  | .generatorExp element generators => do
    let e ← print inField Level.test element
    let g ← printGenerators inField generators
    return "(" ++ e ++ g ++ ")"
  | .await value => do
    let v ← print inField Level.atom value
    return brackets (Level.await < level) ("await " ++ v)
  | .yield none => .ok (brackets (Level.yield < level) "yield")
  | .yield (some value) => do
    let v ← print inField Level.atom value
    return brackets (Level.yield < level) ("yield " ++ v)
  | .yieldFrom value => do
    let v ← print inField Level.atom value
    return brackets (Level.yield < level) ("yield from " ++ v)
  | .compare left rest => do
    let l ← print inField Level.operand left
    let r ← printComparisons inField rest
    return brackets (Level.compare < level) (l ++ r)
  | .formatted value conversion format => do
    let v ← print true Level.or value
    let f ← printFormat inField format
    let field ← fieldText v conversion f
    return "f'" ++ field ++ "'"
  | .joined parts => do
    let ps ← printParts inField parts
    return joinParts inField ps
  | .starred value => do
    let v ← print inField Level.operand value
    return "*" ++ v
  | .slice lower upper step => do
    let l ← printOption inField lower
    let u ← printOption inField upper
    let s ← printOption inField step
    return l ++ ":" ++ u ++ (if step.isSome then ":" ++ s else "")

def printOption (inField : Bool) : Option Expr → Except PrintFault String
  | none => .ok ""
  | some e => print inField Level.test e

def printEach (inField : Bool) (level : Level) : List Expr → Except PrintFault (List String)
  | [] => .ok []
  | e :: es => do
    let s ← print inField level e
    let ss ← printEach inField level es
    return s :: ss

/-- Every operand of a chain is printed one level tighter than the one before it. -/
def printRising (inField : Bool) (level : Level) : List Expr → Except PrintFault (List String)
  | [] => .ok []
  | e :: es => do
    let s ← print inField level.next e
    let ss ← printRising inField level.next es
    return s :: ss

def printKeywords (inField : Bool) : List Keyword → Except PrintFault (List String)
  | [] => .ok []
  | .mk name value :: rest => do
    let v ← print inField Level.test value
    let vs ← printKeywords inField rest
    let head := match name with
      | none => "**"
      | some n => n ++ "="
    return (head ++ v) :: vs

def printItems (inField : Bool) : List DictItem → Except PrintFault (List String)
  | [] => .ok []
  | .pair key value :: rest => do
    let k ← print inField Level.test key
    let v ← print inField Level.test value
    let vs ← printItems inField rest
    return (k ++ ": " ++ v) :: vs
  | .spread value :: rest => do
    let v ← print inField Level.operand value
    let vs ← printItems inField rest
    return ("**" ++ v) :: vs

def printGenerators (inField : Bool) : List Generator → Except PrintFault String
  | [] => .ok ""
  | .mk isAsync target source conditions :: rest => do
    let t ← print inField Level.tuple target
    let s ← print inField Level.or source
    let cs ← printEach inField Level.or conditions
    let more ← printGenerators inField rest
    let head := if isAsync then " async for " else " for "
    return head ++ t ++ " in " ++ s ++ String.join (cs.map (" if " ++ ·)) ++ more

def printParameters (inField : Bool) : List Parameter → Except PrintFault (List String)
  | [] => .ok []
  | .mk name none :: rest => do
    let ps ← printParameters inField rest
    return name :: ps
  | .mk name (some default) :: rest => do
    let d ← print inField Level.test default
    let ps ← printParameters inField rest
    return (name ++ "=" ++ d) :: ps

def printComparisons (inField : Bool) : List Comparison → Except PrintFault String
  | [] => .ok ""
  | .mk op right :: rest => do
    let r ← print inField Level.operand right
    let more ← printComparisons inField rest
    return " " ++ compareText op ++ " " ++ r ++ more

/-- The parts of formatted text, each with whether it is literal. -/
def printParts (inField : Bool) : List Expr → Except PrintFault (List Part)
  | [] => .ok []
  | .constant (.text s _) :: rest => do
    let ps ← printParts inField rest
    return (doubleBraces s, true) :: ps
  | .formatted value conversion format :: rest => do
    let v ← print true Level.or value
    let f ← printFormat inField format
    let field ← fieldText v conversion f
    let ps ← printParts inField rest
    return (field, false) :: ps
  | e :: rest => do
    let s ← print inField Level.test e
    let ps ← printParts inField rest
    return (s, false) :: ps

/-- A field's format is formatted text without quotes. -/
def printFormat (inField : Bool) : Option Expr → Except PrintFault (Option String)
  | none => .ok none
  | some (.joined parts) => do
    let ps ← printParts inField parts
    return some (String.join (ps.map (·.1)))
  | some e => do
    let s ← print inField Level.test e
    return some s

end

end Printer

/-- The canonical text of an expression. -/
def Expr.text (e : Expr) : Except PrintFault String := Printer.print false Printer.Level.test e

end Bindery

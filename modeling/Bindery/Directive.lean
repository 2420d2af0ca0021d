import Bindery.Diagnostic
import Bindery.Expr.Reader
import Bindery.Expr.Printer
import Bindery.Expr.Literal

/- What is written behind the `@` of a decorator. Three forms are directives: a dotted name, a call
   of one without starred arguments, and a name with an assigned value. Everything else, proper
   expression or not, is none. -/
namespace Bindery

/-- What stops the reading of a source beyond its not being an expression. -/
inductive SourceFault where
  | nullCharacter
  | print (fault : PrintFault)
  | integerTooLarge
  deriving DecidableEq, Repr

def SourceFault.message : SourceFault → String
  | .nullCharacter => "source code string cannot contain null bytes"
  | .print fault => fault.message
  | .integerTooLarge => "int too large to convert to float"

/-- The phrase that a text is when it stands in brackets; `none` when it is no expression there. -/
def bracketedPhrase? (source : String) : Except SourceFault (Option Reader.Phrase) :=
  if source.toList.contains '\x00' then .error .nullCharacter
  else .ok (Reader.phrase? ('(' :: source.toList ++ [')']))

/-- An argument in canonical text. It has a value when it is a literal. -/
structure Argument where
  key : Option String
  value : Option Literal
  source : String
  span : Span
  deriving Repr

inductive Directive where
  | bare (path : String) (span : Span)
  | applied (path : String) (arguments : List Argument) (span : Span)
  | assigned (path : String) (value : Option Literal) (source : String) (span : Span)
  deriving Repr

namespace Directive

/-- A place inside the brackets as a place of the file. The first line is shifted by the bracket. -/
def placeIn (base : Span) (p : Place) : Span :=
  { path := base.path
    line := base.line.map fun line => line + p.line - 1
    col := if p.line = 1 then base.col.map fun col => col + p.column - 1
           else some (p.column + 1) }

def printed (e : Expr) : Except SourceFault String := e.text.mapError .print

/-- The value of a literal, and none for any other expression. -/
def valueOf (e : Expr) : Except SourceFault (Option Literal) :=
  match Literal.ofExpr e with
  | .ok v => .ok (some v)
  | .error .notLiteral => .ok none
  | .error .integerTooLarge => .error .integerTooLarge

def argument (base : Span) (key : Option String) (e : Expr) (start : Place) :
    Except SourceFault Argument := do
  let source ← printed e
  let value ← valueOf e
  return { key, value, source, span := placeIn base start }

/-- Positional arguments without stars. -/
def plain? : List Expr → Option (List (Option String × Expr))
  | [] => some []
  | .starred _ :: _ => none
  | e :: es => (plain? es).map ((none, e) :: ·)

/-- Keyword arguments without double stars. -/
def keyed? : List Keyword → Option (List (Option String × Expr))
  | [] => some []
  | .mk none _ :: _ => none
  | .mk (some key) e :: rest => (keyed? rest).map ((some key, e) :: ·)

/-- All arguments in the order they are written; keywords never stand before positional ones. -/
def arguments? (args : List Expr) (keywords : List Keyword) :
    Option (List (Option String × Expr)) := do
  let ps ← plain? args
  let ks ← keyed? keywords
  return ps ++ ks

def buildArguments (base : Span) :
    List (Option String × Expr) → List Place → Except SourceFault (List Argument)
  | [], _ => .ok []
  | (key, e) :: rest, starts => do
    let a ← argument base key e (starts.headD Place.origin)
    let more ← buildArguments base rest (starts.drop 1)
    return a :: more

/-- The directive that a phrase is. -/
def ofPhrase (phrase : Reader.Phrase) (span : Span) : Except SourceFault (Option Directive) :=
  match phrase.expr with
  | .named target value => do
    let source ← printed value
    let literal ← valueOf value
    return some (.assigned target literal source span)
  | .call callee args keywords =>
    match callee.dottedName?, arguments? args keywords with
    | some path, some found => do
      let built ← buildArguments span found phrase.argumentStarts
      return some (.applied path built span)
    | _, _ => .ok none
  | e => .ok (e.dottedName?.map fun path => .bare path span)

/-- Reads the text behind an `@`, which begins at `span`. -/
def read (source : String) (span : Span := {}) : Except SourceFault (Option Directive) := do
  match ← bracketedPhrase? source with
  | none => return none
  | some phrase => ofPhrase phrase span

def path : Directive → String
  | .bare path _ => path
  | .applied path _ _ => path
  | .assigned path _ _ _ => path

def span : Directive → Span
  | .bare _ span => span
  | .applied _ _ span => span
  | .assigned _ _ _ span => span

/-- The name of a directive whose path is a single name. -/
def ident? (d : Directive) : Option String :=
  if d.path.toList.contains '.' then none else some d.path

/-- The arguments of a directive; the assigned form has none and is refused. -/
def argumentList : Directive → Except String (List Argument)
  | .bare _ _ => .ok []
  | .applied _ args _ => .ok args
  | .assigned path _ source _ => .error (path ++ " := " ++ source)

/-- The advice for an assigned form. -/
def assignedMessage (kind : String) : String :=
  "@" ++ kind ++ " := \"...\" cannot be a name/value, you probably meant @" ++ kind ++
    "(name=\"...\")"

end Directive
end Bindery

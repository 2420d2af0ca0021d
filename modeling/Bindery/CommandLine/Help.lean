import Bindery.CommandLine.Form
import Bindery.Text.Blank

/- Usage lines and help texts of forms, filled to the width of a terminal. -/
namespace Bindery.CommandLine

/-- The width of all lines. -/
def lineWidth : Nat := 78

/-- Explanations begin at this column at the latest. -/
def maxHelpColumn : Nat := 24

def spaces (n : Nat) : String := String.ofList (List.replicate n ' ')

/-- Puts words on lines, as many as the width holds, but at least one. The first line has `used`
    columns taken. -/
def fillFrom (width : Nat) : Nat → List String → List String → List (List String)
  | _, line, [] => if line.isEmpty then [] else [line.reverse]
  | used, line, word :: words =>
    let next := if line.isEmpty then used + word.length else used + 1 + word.length
    if width < next && !line.isEmpty then
      line.reverse :: fillFrom width word.length [word] words
    else fillFrom width next (word :: line) words

def fill (width : Nat) (words : List String) : List String :=
  (fillFrom width 0 [] words).map (" ".intercalate ·)

def braced (words : List String) : String := "\x7b" ++ ",".intercalate words ++ "\x7d"

/-! ### Usage -/

def Flag.usage (f : Flag) : String :=
  let name := f.names.headD ""
  match f.value with
  | some value => "[" ++ name ++ " " ++ value ++ "]"
  | none => "[" ++ name ++ "]"

def Operand.usage (o : Operand) : String :=
  match o.arity with
  | .one => o.name
  | .atMostOne => "[" ++ o.name ++ "]"
  | .rest => braced (o.choices.map Prod.fst) ++ " ..."

namespace Form

/-- The usage of a form. When it is too long for a line, flags and operand have lines of
    their own. -/
def usage (f : Form) : String :=
  let start := "usage: " ++ f.program ++ " "
  let flags := f.flags.map Flag.usage
  let whole := start ++ " ".intercalate (flags ++ [f.operand.usage])
  if whole.length ≤ lineWidth then whole ++ "\n"
  else
    let width := lineWidth - start.length
    let lines := fill width flags ++ [f.operand.usage]
    start ++ ("\n" ++ spaces start.length).intercalate lines ++ "\n"

end Form

/-! ### Help -/

/-- One entry of a help text: how far it is indented, how it is written, and what it does. -/
structure HelpEntry where
  indent : Nat
  header : String
  help : String
  deriving DecidableEq, Repr

def Flag.helpEntry (f : Flag) : HelpEntry :=
  { indent := 2
    header := ", ".intercalate (f.names.map fun name =>
      match f.value with
      | some value => name ++ " " ++ value
      | none => name)
    help := f.help }

def Operand.helpEntries (o : Operand) : List HelpEntry :=
  if o.choices.isEmpty then [⟨2, o.name, o.help⟩]
  else
    ⟨2, braced (o.choices.map Prod.fst), ""⟩ ::
      o.choices.map fun choice => ⟨4, choice.1, choice.2⟩

/-- An entry with its explanation in the column `column`, on the line of the header if that leaves
    room. -/
def HelpEntry.lines (column : Nat) (e : HelpEntry) : List String :=
  let header := spaces e.indent ++ e.header
  match fill (lineWidth - column) (e.help.splitOn " ") with
  | [] => [header]
  | first :: more =>
    let behind := more.map (spaces column ++ ·)
    if e.help.isEmpty then [header]
    else if header.length + 2 ≤ column then
      (header ++ spaces (column - header.length) ++ first) :: behind
    else header :: (spaces column ++ first) :: behind

/-- The column of explanations: two behind the longest header, but not too far. Entries of a list
    count with the indentation of the list. -/
def helpColumn (entries : List HelpEntry) : Nat :=
  min (entries.foldl (fun n e => max n (e.header.length + 4)) 0) maxHelpColumn

namespace Form

/-- The help text of a form. -/
def help (f : Form) : String :=
  let operands := f.operand.helpEntries
  let flags := f.flags.map Flag.helpEntry
  let column := helpColumn (operands ++ flags)
  let lines (entries : List HelpEntry) := "\n".intercalate (entries.flatMap (·.lines column))
  f.usage ++ "\npositional arguments:\n" ++ lines operands ++ "\n\noptions:\n" ++ lines flags ++
    "\n"

end Form
end Bindery.CommandLine

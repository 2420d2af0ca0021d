import Bindery.Toml.Document

/- What can be wrong with a document, and where. Reading carries the text that is still to be read,
   so a fault names its place by what was left there; lines and columns are counted afterwards. -/
namespace Bindery.Toml

inductive Cause where
  | invalidStatement
  | invalidValue
  | invalidKeyStart
  | noEquals
  | noLineEnd
  | noTableEnd
  | noArrayOfTablesEnd
  | openArray
  | openInlineTable
  | openText
  | missing (mark : String)
  | invalidCharacter (c : Char)
  | illegalCharacter (c : Char)
  | strayBackslash
  | invalidHex
  | noScalar
  | invalidDate
  | declaredTwice (key : Key)
  | redefined (key : Key)
  | immutable (key : Key)
  | overwritten
  | duplicateInline (name : String)
  deriving DecidableEq, Repr

def Cause.message : Cause → String
  | .invalidStatement => "Invalid statement"
  | .invalidValue => "Invalid value"
  | .invalidKeyStart => "Invalid initial character for a key part"
  | .noEquals => "Expected '=' after a key in a key/value pair"
  | .noLineEnd => "Expected newline or end of document after a statement"
  | .noTableEnd => "Expected ']' at the end of a table declaration"
  | .noArrayOfTablesEnd => "Expected ']]' at the end of an array declaration"
  | .openArray => "Unclosed array"
  | .openInlineTable => "Unclosed inline table"
  | .openText => "Unterminated string"
  | .missing mark => "Expected " ++ Text.quoted mark
  | .invalidCharacter c => "Found invalid character " ++ Text.quoted c.toString
  | .illegalCharacter c => "Illegal character " ++ Text.quoted c.toString
  | .strayBackslash => "Unescaped '\\' in a string"
  | .invalidHex => "Invalid hex value"
  | .noScalar => "Escaped character is not a Unicode scalar value"
  | .invalidDate => "Invalid date or datetime"
  | .declaredTwice key => "Cannot declare " ++ key.shown ++ " twice"
  | .redefined key => "Cannot redefine namespace " ++ key.shown
  | .immutable key => "Cannot mutate immutable namespace " ++ key.shown
  | .overwritten => "Cannot overwrite a value"
  | .duplicateInline name => "Duplicate inline table key " ++ Text.quoted name

/-- Where reading stopped, told by the text left there, or a number with too many digits to be
    converted. -/
inductive Stop where
  | malformed (cause : Cause) (rest : List Char)
  | tooManyDigits (count : Nat)
  deriving DecidableEq, Repr

/-- Decimal integers have no more digits than this. -/
def maxDigits : Nat := 4300

/-- What keeps a document from being read. -/
inductive Fault where
  /-- A fault of form. The place is a line and a column, or none for the end of the document. -/
  | malformed (cause : Cause) (place : Option (Nat × Nat))
  | tooManyDigits (count : Nat)
  deriving DecidableEq, Repr

def Fault.message : Fault → String
  | .malformed cause place =>
    cause.message ++ " (at " ++
      (match place with
       | some (line, column) => "line " ++ toString line ++ ", column " ++ toString column
       | none => "end of document") ++ ")"
  | .tooManyDigits count =>
    "Exceeds the limit (" ++ toString maxDigits ++
      " digits) for integer string conversion: value has " ++ toString count ++
      " digits; use sys.set_int_max_str_digits() to increase the limit"

/-- Line and column behind a text, both counted from one. -/
def placeBehind (before : List Char) : Nat × Nat :=
  (before.count '\n' + 1, (before.reverse.takeWhile (· ≠ '\n')).length + 1)

/-- The fault of a stop in a document. -/
def Stop.inDocument (document : List Char) : Stop → Fault
  | .malformed cause rest =>
    .malformed cause <|
      if rest.isEmpty then none
      else some (placeBehind (document.take (document.length - rest.length)))
  | .tooManyDigits count => .tooManyDigits count

/-! ### Runs of characters -/

/-- A result of reading and the text behind it. -/
abbrev Reading (α : Type) := α × List Char

def fail {α : Type} (cause : Cause) (rest : List Char) : Except Stop (Reading α) := .error (.malformed cause rest)

def isSpace (c : Char) : Bool := c = ' ' || c = '\t'

def isSpaceOrBreak (c : Char) : Bool := isSpace c || c = '\n'

/-- Control characters other than tabs have no place in a document. -/
def isControl (c : Char) : Bool := (c.toNat < 32 && c ≠ '\t') || c.toNat = 127

/-- As `isControl`, for text that may run over lines. -/
def isControlInLines (c : Char) : Bool := isControl c && c ≠ '\n'

def dropSpaces (cs : List Char) : List Char := cs.dropWhile isSpace

/-- The text up to a mark, and the text from the mark on. -/
def splitBefore? (mark : List Char) : List Char → Option (List Char × List Char)
  | [] => if mark.isEmpty then some ([], []) else none
  | c :: cs =>
    if mark.isPrefixOf (c :: cs) then some ([], c :: cs)
    else (splitBefore? mark cs).map fun found => (c :: found.1, found.2)

/-- Refuses a run that holds a bad character. -/
def checkRun (bad : Char → Bool) (run rest : List Char) : Except Stop (Reading Unit) :=
  match run.dropWhile (!bad ·) with
  | [] => .ok ((), rest)
  | c :: more => fail (.invalidCharacter c) (c :: more ++ rest)

/-- Passes a comment, if one begins here. -/
def dropComment (cs : List Char) : Except Stop (List Char) :=
  match cs with
  | '#' :: rest =>
    (checkRun isControl (rest.takeWhile (· ≠ '\n')) (rest.dropWhile (· ≠ '\n'))).map Prod.snd
  | _ => .ok cs

end Bindery.Toml

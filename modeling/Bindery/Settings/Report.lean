import Bindery.Settings.Basic

/- The text that tells the problems of settings. Long values are shortened in the middle. -/
namespace Bindery.Settings

/-- Texts of more bytes than this are shortened. -/
def shownLimit : Nat := 50

/-- The longest beginning of at most so many bytes. -/
def takeBytes : Nat → List Char → List Char
  | _, [] => []
  | n, c :: cs =>
    let width := c.utf8Size
    if width ≤ n then c :: takeBytes (n - width) cs else []

/-- A text with its middle left out when it is long. -/
def shorten (text : String) : String :=
  if text.utf8ByteSize ≤ shownLimit then text
  else
    let half := (shownLimit + 1) / 2
    let cs := text.toList
    String.ofList (takeBytes half cs ++ "...".toList ++
      (takeBytes (half - 1) cs.reverse).reverse)

/-- One part of a location; a part with a point in it is set off. -/
def shownPart (part : String) : String :=
  if part.toList.contains '.' then "\x60" ++ part ++ "\x60" else part

/-- Where a cause is explained. -/
def helpAddress (cause : Cause) : String := "https://errors.pydantic.dev/2.14/v/" ++ cause.tag

/-- The text of a value, or of its type if the value has none. -/
def shownInput (v : Toml.Value) : String :=
  if v.isShowable then shorten v.shown else "<unprintable " ++ v.typeName ++ " object>"

def Problem.report (p : Problem) : String :=
  ".".intercalate (p.location.map shownPart) ++ "\n  " ++ p.cause.message ++
    " [type=" ++ p.cause.tag ++ ", input_value=" ++ shownInput p.input ++
    ", input_type=" ++ p.input.typeName ++ "]\n    For further information visit " ++
    helpAddress p.cause

def reportTitle (count : Nat) : String :=
  toString count ++ " validation error" ++ (if count = 1 then "" else "s") ++
    " for PyModGenConfig"

def Fault.message : Fault → String
  | .problems first rest =>
    "\n".intercalate
      (reportTitle (rest.length + 1) :: (first :: rest).map Problem.report)
  | .namesNoTable => "module_names must be a mapping of relative path -> name"
  | .namesNoTexts => "module_names must be a mapping of str -> str"

end Bindery.Settings

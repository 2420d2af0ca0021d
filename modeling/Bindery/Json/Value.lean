import Bindery.Number.Shortest
import Bindery.Text.Quoted

/- Values in the JSON data format, and their text on one line: no blanks, keys in order, and only those
   characters escaped that must be. -/
namespace Bindery.Json

open Number

inductive Value where
  | null
  | boolean (b : Bool)
  | integer (n : Int)
  | real (x : Binary64)
  | text (s : String)
  | array (items : List Value)
  | object (entries : List (String × Value))
  deriving Repr, Inhabited

/-- The form of a character inside a quoted text. -/
def escape (c : Char) : List Char :=
  match c with
  | '"' => ['\\', '"']
  | '\\' => ['\\', '\\']
  | '\x08' => ['\\', 'b']
  | '\t' => ['\\', 't']
  | '\n' => ['\\', 'n']
  | '\x0c' => ['\\', 'f']
  | '\r' => ['\\', 'r']
  | c => if c.toNat < 32 then '\\' :: 'u' :: Text.hexDigits 4 c.toNat else [c]

def quoted (s : String) : String :=
  String.ofList ('"' :: s.toList.flatMap escape ++ ['"'])

/-- Entries in the order of their keys. -/
def sortEntries {α : Type} (entries : List (String × α)) : List (String × α) :=
  entries.mergeSort fun a b => decide (a.1 ≤ b.1)

def commas (parts : List String) : String := ",".intercalate parts

mutual

/-- The text of a value. -/
def Value.render : Value → String
  | .null => "null"
  | .boolean b => if b then "true" else "false"
  | .integer n => toString n
  | .real x => x.text
  | .text s => quoted s
  | .array items => "[" ++ commas (renderItems items) ++ "]"
  | .object entries =>
    "\x7b" ++ commas ((sortEntries (renderEntries entries)).map Prod.snd) ++ "\x7d"

def renderItems : List Value → List String
  | [] => []
  | v :: vs => v.render :: renderItems vs

/-- Each key with the text of its whole entry. -/
def renderEntries : List (String × Value) → List (String × String)
  | [] => []
  | (key, v) :: rest => (key, quoted key ++ ":" ++ v.render) :: renderEntries rest

end

/-- An entry under a key that is there already takes its place. -/
def putEntry (entries : List (String × Value)) (key : String) (v : Value) :
    List (String × Value) :=
  if entries.any (·.1 == key) then entries.map fun e => if e.1 == key then (key, v) else e
  else entries ++ [(key, v)]

end Bindery.Json

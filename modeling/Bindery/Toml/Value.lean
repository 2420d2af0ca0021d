import Bindery.Number.Shortest
import Bindery.Text.Quoted

/- The values of a settings document, and the text by which a message shows one. -/
namespace Bindery.Toml

open Number

structure Date where
  year : Nat
  month : Nat
  day : Nat
  deriving DecidableEq, Repr

structure Time where
  hour : Nat
  minute : Nat
  second : Nat
  microsecond : Nat
  deriving DecidableEq, Repr

/-- A number with a point or an exponent, or none at all. -/
inductive Real where
  | number (x : Binary64)
  | nan
  deriving DecidableEq, Repr

inductive Value where
  | text (s : String)
  | boolean (b : Bool)
  | integer (n : Int)
  | real (x : Real)
  | date (d : Date)
  | time (t : Time)
  /-- A date with a time and, if it is known, the offset from universal time in minutes. -/
  | moment (d : Date) (t : Time) (offset : Option Int)
  | array (items : List Value)
  | table (entries : List (String × Value))
  deriving Repr

/-- The entries of a table, in the order in which their keys came up. -/
abbrev Table := List (String × Value)

namespace Date

def isLeap (year : Nat) : Bool := year % 4 = 0 && (year % 100 ≠ 0 || year % 400 = 0)

def daysIn (year month : Nat) : Nat :=
  if month = 2 then if isLeap year then 29 else 28
  else if [4, 6, 9, 11].contains month then 30 else 31

/-- There is no year zero, and no day beyond its month. -/
def isValid (d : Date) : Bool := 1 ≤ d.year && 1 ≤ d.day && d.day ≤ daysIn d.year d.month

def arguments (d : Date) : List Nat := [d.year, d.month, d.day]

end Date

/-- The parts of a time; seconds are left out when nothing follows the minutes. -/
def Time.arguments (t : Time) : List Nat :=
  if t.microsecond ≠ 0 then [t.hour, t.minute, t.second, t.microsecond]
  else if t.second ≠ 0 then [t.hour, t.minute, t.second]
  else [t.hour, t.minute]

/-- Numbers with commas between them. -/
def shownList (ns : List Nat) : String := ", ".intercalate (ns.map toString)

/-- An offset as days and seconds, of which only the days can be negative. -/
def shownOffset (minutes : Int) : String :=
  if minutes = 0 then "datetime.timezone.utc"
  else
    let days := Int.fdiv minutes 1440
    let seconds := Int.fmod minutes 1440 * 60
    let parts := (if days = 0 then [] else ["days=" ++ toString days]) ++
      (if seconds = 0 then [] else ["seconds=" ++ toString seconds])
    "datetime.timezone(datetime.timedelta(" ++ ", ".intercalate parts ++ "))"

def Real.shown : Real → String
  | .number x => x.text
  | .nan => "nan"

mutual

/-- The text by which a message shows a value. -/
def Value.shown : Value → String
  | .text s => Text.quoted s
  | .boolean b => if b then "True" else "False"
  | .integer n => toString n
  | .real x => x.shown
  | .date d => "datetime.date(" ++ shownList d.arguments ++ ")"
  | .time t => "datetime.time(" ++ shownList t.arguments ++ ")"
  | .moment d t offset =>
    "datetime.datetime(" ++ shownList (d.arguments ++ t.arguments) ++
      (match offset with
       | some minutes => ", tzinfo=" ++ shownOffset minutes
       | none => "") ++ ")"
  | .array items => "[" ++ ", ".intercalate (shownItems items) ++ "]"
  | .table entries => "\x7b" ++ ", ".intercalate (shownEntries entries) ++ "\x7d"

def shownItems : List Value → List String
  | [] => []
  | v :: vs => v.shown :: shownItems vs

def shownEntries : List (String × Value) → List String
  | [] => []
  | (key, v) :: rest => (Text.quoted key ++ ": " ++ v.shown) :: shownEntries rest

end

/-- Integers of more digits than this have no text. -/
def textLimit : Nat := 4300

mutual

/-- Whether a value has a text. -/
def Value.isShowable : Value → Bool
  | .integer n => n.natAbs < Nat.pow 10 textLimit
  | .array items => showableItems items
  | .table entries => showableEntries entries
  | _ => true

def showableItems : List Value → Bool
  | [] => true
  | v :: vs => v.isShowable && showableItems vs

def showableEntries : List (String × Value) → Bool
  | [] => true
  | (_, v) :: rest => v.isShowable && showableEntries rest

end

/-- The name of a value's type in a message. -/
def Value.typeName : Value → String
  | .text _ => "str"
  | .boolean _ => "bool"
  | .integer _ => "int"
  | .real _ => "float"
  | .date _ => "date"
  | .time _ => "time"
  | .moment _ _ _ => "datetime"
  | .array _ => "list"
  | .table _ => "dict"

end Bindery.Toml

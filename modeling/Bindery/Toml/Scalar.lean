import Bindery.Toml.Fault

/- Numbers, dates and times of a document. Each form is tried where it can begin and takes as much
   text as it can; dates and times come before numbers, since they begin like them. -/
namespace Bindery.Toml

open Number

def isDigit (c : Char) : Bool := '0' ≤ c && c ≤ '9'

def digitValue (c : Char) : Nat := c.toNat - '0'.toNat

def numberOf (base : Nat) (digits : List Nat) : Nat := digits.foldl (fun n d => n * base + d) 0

/-! ### Digits -/

/-- Digits, each perhaps behind one low line. -/
def moreDigits (value? : Char → Option Nat) : List Char → List Nat × List Char
  | '_' :: c :: cs =>
    match value? c with
    | some d => let (ds, rest) := moreDigits value? cs; (d :: ds, rest)
    | none => ([], '_' :: c :: cs)
  | c :: cs =>
    match value? c with
    | some d => let (ds, rest) := moreDigits value? cs; (d :: ds, rest)
    | none => ([], c :: cs)
  | [] => ([], [])

/-- At least one digit. -/
def digits? (value? : Char → Option Nat) : List Char → Option (List Nat × List Char)
  | c :: cs => do
    let d ← value? c
    let (ds, rest) := moreDigits value? cs
    return (d :: ds, rest)
  | [] => none

def decimal? (c : Char) : Option Nat := if isDigit c then some (digitValue c) else none

def binary? (c : Char) : Option Nat := if c = '0' then some 0 else if c = '1' then some 1 else none

def octal? (c : Char) : Option Nat := if '0' ≤ c && c ≤ '7' then some (digitValue c) else none

def hexadecimal? (c : Char) : Option Nat :=
  if isDigit c then some (digitValue c)
  else if 'a' ≤ c && c ≤ 'f' then some (c.toNat - 'a'.toNat + 10)
  else if 'A' ≤ c && c ≤ 'F' then some (c.toNat - 'A'.toNat + 10)
  else none

/-- A number behind a mark for its base. -/
def based? (cs : List Char) : Option (Value × List Char) :=
  let of (base : Nat) (value? : Char → Option Nat) (cs : List Char) :=
    (digits? value? cs).map fun found => (Value.integer (numberOf base found.1), found.2)
  match cs with
  | '0' :: 'x' :: rest => of 16 hexadecimal? rest
  | '0' :: 'b' :: rest => of 2 binary? rest
  | '0' :: 'o' :: rest => of 8 octal? rest
  | _ => none

/-! ### Decimal numbers -/

/-- A sign, if there is one: whether it is a minus. -/
def sign (cs : List Char) : Bool × List Char :=
  match cs with
  | '-' :: rest => (true, rest)
  | '+' :: rest => (false, rest)
  | _ => (false, cs)

/-- The digits before the point. A zero stands alone. -/
def wholePart? (cs : List Char) : Option (List Nat × List Char) :=
  match cs with
  | '0' :: rest => some ([0], rest)
  | _ => digits? decimal? cs

/-- The digits behind a point. -/
def fraction? (cs : List Char) : Option (List Nat × List Char) :=
  match cs with
  | '.' :: rest => digits? decimal? rest
  | _ => none

def exponent? (cs : List Char) : Option (Int × List Char) :=
  match cs with
  | c :: rest =>
    if c = 'e' || c = 'E' then
      let (minus, rest) := sign rest
      (digits? decimal? rest).map fun found =>
        let n : Int := numberOf 10 found.1
        (if minus then -n else n, found.2)
    else none
  | [] => none

/-- A decimal number, an integer unless it has a fraction or an exponent. -/
def decimalNumber? (cs : List Char) : Option (Except Stop (Reading Value)) := do
  let (minus, rest) := sign cs
  let (whole, rest) ← wholePart? rest
  let fraction := fraction? rest
  let rest := (fraction.map Prod.snd).getD rest
  let exponent := exponent? rest
  let rest := (exponent.map Prod.snd).getD rest
  if fraction.isNone && exponent.isNone then
    if maxDigits < whole.length then return .error (.tooManyDigits whole.length)
    let n : Int := numberOf 10 whole
    return .ok (.integer (if minus then -n else n), rest)
  let behind := (fraction.map Prod.fst).getD []
  let e := (exponent.map Prod.fst).getD 0 - behind.length
  return .ok (.real (.number (Binary64.ofDecimal minus (numberOf 10 (whole ++ behind)) e)), rest)

/-- The numbers that are written by a word. -/
def namedNumber? (cs : List Char) : Option (Value × List Char) :=
  let (minus, rest) := sign cs
  if "inf".toList.isPrefixOf rest then
    some (.real (.number (.infinite minus)), rest.drop 3)
  else if "nan".toList.isPrefixOf rest then some (.real .nan, rest.drop 3)
  else none

/-! ### Dates and times -/

/-- So many digits, and no low lines. -/
def fixed? (width : Nat) (cs : List Char) : Option (Nat × List Char) :=
  let digits := cs.take width
  if digits.length = width && digits.all isDigit then
    some (numberOf 10 (digits.map digitValue), cs.drop width)
  else none

/-- Two digits within bounds. -/
def pair? (least greatest : Nat) (cs : List Char) : Option (Nat × List Char) := do
  let (n, rest) ← fixed? 2 cs
  if least ≤ n && n ≤ greatest then some (n, rest) else none

/-- One character that must stand here. -/
def mark? (c : Char) (cs : List Char) : Option (List Char) :=
  match cs with
  | d :: rest => if c = d then some rest else none
  | [] => none

/-- Six decimal places of a fraction of a second; more are dropped. -/
def microseconds (cs : List Char) : Nat × List Char :=
  match cs with
  | '.' :: rest =>
    let digits := rest.takeWhile isDigit
    if digits.isEmpty then (0, cs)
    else
      let kept := (digits.take 6).map digitValue
      (numberOf 10 kept * Nat.pow 10 (6 - kept.length), rest.drop digits.length)
  | _ => (0, cs)

def time? (cs : List Char) : Option (Time × List Char) := do
  let (hour, rest) ← pair? 0 23 cs
  let (minute, rest) ← pair? 0 59 (← mark? ':' rest)
  let (second, rest) ← pair? 0 59 (← mark? ':' rest)
  let (microsecond, rest) := microseconds rest
  return (⟨hour, minute, second, microsecond⟩, rest)

def date? (cs : List Char) : Option (Date × List Char) := do
  let (year, rest) ← fixed? 4 cs
  let (month, rest) ← pair? 1 12 (← mark? '-' rest)
  let (day, rest) ← pair? 1 31 (← mark? '-' rest)
  return (⟨year, month, day⟩, rest)

/-- An offset from universal time in minutes, behind its sign. -/
def offsetMinutes? (cs : List Char) : Option (Nat × List Char) := do
  let (hours, rest) ← pair? 0 23 cs
  let (minutes, rest) ← pair? 0 59 (← mark? ':' rest)
  return (hours * 60 + minutes, rest)

def offset (cs : List Char) : Option Int × List Char :=
  match cs with
  | c :: rest =>
    if c = 'Z' || c = 'z' then (some 0, rest)
    else if c = '+' || c = '-' then
      match offsetMinutes? rest with
      | some (n, rest) => (some (if c = '-' then -(n : Int) else n), rest)
      | none => (none, cs)
    else (none, cs)
  | [] => (none, cs)

/-- The time behind a date. -/
def timeBehind? (cs : List Char) : Option (Time × List Char) :=
  match cs with
  | c :: rest => if c = 'T' || c = 't' || c = ' ' then time? rest else none
  | [] => none

/-- A date, perhaps with a time. -/
def moment? (cs : List Char) : Option (Except Stop (Reading Value)) := do
  let (d, rest) ← date? cs
  if !d.isValid then return fail .invalidDate cs
  match timeBehind? rest with
  | none => return .ok (.date d, rest)
  | some (t, rest) =>
    let (offset, rest) := offset rest
    return .ok (.moment d t offset, rest)

/-- A value that is a date, a time or a number. -/
def scalar? (cs : List Char) : Option (Except Stop (Reading Value)) :=
  match moment? cs with
  | some step => some step
  | none =>
    match time? cs with
    | some (t, rest) => some (.ok (.time t, rest))
    | none =>
      match based? cs with
      | some found => some (.ok found)
      | none =>
        match decimalNumber? cs with
        | some step => some step
        | none => (namedNumber? cs).map .ok

end Bindery.Toml

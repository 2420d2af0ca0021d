import Bindery.Json.Value
import Bindery.Text.Utf8

/- The reading of JSON text, without any leniency. Integers beyond 64 bits are read as reals, and
   reals beyond the range of doubles are refused. Of two entries under one key the later counts. -/
namespace Bindery.Json

open Number

def isBlank (c : Char) : Bool := c = ' ' || c = '\t' || c = '\n' || c = '\r'

def dropBlanks (cs : List Char) : List Char := cs.dropWhile isBlank

def isDigit (c : Char) : Bool := '0' ≤ c && c ≤ '9'

def digitsValue (cs : List Char) : Nat :=
  cs.foldl (fun n c => n * 10 + (c.toNat - '0'.toNat)) 0

/-! ### Numbers -/

/-- Digits up to the first other character. -/
def digits (cs : List Char) : List Char × List Char := (cs.takeWhile isDigit, cs.dropWhile isDigit)

/-- The digits behind a point. A point without digits is refused. -/
def fraction? (cs : List Char) : Option (Option (List Char) × List Char) :=
  match cs with
  | '.' :: rest =>
    let (ds, rest) := digits rest
    if ds.isEmpty then none else some (some ds, rest)
  | _ => some (none, cs)

def sign (cs : List Char) : Bool × List Char :=
  match cs with
  | '-' :: rest => (true, rest)
  | '+' :: rest => (false, rest)
  | _ => (false, cs)

def exponent? (cs : List Char) : Option (Option Int × List Char) :=
  match cs with
  | c :: rest =>
    if c = 'e' || c = 'E' then
      let (minus, rest) := sign rest
      let (ds, rest) := digits rest
      let n : Int := digitsValue ds
      if ds.isEmpty then none else some (some (if minus then -n else n), rest)
    else some (none, cs)
  | [] => some (none, [])

def real? (x : Binary64) : Option Value :=
  match x with
  | .finite _ _ _ => some (.real x)
  | .infinite _ => none

def isWithinWord (minus : Bool) (n : Nat) : Bool := if minus then n ≤ Nat.pow 2 63 else n < Nat.pow 2 64

/-- The value of a number by its parts. -/
def numberOf? (minus : Bool) (whole : List Char) (fraction : Option (List Char))
    (exponent : Option Int) : Option Value :=
  if fraction.isNone && exponent.isNone then
    let n := digitsValue whole
    if isWithinWord minus n then some (.integer (if minus then -(n : Int) else n))
    else real? (Binary64.ofNat minus n)
  else
    let behind := fraction.getD []
    real? (Binary64.ofDecimal minus (digitsValue (whole ++ behind))
      (exponent.getD 0 - behind.length))

def number? (cs : List Char) : Option (Value × List Char) := do
  let (minus, rest) := match cs with
    | '-' :: rest => (true, rest)
    | _ => (false, cs)
  let (whole, rest) := digits rest
  if whole.isEmpty || (whole.head? = some '0' && 1 < whole.length) then none
  let (fraction, rest) ← fraction? rest
  let (exponent, rest) ← exponent? rest
  return (← numberOf? minus whole fraction exponent, rest)

/-! ### Text -/

def hexValue? (c : Char) : Option Nat :=
  if isDigit c then some (c.toNat - '0'.toNat)
  else if 'a' ≤ c && c ≤ 'f' then some (c.toNat - 'a'.toNat + 10)
  else if 'A' ≤ c && c ≤ 'F' then some (c.toNat - 'A'.toNat + 10)
  else none

def unit? (a b c d : Char) : Option Nat := do
  return (((← hexValue? a) * 16 + (← hexValue? b)) * 16 + (← hexValue? c)) * 16 + (← hexValue? d)

def shortEscape? (c : Char) : Option Char :=
  match c with
  | '"' => some '"'
  | '\\' => some '\\'
  | '/' => some '/'
  | 'b' => some '\x08'
  | 'f' => some '\x0c'
  | 'n' => some '\n'
  | 'r' => some '\r'
  | 't' => some '\t'
  | _ => none

/-- A character beyond the first plane, written as two units. -/
def pair? (high low : Nat) : Option Char :=
  if 0xdc00 ≤ low && low < 0xe000 then
    some (Char.ofNat (0x10000 + (high - 0xd800) * 1024 + (low - 0xdc00)))
  else none

/-- A quoted text behind its first quote. -/
def text? : List Char → Option (List Char × List Char)
  | [] => none
  | '"' :: rest => some ([], rest)
  | '\\' :: 'u' :: a :: b :: c :: d :: '\\' :: 'u' :: e :: f :: g :: h :: rest => do
    let high ← unit? a b c d
    if 0xd800 ≤ high && high < 0xdc00 then
      let x ← pair? high (← unit? e f g h)
      let (text, rest) ← text? rest
      return (x :: text, rest)
    else if 0xdc00 ≤ high && high < 0xe000 then none
    else
      let (text, rest) ← text? ('\\' :: 'u' :: e :: f :: g :: h :: rest)
      return (Char.ofNat high :: text, rest)
  | '\\' :: 'u' :: a :: b :: c :: d :: rest => do
    let n ← unit? a b c d
    if 0xd800 ≤ n && n < 0xe000 then none
    let (text, rest) ← text? rest
    return (Char.ofNat n :: text, rest)
  | '\\' :: c :: rest => do
    let x ← shortEscape? c
    let (text, rest) ← text? rest
    return (x :: text, rest)
  | c :: rest => do
    if c.toNat < 32 || c = '\\' then none
    let (text, rest) ← text? rest
    return (c :: text, rest)

/-! ### Values -/

/-- Arrays and objects may contain each other to this depth. -/
def maxDepth : Nat := 1024

def word? (word : String) (v : Value) (cs : List Char) : Option (Value × List Char) :=
  if word.toList.isPrefixOf cs then some (v, cs.drop word.length) else none

/-- A value that contains no other. -/
def atom? (cs : List Char) : Option (Value × List Char) :=
  match cs with
  | '"' :: rest => (text? rest).map fun found => (.text (String.ofList found.1), found.2)
  | 't' :: _ => word? "true" (.boolean true) cs
  | 'f' :: _ => word? "false" (.boolean false) cs
  | 'n' :: _ => word? "null" .null cs
  | _ => number? cs

/-- A key and the colon behind it. -/
def key? (cs : List Char) : Option (String × List Char) :=
  match cs with
  | '"' :: rest => do
    let (name, rest) ← text? rest
    match dropBlanks rest with
    | ':' :: rest => some (String.ofList name, dropBlanks rest)
    | _ => none
  | _ => none

mutual

/-- Reads a value; the blanks before it are gone. `fuel` bounds the steps, `depth` the nesting. -/
def value? : Nat → Nat → List Char → Option (Value × List Char)
  | 0, _, _ => none
  | fuel + 1, depth, cs =>
    match cs with
    | '[' :: rest =>
      if depth = 0 then none
      else match dropBlanks rest with
        | ']' :: rest => some (.array [], rest)
        | rest => do
          let (items, rest) ← items? fuel (depth - 1) rest
          return (.array items, rest)
    | '\x7b' :: rest =>
      if depth = 0 then none
      else match dropBlanks rest with
        | '\x7d' :: rest => some (.object [], rest)
        | rest => do
          let (entries, rest) ← entries? fuel (depth - 1) [] rest
          return (.object entries, rest)
    | _ => atom? cs

/-- The items of an array up to its end, at least one. -/
def items? : Nat → Nat → List Char → Option (List Value × List Char)
  | 0, _, _ => none
  | fuel + 1, depth, cs => do
    let (v, rest) ← value? fuel depth cs
    match dropBlanks rest with
    | ']' :: rest => return ([v], rest)
    | ',' :: rest =>
      let (vs, rest) ← items? fuel depth (dropBlanks rest)
      return (v :: vs, rest)
    | _ => none

/-- The entries of an object up to its end, at least one, behind those found before. -/
def entries? : Nat → Nat → List (String × Value) → List Char →
    Option (List (String × Value) × List Char)
  | 0, _, _, _ => none
  | fuel + 1, depth, found, cs => do
    let (name, rest) ← key? cs
    let (v, rest) ← value? fuel depth rest
    let found := putEntry found name v
    match dropBlanks rest with
    | '\x7d' :: rest => return (found, rest)
    | ',' :: rest => entries? fuel depth found (dropBlanks rest)
    | _ => none

end

/-- The value that a text holds, with nothing but blanks around it. -/
def read? (cs : List Char) : Option Value := do
  let (v, rest) ← value? (cs.length + 1) maxDepth (dropBlanks cs)
  if (dropBlanks rest).isEmpty then some v else none

/-- The value that bytes hold. -/
def ofBytes? (bytes : List UInt8) : Option Value :=
  match Text.Utf8.decode bytes with
  | .ok cs => read? cs
  | .error _ => none

end Bindery.Json

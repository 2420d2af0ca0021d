import Bindery.Text.Printable
import Bindery.Text.Compatibility

/- Quoted text on one line: single quotes, unless the text has a single quote and no double one.
   A backslash, the quote in use and every character that is not printable are escaped. -/
namespace Bindery.Text

def hexChar (n : Nat) : Char :=
  if n < 10 then Char.ofNat ('0'.toNat + n) else Char.ofNat ('a'.toNat + (n - 10))

/-- The last `width` hexadecimal digits of a number. -/
def hexDigits : Nat → Nat → List Char
  | 0, _ => []
  | width + 1, n => hexDigits width (n / 16) ++ [hexChar (n % 16)]

/-- The numeric escape of a code point, in the shortest of the three widths. -/
def numericEscape (n : Nat) : List Char :=
  if n < 256 then '\\' :: 'x' :: hexDigits 2 n
  else if n < 65536 then '\\' :: 'u' :: hexDigits 4 n
  else '\\' :: 'U' :: hexDigits 8 n

/-- The escape of a character that may not stand for itself. -/
def escaped (c : Char) : List Char :=
  if c = '\\' then ['\\', '\\']
  else if c = '\t' then ['\\', 't']
  else if c = '\n' then ['\\', 'n']
  else if c = '\r' then ['\\', 'r']
  else numericEscape c.toNat

namespace Quoted

def quoteFor (cs : List Char) : Char :=
  if cs.contains '\'' && !cs.contains '"' then '"' else '\''

def encodeChar (quote c : Char) : List Char :=
  if c = quote then ['\\', c]
  else if c ≠ '\\' && isPrintable c then [c]
  else escaped c

def encodeWith (quote : Char) (cs : List Char) : List Char :=
  quote :: cs.flatMap (encodeChar quote) ++ [quote]

def encode (cs : List Char) : List Char := encodeWith (quoteFor cs) cs

end Quoted

/-- The quoted form of a text. -/
def quoted (s : String) : String := String.ofList (Quoted.encode s.toList)

/-- The quoted form of bytes: as for text, but only ASCII stands for itself, behind a `b`. -/
def quotedBytes (bs : List UInt8) : String :=
  let cs := bs.map fun b => Char.ofNat b.toNat
  let quote := Quoted.quoteFor cs
  let body := cs.flatMap fun c =>
    if c = quote then ['\\', c]
    else if c ≠ '\\' && 32 ≤ c.toNat && c.toNat < 127 then [c]
    else escaped c
  String.ofList ('b' :: quote :: body ++ [quote])

end Bindery.Text

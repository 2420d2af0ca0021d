import Bindery.Text.CharacterName
import Bindery.Text.Blank

/- The values of text and bytes literals: what each escape between the quotes stands for. -/
namespace Bindery.TextLiteral

/-- A literal as it is written: its kind, and the characters between the quotes. -/
structure Written where
  marked : Bool
  isBytes : Bool
  isRaw : Bool
  isFormatted : Bool
  body : List Char
  deriving DecidableEq, Repr

/-- The escapes that stand for one fixed character. -/
def simpleEscape? : Char → Option Char
  | '\\' => some '\\'
  | '\'' => some '\''
  | '"' => some '"'
  | 'a' => some '\x07'
  | 'b' => some '\x08'
  | 'f' => some '\x0c'
  | 'n' => some '\n'
  | 'r' => some '\r'
  | 't' => some '\t'
  | 'v' => some '\x0b'
  | _ => none

def isOctal (c : Char) : Bool := '0' ≤ c && c ≤ '7'

def isHex (c : Char) : Bool := c.isDigit || ('a' ≤ c && c ≤ 'f') || ('A' ≤ c && c ≤ 'F')

def octalNumber (cs : List Char) : Nat := cs.foldl (fun n c => 8 * n + (c.toNat - '0'.toNat)) 0

/-- Exactly `width` hexadecimal digits, as a number. -/
def hexEscape? (width : Nat) (cs : List Char) : Option (Nat × List Char) :=
  let digits := cs.take width
  if digits.length = width && digits.all isHex then some (Text.hexNumber digits, cs.drop width)
  else none

/-- The escape behind a backslash, for text: the characters it stands for and what follows it.
    An unknown escape stands for itself, backslash included. -/
def textEscape? : List Char → Option (List Char × List Char)
  | [] => some (['\\'], [])
  | '\n' :: cs => some ([], cs)
  | 'x' :: cs => (hexEscape? 2 cs).map fun (n, rest) => ([Char.ofNat n], rest)
  | 'u' :: cs => (hexEscape? 4 cs).map fun (n, rest) => ([Char.ofNat n], rest)
  | 'U' :: cs =>
    (hexEscape? 8 cs).bind fun (n, rest) =>
      if n < 0x110000 then some ([Char.ofNat n], rest) else none
  | 'N' :: '\x7b' :: cs =>
    let name := cs.takeWhile (· ≠ '\x7d')
    match cs.dropWhile (· ≠ '\x7d') with
    | _ :: rest => (Text.characterNamed name).map fun c => ([c], rest)
    | [] => none
  | 'N' :: _ => none
  | c :: cs =>
    match simpleEscape? c with
    | some v => some ([v], cs)
    | none =>
      if isOctal c then
        let more := (cs.take 2).takeWhile isOctal
        some ([Char.ofNat (octalNumber (c :: more))], cs.drop more.length)
      else some (['\\', c], cs)

/-- The value of text with escapes; `none` when an escape is malformed. -/
def decodeText : Nat → List Char → Option (List Char)
  | _, [] => some []
  | 0, _ => none
  | fuel + 1, '\\' :: cs => do
    let (value, rest) ← textEscape? cs
    return value ++ (← decodeText fuel rest)
  | fuel + 1, c :: cs => return c :: (← decodeText fuel cs)

/-- The escape behind a backslash, for bytes: no escape names a character. -/
def bytesEscape? : List Char → Option (List Char × List Char)
  | [] => some (['\\'], [])
  | '\n' :: cs => some ([], cs)
  | 'x' :: cs => (hexEscape? 2 cs).map fun (n, rest) => ([Char.ofNat n], rest)
  | c :: cs =>
    match simpleEscape? c with
    | some v => some ([v], cs)
    | none =>
      if isOctal c then
        let more := (cs.take 2).takeWhile isOctal
        some ([Char.ofNat (octalNumber (c :: more) % 256)], cs.drop more.length)
      else some (['\\', c], cs)

def decodeBytes : Nat → List Char → Option (List Char)
  | _, [] => some []
  | 0, _ => none
  | fuel + 1, '\\' :: cs => do
    let (value, rest) ← bytesEscape? cs
    return value ++ (← decodeBytes fuel rest)
  | fuel + 1, c :: cs => return c :: (← decodeBytes fuel cs)

/-- The value of the characters of a text literal. -/
def textValue (isRaw : Bool) (body : List Char) : Option (List Char) :=
  if isRaw then some body else decodeText body.length body

/-- The value of a bytes literal, which may be written with ASCII characters only. -/
def bytesValue (w : Written) : Option (List UInt8) :=
  if w.body.all (·.toNat < 128) then
    (if w.isRaw then some w.body else decodeBytes w.body.length w.body).map fun cs =>
      cs.map fun c => UInt8.ofNat c.toNat
  else none

end Bindery.TextLiteral

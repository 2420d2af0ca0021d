import Bindery.Toml.Fault

/- Quoted text of a document: literal text stands for itself between single quotes, other text has
   escapes and stands between double quotes. Three quotes allow for lines. -/
namespace Bindery.Toml

def hexValue? (c : Char) : Option Nat :=
  if '0' ≤ c && c ≤ '9' then some (c.toNat - '0'.toNat)
  else if 'a' ≤ c && c ≤ 'f' then some (c.toNat - 'a'.toNat + 10)
  else if 'A' ≤ c && c ≤ 'F' then some (c.toNat - 'A'.toNat + 10)
  else none

/-- The number that all of the digits write. -/
def hexNumber? (digits : List Char) : Option Nat :=
  digits.foldl (fun n c => do return (← n) * 16 + (← hexValue? c)) (some 0)

def isScalar (n : Nat) : Bool := n < 0xd800 || (0xe000 ≤ n && n ≤ 0x10ffff)

/-- A character written by its code point in so many digits. -/
def hexEscape (width : Nat) (cs : List Char) : Except Stop (Reading (List Char)) :=
  let digits := cs.take width
  if digits.length ≠ width then fail .invalidHex cs
  else match hexNumber? digits with
    | none => fail .invalidHex cs
    | some n =>
      let rest := cs.drop width
      if isScalar n then .ok ([Char.ofNat n], rest) else fail .noScalar rest

def shortEscape? (c : Char) : Option Char :=
  match c with
  | 'b' => some '\x08'
  | 't' => some '\t'
  | 'n' => some '\n'
  | 'f' => some '\x0c'
  | 'r' => some '\r'
  | '"' => some '"'
  | '\\' => some '\\'
  | _ => none

/-- A backslash at the end of a line joins the next visible character to the text. -/
def lineJoin (cs : List Char) : Except Stop (Reading (List Char)) :=
  match dropSpaces cs with
  | [] => .ok ([], [])
  | '\n' :: rest => .ok ([], rest.dropWhile isSpaceOrBreak)
  | rest => fail .strayBackslash rest

/-- What is behind a backslash. -/
def escape (inLines : Bool) (cs : List Char) : Except Stop (Reading (List Char)) :=
  match cs with
  | [] => fail .strayBackslash []
  | c :: rest =>
    if inLines && isSpaceOrBreak c then
      if c = '\n' then .ok ([], rest.dropWhile isSpaceOrBreak) else lineJoin rest
    else if c = 'u' then hexEscape 4 rest
    else if c = 'U' then hexEscape 8 rest
    else match shortEscape? c with
      | some d => .ok ([d], rest)
      | none => fail .strayBackslash rest

/-- Text with escapes, up to its closing quote or quotes. -/
def escapedText (inLines : Bool) : Nat → List Char → Except Stop (Reading (List Char))
  | 0, cs => fail .openText cs
  | fuel + 1, cs =>
    match cs with
    | [] => fail .openText []
    | '"' :: rest =>
      if !inLines then .ok ([], rest)
      else match rest with
        | '"' :: '"' :: rest => .ok ([], rest)
        | _ => do
          let (text, rest) ← escapedText inLines fuel rest
          return ('"' :: text, rest)
    | '\\' :: rest => do
      let (piece, rest) ← escape inLines rest
      let (text, rest) ← escapedText inLines fuel rest
      return (piece ++ text, rest)
    | c :: rest =>
      if (if inLines then isControlInLines c else isControl c) then
        fail (.illegalCharacter c) (c :: rest)
      else do
        let (text, rest) ← escapedText inLines fuel rest
        return (c :: text, rest)

/-- Literal text up to its closing mark. -/
def literalText (inLines : Bool) (mark cs : List Char) : Except Stop (Reading (List Char)) := do
  match splitBefore? mark cs with
  | none => fail (.missing (String.ofList mark)) []
  | some (text, rest) =>
    let _ ← checkRun (if inLines then isControlInLines else isControl) text rest
    return (text, rest.drop mark.length)

/-- Up to two quotes right behind the closing ones still belong to the text. -/
def withQuotesBehind (quote : Char) (found : List Char × List Char) : List Char × List Char :=
  let extra := ((found.2.take 2).takeWhile (· = quote)).length
  (found.1 ++ List.replicate extra quote, found.2.drop extra)

/-- A line break right behind the opening quotes does not count. -/
def dropFirstBreak : List Char → List Char
  | '\n' :: cs => cs
  | cs => cs

/-- Quoted text on one line, from its opening quote on. -/
def shortText? (cs : List Char) : Option (Except Stop (Reading (List Char))) :=
  match cs with
  | '"' :: rest => some (escapedText false (rest.length + 1) rest)
  | '\'' :: rest => some (literalText false ['\''] rest)
  | _ => none

/-- Quoted text of any form. -/
def text? (cs : List Char) : Option (Except Stop (Reading (List Char))) :=
  match cs with
  | '"' :: '"' :: '"' :: rest =>
    let rest := dropFirstBreak rest
    some ((escapedText true (rest.length + 1) rest).map (withQuotesBehind '"'))
  | '\'' :: '\'' :: '\'' :: rest =>
    some ((literalText true ['\'', '\'', '\''] (dropFirstBreak rest)).map
      (withQuotesBehind '\''))
  | _ => shortText? cs

end Bindery.Toml

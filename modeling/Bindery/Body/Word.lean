import Bindery.Body.Cursor

/- The words of a module body as its reader sees them: names, numbers, marks, and the pieces of
   quoted text. Which of them may stand at a place is for the reader to say. -/
namespace Bindery.Body

/-- Words that name nothing. The words of statements that the language took up or gave up later
    (`print`, `exec`, `async`, `await`, `type`, `match`) may still be names. -/
def reserved : List String :=
  ["False", "None", "True", "and", "as", "assert", "break", "class", "continue", "def", "del",
   "elif", "else", "except", "finally", "for", "from", "global", "if", "import", "in", "is",
   "lambda", "nonlocal", "not", "or", "pass", "raise", "return", "try", "while", "with", "yield"]

namespace Cursor

/-- The word at a place. -/
def word? (c : Cursor) : Option (String × Cursor) :=
  match c.rest with
  | [] => none
  | x :: _ =>
    if Text.isNameStart x then
      let w := c.rest.takeWhile Text.isNameContinue
      some (String.ofList w, c.skip w.length)
    else none

def atWord (w : String) (c : Cursor) : Bool := c.word?.any fun found => found.1 == w

/-- A word that can be a name. -/
def name? (c : Cursor) : Option (String × Cursor) :=
  match c.word? with
  | some (w, c) => if reserved.contains w then none else some (w, c)
  | none => none

def atMark (m : String) (c : Cursor) : Bool := m.toList.isPrefixOf c.rest

/-- The place behind a mark. -/
def mark? (m : String) (c : Cursor) : Option Cursor :=
  if c.atMark m then some (c.skip m.length) else none

end Cursor

/-! ### Numbers -/

/-- How many characters form digits: after a digit, one underscore may follow. -/
def digitsLength (isDigit : Char → Bool) : Bool → List Char → Nat
  | _, [] => 0
  | afterDigit, c :: cs =>
    if isDigit c then digitsLength isDigit true cs + 1
    else if afterDigit && c = '_' then digitsLength isDigit false cs + 1
    else 0

/-- Digits behind a base mark: an underscore must have a digit behind it. -/
def basedLength (isDigit : Char → Bool) : List Char → Nat
  | [] => 0
  | [c] => if isDigit c then 1 else 0
  | c :: d :: cs =>
    if isDigit c then basedLength isDigit (d :: cs) + 1
    else if c = '_' && isDigit d then basedLength isDigit (d :: cs) + 1
    else 0

def isHexadecimal (c : Char) : Bool :=
  c.isDigit || ('a' ≤ c && c ≤ 'f') || ('A' ≤ c && c ≤ 'F')

def decimalLength (cs : List Char) : Nat := digitsLength Char.isDigit false cs

/-- One of the letters, if it comes next. -/
def letterLength (letters : List Char) (cs : List Char) : Nat :=
  match cs with
  | c :: _ => if letters.contains c then 1 else 0
  | [] => 0

def exponentLength : List Char → Nat
  | e :: cs =>
    if e = 'e' || e = 'E' then
      let sign := letterLength ['+', '-'] cs
      let digits := decimalLength (cs.drop sign)
      if digits = 0 then 0 else 1 + sign + digits
    else 0
  | [] => 0

def basedIntegerLength (cs : List Char) : Nat :=
  let based (isDigit : Char → Bool) : Nat :=
    let n := basedLength isDigit (cs.drop 2)
    if n = 0 then 0 else 2 + n + letterLength ['L', 'l'] (cs.drop (2 + n))
  match cs with
  | '0' :: b :: _ =>
    if b = 'x' || b = 'X' then based isHexadecimal
    else if b = 'o' || b = 'O' then based fun c => '0' ≤ c && c ≤ '7'
    else if b = 'b' || b = 'B' then based fun c => c = '0' || c = '1'
    else 0
  | _ => 0

def integerLength (cs : List Char) : Nat :=
  let n := decimalLength cs
  if n = 0 then 0 else n + letterLength ['L', 'l', 'j', 'J'] (cs.drop n)

def realLength (cs : List Char) : Nat :=
  let whole := decimalLength cs
  let closed (n : Nat) : Nat :=
    let n := n + exponentLength (cs.drop n)
    n + letterLength ['j', 'J'] (cs.drop n)
  match cs.drop whole with
  | '.' :: more =>
    let fraction := decimalLength more
    if whole = 0 && fraction = 0 then 0 else closed (whole + 1 + fraction)
  | more => if whole = 0 || exponentLength more = 0 then 0 else closed whole

/-- The length of the number that begins a text: of all readings the longest. -/
def numberLength (cs : List Char) : Nat :=
  max (basedIntegerLength cs) (max (integerLength cs) (realLength cs))

def Cursor.number? (c : Cursor) : Option Cursor :=
  let n := numberLength c.rest
  if n = 0 then none else some (c.skip n)

/-! ### Quoted text -/

/-- What the opening of a quoted text says about the rest of it. -/
structure Quotation where
  quote : Char
  triple : Bool
  formatted : Bool
  raw : Bool
  bytes : Bool
  deriving DecidableEq, Repr

def quotationLetters : List Char := ['f', 'F', 't', 'T', 'r', 'R', 'b', 'B', 'u', 'U']

/-- The opening of a quoted text: letters, and a quote or three of them. -/
def Cursor.quotation? (c : Cursor) : Option (Quotation × Cursor) :=
  let letters := c.rest.takeWhile quotationLetters.contains
  let has (x : Char) : Bool := letters.any fun l => l.toLower = x
  match c.rest.drop letters.length with
  | q :: more =>
    if isQuoteMark q then
      let triple := q ≠ '\x60' && more.take 2 == [q, q]
      let opened := c.skip (letters.length + if triple then 3 else 1)
      let formatted := has 'f' || has 't'
      some (⟨q, triple, formatted, has 'r', has 'b'⟩, { opened with inField := formatted })
    else none
  | [] => none

/-- Whether a quoted text begins behind blanks and joined lines. -/
def Cursor.quotesNext (c : Cursor) : Bool :=
  match Gap.measure false (c.rest.length + 1) ⟨false, 0, none, c.rest⟩ with
  | some gap => { c with rest := gap.rest }.quotation?.isSome
  | none => false

/-- The first joined line on the way to the next visible character, with the places of its backslash
    and behind its end. Lines that are joined right in front of a quoted text belong to that text. -/
def Cursor.joinFrom : Nat → Cursor → Option (Cursor × Cursor)
  | 0, _ => none
  | fuel + 1, c =>
    if c.quotesNext then none
    else
      let c := c.skipWhile isSeparator
      match c.rest with
      | '#' :: _ => joinFrom fuel (c.skipWhile (· ≠ '\n'))
      | '\\' :: '\n' :: _ => some (c, c.skip 2)
      | '\\' :: '\r' :: '\n' :: _ => some (c, c.skip 3)
      | _ => none

def Cursor.join? (c : Cursor) : Option (Cursor × Cursor) := c.joinFrom (c.rest.length + 1)

/-- What comes next in a quoted text. -/
inductive Piece where
  /-- Some of the text; more follows at the place. -/
  | more (c : Cursor)
  /-- The end of the text. -/
  | ended (c : Cursor)
  /-- An opening brace. -/
  | field (c : Cursor)
  | stuck
  deriving Repr

/-- The length of an escape, the backslash included. -/
def escapeLength : List Char → Nat
  | 'u' :: cs => if (cs.take 4).length = 4 && (cs.take 4).all isHexadecimal then 6 else 1
  | 'U' :: cs => if (cs.take 8).length = 8 && (cs.take 8).all isHexadecimal then 10 else 1
  | 'x' :: cs => if (cs.take 2).length = 2 && (cs.take 2).all isHexadecimal then 4 else 1
  | 'N' :: '\x7b' :: cs =>
    let name := cs.takeWhile (· ≠ '\x7d')
    if name.isEmpty || name.length = cs.length then 1 else name.length + 4
  | '\r' :: '\n' :: _ => 3
  | c :: cs =>
    if c.isDigit then 1 + ((c :: cs).take 3 |>.takeWhile Char.isDigit).length
    else if ['\n', '\'', '"', 'a', 'b', 'f', 'r', 'n', 't', 'v', '\\'].contains c then 2
    else 1
  | [] => 1

/-- The place behind a backslash in raw text and what the backslash takes with it. -/
def Cursor.behindRawBackslash (q : Quotation) (c : Cursor) : Cursor :=
  let c := c.step
  let c := match c.rest with
    | x :: _ => if x = q.quote || x = '\\' then c.step else c
    | [] => c
  match c.rest with
  | '\r' :: '\n' :: _ => c.skip 2
  | '\r' :: _ => c.step
  | '\n' :: _ => c.step
  | _ => c

/-- Reads text from a place on, up to what interrupts it. -/
def Cursor.contentFrom (q : Quotation) : Nat → Bool → Cursor → Piece
  | 0, _, _ => .stuck
  | fuel + 1, seen, c =>
    match c.rest with
    | [] => .stuck
    | x :: more =>
      if x = '\x00' then .stuck
      else if q.formatted && (x = '\x7b' || x = '\x7d') then
        if seen then .more c else .stuck
      else if x = '\\' then
        if q.raw then contentFrom q fuel seen (c.behindRawBackslash q)
        else if q.bytes && (more.head?.any fun d => d = 'N' || d = 'u' || d = 'U') then
          contentFrom q fuel true (c.skip 3)
        else if seen then .more c
        else .stuck
      else if x = q.quote then
        if !q.triple then if seen then .more c else .ended { c.step with inField := false }
        else if more.head? != some x then .more c.step
        else if (more.drop 1).head? != some x then .more (c.skip 2)
        else if seen then .more c
        else .ended { c.skip 3 with inField := false }
      else if x = '\n' && seen && !q.triple then .stuck
      else contentFrom q fuel true c.step

/-- Plain text or, where there is none, an escape. -/
def Cursor.content (q : Quotation) (c : Cursor) : Piece :=
  match c.contentFrom q (c.rest.length + 1) false, c.rest with
  | .stuck, '\\' :: more => .more (c.skip (escapeLength more))
  | piece, _ => piece

/-- The next piece of a quoted text. In formatted text a doubled brace stands for itself, a single
    opening one begins a field, and a single closing one is a fault. -/
def Cursor.piece (q : Quotation) (c : Cursor) : Piece :=
  let text := c.content q
  if q.formatted then
    match c.rest with
    | '\x7b' :: '\x7b' :: _ => .more (c.skip 2)
    | '\x7d' :: '\x7d' :: _ => .more (c.skip 2)
    | '\x7b' :: _ => .field c
    | _ => text
  else text

end Bindery.Body

import Bindery.Text.NameClass
import Bindery.Text.Normal
import Bindery.Expr.Basic
import Bindery.Expr.TextLiteral

/- The words of an expression: names, numbers, quoted text and marks, each with the place where it
   begins. Text that has no reading as words is no expression. -/
namespace Bindery

/-- A line counted from one and a byte of the line counted from zero. -/
structure Place where
  line : Nat
  column : Nat
  deriving DecidableEq, Repr

namespace Place

def origin : Place := ⟨1, 0⟩

/-- The place behind a character. -/
def after (p : Place) (c : Char) : Place :=
  if c = '\n' then ⟨p.line + 1, 0⟩ else ⟨p.line, p.column + c.utf8Size⟩

def afterAll (p : Place) (cs : List Char) : Place := cs.foldl after p

theorem afterAll_append (p : Place) (cs ds : List Char) :
    p.afterAll (cs ++ ds) = (p.afterAll cs).afterAll ds := List.foldl_append

theorem afterAll_concat (p : Place) (cs : List Char) (c : Char) :
    p.afterAll (cs ++ [c]) = (p.afterAll cs).after c := afterAll_append p cs [c]

end Place

inductive Token where
  | word (text : String)
  | number (value : Constant)
  | text (literal : TextLiteral.Written)
  | mark (text : String)
  | newline
  deriving DecidableEq, Repr

structure Lexeme where
  token : Token
  start : Place
  deriving DecidableEq, Repr

namespace Token

/-- Words that are no names. -/
def keywords : List String :=
  ["False", "None", "True", "and", "as", "assert", "async", "await", "break", "class", "continue",
   "def", "del", "elif", "else", "except", "finally", "for", "from", "global", "if", "import",
   "in", "is", "lambda", "nonlocal", "not", "or", "pass", "raise", "return", "try", "while",
   "with", "yield"]

/-- Marks of more than one character, the longer ones first. -/
def longMarks : List String :=
  ["**=", "...", "//=", "<<=", ">>=",
   "!=", "%=", "&=", "**", "*=", "+=", "-=", "->", "//", "/=", ":=", "<<", "<=", "<>", "==",
   ">=", ">>", "@=", "^=", "|="]

def shortMarks : List Char :=
  ['(', ')', '[', ']', '\x7b', '\x7d', '+', '-', '*', '/', '%', '@', '&', '|', '^', '~', '<', '>',
   '=', ':', ',', ';', '.']

/-- Every character beyond ASCII may belong to a word until the word is complete. -/
def isWordStart (c : Char) : Bool := c.isAlpha || c == '_' || 128 ≤ c.toNat

def isWordPart (c : Char) : Bool := c.isAlphanum || c == '_' || 128 ≤ c.toNat

/-! ### Numbers -/

/-- Digits of one base; single underscores may stand between them, or before them when `lead`. -/
def digitGroup (isDigit : Char → Bool) : Bool → List Char → Option (List Char × List Char)
  | _, [] => none
  | lead, c :: cs =>
    if isDigit c then
      match cs with
      | '_' :: more => (digitGroup isDigit false more).map fun (ds, rest) => (c :: ds, rest)
      | d :: more =>
        if isDigit d then
          (digitGroup isDigit false (d :: more)).map fun (ds, rest) => (c :: ds, rest)
        else some ([c], d :: more)
      | [] => some ([c], [])
    else if lead && c = '_' then digitGroup isDigit false cs
    else none

/-- Keywords that may follow a number without a blank. -/
def mayFollowNumber (cs : List Char) : Bool :=
  let apart (w : String) := w.toList.isPrefixOf cs &&
    !((cs.drop w.length).head?.map isWordPart).getD false
  apart "and" || apart "else" || apart "for" || apart "or" || apart "not" ||
    ["if", "in", "is"].any fun w => w.toList.isPrefixOf cs

/-- A number may not run into a word. -/
def endsNumber (cs : List Char) : Bool :=
  mayFollowNumber cs || !(cs.head?.map isWordPart).getD false

def digitsValue (base : Nat) (ds : List Char) : Nat :=
  ds.foldl (fun n c => base * n + Text.hexDigit c) 0

/-- The longest decimal integer that is read. -/
def decimalLimit : Nat := 4300

def isBinary (c : Char) : Bool := c = '0' || c = '1'

def basedNumber (base : Nat) (isDigit : Char → Bool) (cs : List Char) :
    Option (Constant × List Char) := do
  let (ds, rest) ← digitGroup isDigit true cs
  if (rest.head?.map Char.isDigit).getD false then none
  if endsNumber rest then some (.integer (digitsValue base ds), rest) else none

/-- An exponent behind `e`, when digits follow it; a sign asks for digits. -/
def exponentPart (cs : List Char) : Option (Option Int × List Char) :=
  match cs with
  | e :: more =>
    if e = 'e' || e = 'E' then
      match more with
      | '+' :: ds => (digitGroup Char.isDigit false ds).map fun (ds, rest) =>
          (some (digitsValue 10 ds : Int), rest)
      | '-' :: ds => (digitGroup Char.isDigit false ds).map fun (ds, rest) =>
          (some (-(digitsValue 10 ds : Int)), rest)
      | d :: _ =>
        if d.isDigit then (digitGroup Char.isDigit false more).map fun (ds, rest) =>
          (some (digitsValue 10 ds : Int), rest)
        else some (none, cs)
      | [] => some (none, cs)
    else some (none, cs)
  | [] => some (none, cs)

/-- The digits behind a point; there may be none. -/
def fractionPart (cs : List Char) : Option (List Char × List Char) :=
  if (cs.head?.map Char.isDigit).getD false then digitGroup Char.isDigit false cs
  else some ([], cs)

/-- The digits behind a point, when there is a point. -/
def pointPart (cs : List Char) : Option (Option (List Char) × List Char) :=
  match cs with
  | '.' :: more => (fractionPart more).map fun (ds, rest) => (some ds, rest)
  | _ => some (none, cs)

/-- What follows the digits in front of a point: fraction, exponent, `j`. -/
def decimalTail (whole : List Char) (cs : List Char) : Option (Constant × List Char) := do
  let (fraction, rest) ← pointPart cs
  let (exponent, rest) ← exponentPart rest
  let places := (fraction.getD []).length
  let digits := digitsValue 10 (whole ++ fraction.getD [])
  let value := Number.Binary64.ofDecimal false digits (exponent.getD 0 - (places : Int))
  let isReal := fraction.isSome || exponent.isSome
  match rest with
  | c :: more =>
    if c = 'j' || c = 'J' then
      if endsNumber more then return (.imaginary value, more) else none
  | [] => pure ()
  if !endsNumber rest then none
  if isReal then return (.real value, rest)
  if whole.any (· ≠ '0') && (whole.head? == some '0' || decimalLimit < whole.length) then none
  return (.integer digits, rest)

/-- A number that begins with a digit. -/
def number? (cs : List Char) : Option (Constant × List Char) :=
  match cs with
  | '0' :: x :: more =>
    if x = 'x' || x = 'X' then basedNumber 16 TextLiteral.isHex more
    else if x = 'o' || x = 'O' then basedNumber 8 TextLiteral.isOctal more
    else if x = 'b' || x = 'B' then basedNumber 2 isBinary more
    else (digitGroup Char.isDigit false cs).bind fun (ds, rest) => decimalTail ds rest
  | _ => (digitGroup Char.isDigit false cs).bind fun (ds, rest) => decimalTail ds rest

/-! ### Quoted text -/

/-- The letters before a quote: each of `b`, `u`, `f`, `r` once, and only in the combinations
    `b`, `r`, `u`, `f`, `br`, `rb`, `fr`, `rf` of either case. -/
def literalKind? (letters : List Char) : Option TextLiteral.Written :=
  let lower := letters.map Char.toLower
  let kind (isBytes isRaw isFormatted : Bool) : TextLiteral.Written :=
    { marked := letters = ['u'], isBytes, isRaw, isFormatted, body := [] }
  if lower = [] || lower = ['u'] then some (kind false false false)
  else if lower = ['r'] then some (kind false true false)
  else if lower = ['b'] then some (kind true false false)
  else if lower = ['f'] then some (kind false false true)
  else if lower = ['b', 'r'] || lower = ['r', 'b'] then some (kind true true false)
  else if lower = ['f', 'r'] || lower = ['r', 'f'] then some (kind false true true)
  else none

/-- The body up to the closing quote on the same line. A backslash keeps the next character. -/
def shortBody (quote : Char) : List Char → Option (List Char × List Char)
  | [] => none
  | '\\' :: c :: cs => (shortBody quote cs).map fun (b, rest) => ('\\' :: c :: b, rest)
  | c :: cs =>
    if c = quote then some ([], cs)
    else if c = '\n' then none
    else (shortBody quote cs).map fun (b, rest) => (c :: b, rest)

/-- The body up to three closing quotes. -/
def longBody (quote : Char) : List Char → Option (List Char × List Char)
  | [] => none
  | '\\' :: c :: cs => (longBody quote cs).map fun (b, rest) => ('\\' :: c :: b, rest)
  | c :: cs =>
    match cs with
    | d :: e :: more =>
      if c = quote && d = quote && e = quote then some ([], more)
      else (longBody quote cs).map fun (b, rest) => (c :: b, rest)
    | _ => (longBody quote cs).map fun (b, rest) => (c :: b, rest)

/-- Quoted text, from its first quote on. -/
def quotedBody (cs : List Char) : Option (List Char × List Char) :=
  match cs with
  | q :: r :: s :: more =>
    if q = r && r = s then longBody q more
    else if q = r then some ([], s :: more)
    else shortBody q (r :: s :: more)
  | [q, r] => if q = r then some ([], []) else none
  | _ => none

def isQuote (c : Char) : Bool := c = '\'' || c = '"'

/-! ### The words of a text -/

def openers : List Char := ['(', '[', '\x7b']
def closers : List Char := [')', ']', '\x7d']

def closes (opener closer : Char) : Bool :=
  (opener = '(' && closer = ')') || (opener = '[' && closer = ']') ||
    (opener = '\x7b' && closer = '\x7d')

/-- The deepest nesting of brackets that is read. -/
def nestingLimit : Nat := 200

/-- The brackets that are open behind a mark, innermost first. -/
def nest (opened : List Char) (c : Char) : Option (List Char) :=
  if openers.contains c then
    if opened.length < nestingLimit then some (c :: opened) else none
  else if closers.contains c then
    match opened with
    | o :: rest => if closes o c then some rest else none
    | [] => none
  else some opened

/-- One word at the head of the text, with what follows it. -/
def next? (cs : List Char) : Option (Token × List Char) :=
  match cs with
  | [] => none
  | c :: more =>
    if isWordStart c then
      let letters := cs.takeWhile isWordPart
      let rest := cs.drop letters.length
      let literal := if (rest.head?.map isQuote).getD false then literalKind? letters else none
      match literal with
      | some kind => (quotedBody rest).map fun (b, rest) => (.text { kind with body := b }, rest)
      | none => if Text.isName letters then some (.word (String.ofList letters), rest) else none
    else if isQuote c then
      (quotedBody cs).bind fun (b, rest) => (literalKind? []).map fun kind =>
        (.text { kind with body := b }, rest)
    else if c.isDigit then (number? cs).map fun (n, rest) => (.number n, rest)
    else if c = '.' && (more.head?.map Char.isDigit).getD false then
      (decimalTail [] cs).map fun (n, rest) => (.number n, rest)
    else match longMarks.find? fun m => m.toList.isPrefixOf cs with
      | some m => some (.mark m, cs.drop m.length)
      | none => if shortMarks.contains c then some (.mark (String.ofList [c]), more) else none

/-- The words of `cs`. Inside brackets a line break is a blank. Outside it ends the line, and
    `started` says whether the line has a word that it could end. -/
def scan : Nat → Place → List Char → Bool → List Char → Option (List Lexeme)
  | 0, _, _, _, _ => none
  | fuel + 1, place, opened, started, cs =>
    match cs with
    | [] => if opened.isEmpty then some [] else none
    | c :: more =>
      if c = ' ' || c = '\t' || c = '\x0c' then scan fuel (place.after c) opened started more
      else if c = '#' then
        let comment := cs.takeWhile (· ≠ '\n')
        scan fuel (place.afterAll comment) opened started (cs.drop comment.length)
      else if c = '\n' then
        if opened.isEmpty && started then
          (scan fuel (place.after c) opened false more).map (⟨.newline, place⟩ :: ·)
        else scan fuel (place.after c) opened started more
      else if c = '\\' then
        match more with
        | '\n' :: rest =>
          if rest.isEmpty then none
          else scan fuel ⟨place.line + 1, 0⟩ opened started rest
        | _ => none
      else do
        let (token, rest) ← next? cs
        let opened ← match token with
          | .mark _ => nest opened c
          | _ => some opened
        let width := cs.length - rest.length
        let tail ← scan fuel (place.afterAll (cs.take width)) opened true rest
        return ⟨token, place⟩ :: tail

/-- The words of a text; `none` when some part of it is no word. -/
def scanAll (s : List Char) : Option (List Lexeme) :=
  let cs := Text.unifyBreaks s
  scan (cs.length + 1) Place.origin [] false cs

end Token
end Bindery

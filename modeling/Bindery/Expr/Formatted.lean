import Bindery.Expr.Token

/- The parts of a formatted text literal: literal text, and fields in braces with the source of an
   expression. Braces are doubled to stand for themselves, except in a field's format. -/
namespace Bindery.Formatted

inductive Segment where
  | literal (chars : List Char)
  /-- The expression's source, the text of `source=` when it was asked for, the conversion letter
      and the format. -/
  | field (source : List Char) (shown : Option (List Char)) (conversion : Option Char)
      (format : Option (List Segment))
  deriving Repr

/-- Literal text up to a brace. The flag says that the text ended with a doubled brace, of which
    one is kept and both are passed. -/
def literalPart (isRaw top : Bool) : Nat → List Char → Option (List Char × Bool × List Char)
  | 0, _ => none
  | _, [] => some ([], false, [])
  | fuel + 1, c :: cs =>
    let brace (c : Char) (cs : List Char) : Option (List Char × Bool × List Char) :=
      if top && cs.head? == some c then some ([c], true, cs.drop 1)
      else if top && c = '\x7d' then none
      else some ([], false, c :: cs)
    let push (seen : List Char) (r : Option (List Char × Bool × List Char)) :=
      r.map fun (lit, doubled, rest) => (seen ++ lit, doubled, rest)
    if c = '\\' && !isRaw then
      match cs with
      | [] => some ([c], false, [])
      | 'N' :: '\x7b' :: more =>
        let name := more.takeWhile (· ≠ '\x7d')
        let closing := (more.drop name.length).take 1
        push ('\\' :: 'N' :: '\x7b' :: name ++ closing)
          (literalPart isRaw top fuel (more.drop (name.length + closing.length)))
      | d :: more =>
        if d = '\x7b' || d = '\x7d' then push [c] (brace d more)
        else push [c, d] (literalPart isRaw top fuel more)
    else if c = '\x7b' || c = '\x7d' then brace c cs
    else push [c] (literalPart isRaw top fuel cs)

/-- The source of a field up to the character that ends it. Inside quotes and brackets nothing
    ends it. `quote` is the open quote and whether it is tripled. -/
def sourcePart : Nat → Option (Char × Bool) → List Char → List Char → Option (List Char × List Char)
  | 0, _, _, _ => none
  | _, _, _, [] => none
  | fuel + 1, quote, opened, c :: cs =>
    let tripled := (cs.take 2) == [c, c]
    let keep (seen : List Char) (r : Option (List Char × List Char)) :=
      r.map fun (source, rest) => (seen ++ source, rest)
    if c = '\\' then none
    else match quote with
    | some (q, long) =>
      if c ≠ q then keep [c] (sourcePart fuel quote opened cs)
      else if !long then keep [c] (sourcePart fuel none opened cs)
      else if tripled then keep [c, c, c] (sourcePart fuel none opened (cs.drop 2))
      else keep [c] (sourcePart fuel quote opened cs)
    | none =>
      if Token.isQuote c then
        if tripled then keep [c, c, c] (sourcePart fuel (some (c, true)) opened (cs.drop 2))
        else keep [c] (sourcePart fuel (some (c, false)) opened cs)
      else if c = '#' then none
      else if opened.isEmpty && ['!', ':', '\x7d', '=', '<', '>'].contains c then
        if ['!', '=', '<', '>'].contains c && cs.head? == some '=' then
          keep [c, '='] (sourcePart fuel none opened (cs.drop 1))
        else if c = '<' || c = '>' then keep [c] (sourcePart fuel none opened cs)
        else some ([], c :: cs)
      else match Token.nest opened c with
        | none => none
        | some opened => keep [c] (sourcePart fuel none opened cs)

def isSpace (c : Char) : Bool :=
  c = ' ' || c = '\t' || c = '\n' || c = '\r' || c = '\x0b' || c = '\x0c'

/-- A source with nothing but blanks is no expression. -/
def isVoid (source : List Char) : Bool :=
  source.all fun c => c = ' ' || c = '\t' || c = '\n' || c = '\x0c'

/-- How deep fields may stand in formats. -/
def depthLimit : Nat := 2

/-- The text of `source=`, when the field asks for it, with the blanks behind it. -/
def shownPart (source : List Char) : List Char → Option (List Char) × List Char
  | '=' :: rest =>
    let blanks := rest.takeWhile isSpace
    (some (source ++ '=' :: blanks), rest.drop blanks.length)
  | rest => (none, rest)

def conversions : List Char := ['s', 'r', 'a']

def conversionPart : List Char → Option (Option Char × List Char)
  | '!' :: c :: rest => if conversions.contains c then some (some c, rest) else none
  | ['!'] => none
  | rest => some (none, rest)

/-- The format behind a colon, as `read` reads it. -/
def formatPart (read : List Char → Option (List Segment × List Char)) :
    List Char → Option (Option (List Segment) × List Char)
  | ':' :: rest => if rest.isEmpty then none else (read rest).map fun (f, rest) => (some f, rest)
  | rest => some (none, rest)

/-- The segments up to the end of the text or, in a format, up to its closing brace. -/
def segmentsFrom (isRaw : Bool) : Nat → Nat → List Char → Option (List Segment × List Char)
  | 0, _, _ => none
  | fuel + 1, depth, cs => do
    let (raw, doubled, rest) ← literalPart isRaw (depth = 0) (cs.length + 1) cs
    let value ← if raw.isEmpty then some [] else TextLiteral.textValue isRaw raw
    if doubled then
      let (more, rest) ← segmentsFrom isRaw fuel depth rest
      return (.literal value :: more, rest)
    match rest with
    | '\x7b' :: rest =>
      if depthLimit ≤ depth then none
      let (source, rest) ← sourcePart (rest.length + 1) none [] rest
      if isVoid source then none
      let (shown, rest) := shownPart source rest
      let (conversion, rest) ← conversionPart rest
      let (format, rest) ← formatPart (segmentsFrom isRaw fuel (depth + 1)) rest
      match rest with
      | '\x7d' :: rest =>
        let (more, rest) ← segmentsFrom isRaw fuel depth rest
        return (.literal value :: .field source shown conversion format :: more, rest)
      | _ => none
    | [] => if depth = 0 then return ([.literal value], []) else none
    | _ => return ([.literal value], rest)

/-- The segments of the text between the quotes. -/
def segments (isRaw : Bool) (body : List Char) : Option (List Segment) := do
  let (found, rest) ← segmentsFrom isRaw (body.length + 2) 0 body
  if rest.isEmpty then some found else none

end Bindery.Formatted

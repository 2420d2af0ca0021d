import Bindery.Expr.Token

/- A place in a module body together with the indentations that are open there. Looking ahead from
   a place finds the end of a line, a change of indentation, or the next visible character; which
   of these count depends on what may stand there. -/
namespace Bindery.Body

structure Cursor where
  rest : List Char
  offset : Nat
  place : Place
  /-- Open indentations, innermost first. -/
  indents : List Nat
  /-- Inside a field of formatted text, where indentation is of no account. -/
  inField : Bool := false
  deriving Repr

namespace Cursor

def start (source : List Char) : Cursor :=
  { rest := source, offset := 0, place := Place.origin, indents := [0] }

def step (c : Cursor) : Cursor :=
  match c.rest with
  | [] => c
  | x :: rest => { c with rest, offset := c.offset + 1, place := c.place.after x }

def skip (c : Cursor) : Nat → Cursor
  | 0 => c
  | n + 1 => c.step.skip n

def skipWhile (p : Char → Bool) (c : Cursor) : Cursor := c.skip (c.rest.takeWhile p).length

def isEnd (c : Cursor) : Bool := c.rest.isEmpty

def current (c : Cursor) : Nat := c.indents.headD 0

end Cursor

/-- What may stand at a place, as far as layout is concerned. -/
structure Expect where
  newline : Bool := false
  dedent : Bool := false
  indent : Bool := false
  closer : Bool := false
  text : Bool := false
  deriving DecidableEq, Repr

inductive Found where
  | newline
  | indent
  | dedent
  | visible
  deriving DecidableEq, Repr

/-- What lies between a place and the next visible character. -/
structure Gap where
  endOfLine : Bool
  indent : Nat
  firstComment : Option Nat
  rest : List Char
  deriving Repr

/-- Measures the gap; `none` when a comment stands on the same line or a stray backslash follows.
    Comments on lines of their own are passed only if `comments`. -/
def Gap.measure (comments : Bool) : Nat → Gap → Option Gap
  | 0, g => some g
  | fuel + 1, g =>
    match g.rest with
    | [] => some { g with endOfLine := true, indent := 0 }
    | c :: rest =>
      if c = '\n' then Gap.measure comments fuel { g with endOfLine := true, indent := 0, rest }
      else if c = ' ' then Gap.measure comments fuel { g with indent := g.indent + 1, rest }
      else if c = '\r' || c = '\x0c' then Gap.measure comments fuel { g with indent := 0, rest }
      else if c = '\t' then Gap.measure comments fuel { g with indent := g.indent + 8, rest }
      else if c = '#' && comments then
        if !g.endOfLine then none
        else Gap.measure comments fuel
          { g with
            firstComment := some (g.firstComment.getD g.indent)
            rest := (rest.dropWhile (· ≠ '\n')).drop 1
            indent := 0 }
      else if c = '\\' then
        match rest with
        | '\r' :: '\n' :: rest => Gap.measure comments fuel { g with rest }
        | '\n' :: rest => Gap.measure comments fuel { g with rest }
        | ['\r'] => Gap.measure comments fuel { g with rest := [] }
        | [] => Gap.measure comments fuel { g with rest := [] }
        | _ => none
      else some g

def isQuoteMark (c : Char) : Bool := c = '\'' || c = '"' || c = '\x60'

/-- Characters that only part words. -/
def isSeparator (c : Char) : Bool :=
  c = ' ' || c = '\t' || c = '\n' || c = '\r' || c = '\x0b' || c = '\x0c' || c = '\ufeff' ||
    c = '\u2060' || c = '\u200b'

namespace Cursor

/-- The layout mark at a place, with the indentations behind it. A line that is indented less than
    the open block ends it where that may be, and also where neither the end of the line nor a
    closing bracket may stand. -/
def layout? (x : Expect) (c : Cursor) : Option (Found × Cursor) := do
  let comments := x.newline || x.indent || x.dedent
  let gap ← Gap.measure comments (c.rest.length + 1) ⟨false, 0, none, c.rest⟩
  if !gap.endOfLine then none
  let quoteNext := (gap.rest.head?.map isQuoteMark).getD false
  let closes := x.dedent || (!x.newline && !(x.text && quoteNext) && !x.closer)
  let behindComments := match gap.firstComment with
    | none => true
    | some n => n < c.current
  if x.indent && c.current < gap.indent then
    some (.indent, { c with indents := gap.indent :: c.indents })
  else if closes && gap.indent < c.current && !c.inField && behindComments then
    some (.dedent, { c with indents := c.indents.drop 1 })
  else if x.newline then some (.newline, c)
  else none

/-- Passes separators, comments and joined lines, unless a layout mark comes first. -/
def lookFrom (x : Expect) : Nat → Cursor → Found × Cursor
  | 0, c => (.visible, c)
  | fuel + 1, c =>
    match c.layout? x with
    | some found => found
    | none =>
      let c := c.skipWhile isSeparator
      match c.rest with
      | '#' :: _ => lookFrom x fuel (c.skipWhile (· ≠ '\n'))
      | '\\' :: '\n' :: _ => lookFrom x fuel (c.skip 2)
      | '\\' :: '\r' :: '\n' :: _ => lookFrom x fuel (c.skip 3)
      | _ => (.visible, c)

def look (x : Expect) (c : Cursor) : Found × Cursor := lookFrom x (c.rest.length + 1) c

/-- The next visible character, where no layout mark may come first. -/
def visible? (x : Expect) (c : Cursor) : Option Cursor :=
  match c.look x with
  | (.visible, c) => some c
  | _ => none

end Cursor
end Bindery.Body

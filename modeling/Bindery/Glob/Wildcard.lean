import Bindery.Glob.Expression

/- Patterns that a whole path must match. A star stands for any text, a question mark for any
   character, and brackets for one character of a set; slashes are like other characters. -/
namespace Bindery.Glob.Wildcard

open Bindery.Glob

/-- What stands between brackets, and what follows the closing one. A bracket that comes first, or
    behind a `!`, does not close. -/
def bracket? (cs : List Char) : Option (List Char × List Char) :=
  let (lead, rest) := match cs with
    | '!' :: rest => (['!'], rest)
    | _ => ([], cs)
  let (first, rest) := match rest with
    | ']' :: rest => ([']'], rest)
    | _ => ([], rest)
  let body := rest.takeWhile (· ≠ ']')
  if body.length = rest.length then none
  else some (lead ++ first ++ body, rest.drop (body.length + 1))

/-- Cuts a text at its hyphens. A piece keeps its first character, whatever it is, and each further
    one at least two. -/
def pieces : Nat → Nat → List Char → List Char → List (List Char)
  | 0, _, piece, cs => [piece.reverse ++ cs]
  | _ + 1, _, piece, [] => [piece.reverse]
  | fuel + 1, hold + 1, piece, c :: cs => pieces fuel hold (c :: piece) cs
  | fuel + 1, 0, piece, c :: cs =>
    if c = '-' then piece.reverse :: pieces fuel 2 [] cs
    else pieces fuel 0 (c :: piece) cs

/-- Joins a piece to the one before it where the range between them is empty: both ends go. -/
def dropEmptyRange (piece : List Char) : List (List Char) → List (List Char)
  | [] => [piece]
  | next :: rest =>
    match piece.getLast?, next with
    | some a, b :: more => if b < a then (piece.dropLast ++ more) :: rest else piece :: next :: rest
    | _, _ => piece :: next :: rest

/-- The pieces of a set without empty ranges, looked for from the end. -/
def withoutEmptyRanges (ps : List (List Char)) : List (List Char) := ps.foldr dropEmptyRange []

/-- The pieces of a set with a hyphen in it; a hyphen at the very end belongs to the last one. -/
def setPieces (body : List Char) : List (List Char) :=
  let hold := if body.head? = some '!' then 2 else 1
  let ps := pieces (body.length + 1) hold [] body
  match ps.reverse with
  | [] :: last :: before => (((last ++ ['-']) :: before).reverse)
  | _ => ps

/-- The ranges and single characters of pieces: neighbours are joined by a range. -/
def rangesOf : List (List Char) → List (Char × Char)
  | [] => []
  | [piece] => piece.map fun c => (c, c)
  | piece :: next :: rest =>
    match piece.getLast?, next with
    | some a, b :: more => piece.dropLast.map (fun c => (c, c)) ++ (a, b) :: rangesOf (more :: rest)
    | _, _ => piece.map (fun c => (c, c)) ++ rangesOf (next :: rest)
termination_by ps => ps.length

/-- The set that stands between brackets. A set without members matches nothing and, negated,
    every character. -/
def setOf (body : List Char) : CharSet :=
  let ps := if body.contains '-' then withoutEmptyRanges (setPieces body) else [body]
  match ps with
  | ('!' :: first) :: rest => ⟨true, rangesOf (first :: rest)⟩
  | ps => ⟨false, rangesOf ps⟩

/-- The expression of a pattern. -/
def expression : Nat → List Char → Expression
  | 0, _ => .nothing
  | _ + 1, [] => .nothing
  | fuel + 1, c :: cs =>
    if c = '*' then .seq (.star (.set .full)) (expression fuel (cs.dropWhile (· = '*')))
    else if c = '?' then .seq (.set .full) (expression fuel cs)
    else if c = '[' then
      match bracket? cs with
      | some (body, rest) => .seq (.set (setOf body)) (expression fuel rest)
      | none => .seq (.set (.only '[')) (expression fuel cs)
    else .seq (.set (.only c)) (expression fuel cs)

/-- Whether a path matches a pattern. -/
def isMatch (pattern path : String) : Bool :=
  let cs := pattern.toList
  (expression (cs.length + 1) cs).matches? path.toList

end Bindery.Glob.Wildcard

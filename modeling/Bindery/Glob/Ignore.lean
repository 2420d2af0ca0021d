import Bindery.Glob.Expression
import Bindery.Path

/- Files of rules that say which paths of a tree are ignored. A rule is a pattern for paths relative
   to the directory of its file; a `!` in front of it takes paths back. Of the rules that match, the
   last one counts. -/
namespace Bindery.Glob

structure IgnoreRule where
  /-- The written form of the rule's expression. -/
  expression : List Char
  negated : Bool
  deriving DecidableEq, Repr

/-- Why a line is no rule: nothing is left where a character is asked for. -/
inductive IgnoreFault where
  | outOfRange
  deriving DecidableEq, Repr

def IgnoreFault.message : IgnoreFault → String
  | .outOfRange => "string index out of range"

namespace IgnoreRule

/-! ### Lines -/

/-- Runs of stars that do not stand between slashes or ends count as one star: those behind another
    character. -/
def joinStarsBehind : Nat → List Char → List Char
  | 0, cs => cs
  | _, [] => []
  | fuel + 1, c :: cs =>
    let stars := (cs.takeWhile (· = '*')).length
    if c ≠ '/' && 2 ≤ stars then c :: '*' :: joinStarsBehind fuel (cs.drop stars)
    else c :: joinStarsBehind fuel cs

/-- Those in front of another character. -/
def joinStarsBefore : Nat → List Char → List Char
  | 0, cs => cs
  | _, [] => []
  | fuel + 1, c :: cs =>
    let stars := ((c :: cs).takeWhile (· = '*')).length
    match (c :: cs).drop stars with
    | d :: rest =>
      if 2 ≤ stars && d ≠ '/' then '*' :: d :: joinStarsBefore fuel rest
      else if 3 ≤ stars then '*' :: '*' :: joinStarsBefore fuel (d :: rest)
      else c :: joinStarsBefore fuel cs
    | [] =>
      if 3 ≤ stars then ['*', '*'] else c :: cs

/-- A pattern without its first character, if that is a slash. Nothing may be left of it. -/
def dropSlash : List Char → Except IgnoreFault (List Char)
  | [] => .error .outOfRange
  | '/' :: cs => .ok cs
  | cs => .ok cs

/-- A pattern without its last character, if that is a slash. -/
def dropLastSlash (cs : List Char) : Except IgnoreFault (List Char) :=
  match cs.getLast? with
  | none => .error .outOfRange
  | some '/' => .ok cs.dropLast
  | some _ => .ok cs

/-- A pattern without the backslash that protects a leading `#` or `!`. -/
def dropProtection : List Char → Except IgnoreFault (List Char)
  | [] => .error .outOfRange
  | ['\\'] => .error .outOfRange
  | '\\' :: c :: cs => .ok (if c = '#' || c = '!' then c :: cs else '\\' :: c :: cs)
  | cs => .ok cs

/-- Drops blanks at the end, read from there; a backslash in front of one keeps it, and all that are
    in front of it. The first two characters stay. -/
def dropBlanks : Nat → Bool → List Char → List Char → List Char
  | 0, _, kept, before => before.reverse ++ kept
  | fuel + 1, dropping, kept, before =>
    match before with
    | ' ' :: d :: e :: more =>
      if d = '\\' then dropBlanks fuel false (' ' :: kept) (e :: more)
      else if dropping then dropBlanks fuel dropping kept (d :: e :: more)
      else dropBlanks fuel dropping (' ' :: kept) (d :: e :: more)
    | _ => before.reverse ++ kept

/-! ### Expressions of patterns -/

/-- These are protected by a backslash in a written expression. -/
def isSpecial (c : Char) : Bool := "()[]\x7b\x7d?*+-|^$\\.&~# \t\n\r\x0b\x0c".toList.contains c

def protect (c : Char) : List Char := if isSpecial c then ['\\', c] else [c]

/-- What stands between brackets, and what follows. -/
def bracket? (cs : List Char) : Option (List Char × List Char) :=
  let lead := match cs with
    | '!' :: ']' :: _ => 2
    | '!' :: _ => 1
    | ']' :: _ => 1
    | _ => 0
  let body := (cs.drop lead).takeWhile (· ≠ ']')
  if lead + body.length = cs.length then none
  else some (cs.take lead ++ body, cs.drop (lead + body.length + 1))

/-- The written set of what stands between brackets: no slash belongs to it. -/
def writtenSet (body : List Char) : Except IgnoreFault (List Char) :=
  let members := body.flatMap fun c =>
    if c = '\\' then ['\\', '\\'] else if c = '/' then [] else [c]
  match members with
  | [] => .error .outOfRange
  | '!' :: more => .ok ('[' :: '^' :: more ++ [']'])
  | '^' :: more => .ok ('[' :: '\\' :: '^' :: more ++ [']'])
  | _ => .ok ('[' :: members ++ [']'])

/-- The written expression of a pattern's characters. A star or a question mark stands for no
    slash, two stars for anything. -/
def written : Nat → List Char → Except IgnoreFault (List Char)
  | 0, _ => .ok []
  | _, [] => .ok []
  | fuel + 1, c :: cs =>
    let andThen (text : List Char) (rest : List Char) : Except IgnoreFault (List Char) := do
      return text ++ (← written fuel rest)
    match c, cs with
    | '*', '*' :: '/' :: rest => andThen "(.*[/])?".toList rest
    | '*', '*' :: rest => andThen ".*".toList rest
    | '*', _ => andThen "[^/]*".toList cs
    | '?', _ => andThen "[^/]".toList cs
    | '/', _ => andThen "[/]".toList cs
    | '[', _ =>
      match bracket? cs with
      | none => andThen ['\\', '['] cs
      | some (body, rest) => do
        let set ← writtenSet body
        andThen set rest
    | _, _ => andThen (protect c) cs

/-- The rule that a line is; blank lines, comments and a lone slash are none. -/
def ofLine (line : List Char) : Except IgnoreFault (Option IgnoreRule) := do
  if (Text.trim line).isEmpty || line.head? = some '#' then return none
  let negated := line.head? = some '!'
  let cs := if negated then line.drop 1 else line
  let cs := joinStarsBefore (cs.length + 1) (joinStarsBehind (cs.length + 1) cs)
  if Text.trimRight cs = ['/'] then return none
  if cs.isEmpty then .error .outOfRange
  let directoryOnly := cs.getLast? = some '/'
  let anchored := cs.dropLast.contains '/'
  let cs ← dropSlash cs
  if cs.isEmpty then .error .outOfRange
  let (cs, anchored) := match cs with
    | '*' :: '*' :: rest => (rest, false)
    | _ => (cs, anchored)
  let cs ← dropSlash cs
  let cs ← dropLastSlash cs
  let cs ← dropProtection cs
  let cs := dropBlanks cs.length true [] cs.reverse
  let body ← written (cs.length + 1) cs
  let start := if anchored then ['^'] else "(^|[/])".toList
  let stop := if !directoryOnly then ['$'] else if negated then ['/', '$'] else "($|\\/)".toList
  return some { expression := start ++ body ++ stop, negated }

/-- Whether a relative path matches the rule. -/
def isMatch (r : IgnoreRule) (path : List Char) : Except Expression.Fault Bool := do
  let e ← Expression.read r.expression
  return e.occursIn path

end IgnoreRule

/-- The rules of one file, and the names that lead to its directory. -/
structure IgnoreFile where
  base : List String
  rules : List IgnoreRule
  deriving DecidableEq, Repr

namespace IgnoreFile

def rulesOf : List (List Char) → Except IgnoreFault (List IgnoreRule)
  | [] => .ok []
  | line :: rest => do
    match ← IgnoreRule.ofLine line with
    | none => rulesOf rest
    | some r => return r :: (← rulesOf rest)

/-- Reads the lines of a file. -/
def ofText (base : List String) (text : List Char) : Except IgnoreFault IgnoreFile := do
  return ⟨base, ← rulesOf (Text.splitAt '\n' (Text.unifyBreaks text))⟩

/-- Of the rules that match the last one counts. The rules are given from the last one on. -/
def verdict (path : List Char) : List IgnoreRule → Except Expression.Fault Bool
  | [] => .ok false
  | r :: rest => do
    if ← r.isMatch path then return !r.negated else verdict path rest

/-- Without negated rules the first rule that matches decides. -/
def anyMatch (path : List Char) : List IgnoreRule → Except Expression.Fault Bool
  | [] => .ok false
  | r :: rest => do
    if ← r.isMatch path then return true else anyMatch path rest

/-- Whether a path below the file's directory is ignored; `none` for a path that is not below. -/
def ignores? (f : IgnoreFile) (names : List String) : Except Expression.Fault (Option Bool) :=
  if f.base.isPrefixOf names then
    let path := (Path.text { names := names.drop f.base.length }).toList
    some <$> (if f.rules.any IgnoreRule.negated then verdict path f.rules.reverse
      else anyMatch path f.rules)
  else .ok none

end IgnoreFile
end Bindery.Glob

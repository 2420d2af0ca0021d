/- Sets of characters in square brackets: single characters and ranges, perhaps negated. -/
namespace Bindery.Glob

structure CharSet where
  negated : Bool
  ranges : List (Char × Char)
  deriving DecidableEq, Repr

namespace CharSet

def has (s : CharSet) (c : Char) : Bool :=
  s.negated != s.ranges.any fun r => r.1 ≤ c && c ≤ r.2

/-- Every character. -/
def full : CharSet := ⟨true, []⟩

def only (c : Char) : CharSet := ⟨false, [(c, c)]⟩

def except (c : Char) : CharSet := ⟨true, [(c, c)]⟩

/-- What is wrong with a set, and how far behind its opening bracket the fault shows. -/
inductive Fault where
  | unterminated
  | badRange (first last : List Char) (offset : Nat)
  deriving DecidableEq, Repr

/-- One character of a set, which a backslash may protect, as it is written. -/
def written? : List Char → Option (List Char × Char × List Char)
  | [] => none
  | '\\' :: c :: cs => some (['\\', c], c, cs)
  | c :: cs => some ([c], c, cs)

/-- Reads the members up to the closing bracket, which is a member itself when it comes first. -/
def members : Nat → Nat → List (Char × Char) → List Char →
    Except Fault (List (Char × Char) × List Char)
  | 0, _, _, _ => .error .unterminated
  | fuel + 1, offset, seen, cs =>
    match written? cs with
    | none => .error .unterminated
    | some (text, c, rest) =>
      if text = [']'] && !seen.isEmpty then .ok (seen, rest)
      else
        let offset := offset + text.length
        match rest with
        | '-' :: more =>
          match written? more with
          | none => .error .unterminated
          | some (text', c', rest') =>
            if text' = [']'] then .ok (seen ++ [(c, c), ('-', '-')], rest')
            else if c' < c then .error (.badRange text text' (offset - text.length))
            else members fuel (offset + 1 + text'.length) (seen ++ [(c, c')]) rest'
        | _ => members fuel offset (seen ++ [(c, c)]) rest

/-- Reads a set from behind its opening bracket. -/
def read (cs : List Char) : Except Fault (CharSet × List Char) :=
  let (negated, body) := match cs with
    | '^' :: more => (true, more)
    | _ => (false, cs)
  match members (cs.length + 1) (if negated then 1 else 0) [] body with
  | .error e => .error e
  | .ok (ranges, rest) => .ok (⟨negated, ranges⟩, rest)

end CharSet
end Bindery.Glob

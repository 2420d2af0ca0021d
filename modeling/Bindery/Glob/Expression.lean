import Bindery.Glob.CharSet

/- Regular expressions, as far as patterns of files need them: sets, sequences, alternatives,
   repetitions, and the two ends of the text. The end is also before a last line feed. -/
namespace Bindery.Glob

inductive Expression where
  | set (s : CharSet)
  | textStart
  | textEnd
  | nothing
  | seq (a b : Expression)
  | alt (a b : Expression)
  | star (a : Expression)
  deriving Repr

namespace Expression

/-- The places, counted from the end of the text, where a match that begins at one of the given
    places can end. Each place comes once. -/
def advance (f : List Char → List (List Char)) (starts : List (List Char)) :
    List (List Char) :=
  (starts.flatMap f).foldl (fun found rest =>
    if found.any fun x => x.length == rest.length then found else found ++ [rest]) []

/-- All places that repetition can reach. -/
def repeated (f : List Char → List (List Char)) : Nat → List (List Char) → List (List Char)
  | 0, starts => starts
  | fuel + 1, starts => starts ++ repeated f fuel
      ((advance f starts).filter fun x => !starts.any fun y => y.length == x.length)

/-- What is left of the text, in all ways to match a beginning of it. `size` is the length of the
    whole text. -/
def rests (size : Nat) : Expression → List Char → List (List Char)
  | .set s, c :: cs => if s.has c then [cs] else []
  | .set _, [] => []
  | .textStart, cs => if cs.length = size then [cs] else []
  | .textEnd, cs => if cs.isEmpty || cs = ['\n'] then [cs] else []
  | .nothing, cs => [cs]
  | .seq a b, cs => advance (rests size b) (rests size a cs)
  | .alt a b, cs => rests size a cs ++ rests size b cs
  | .star a, cs => advance (fun x => [x]) (repeated (rests size a) (cs.length + 1) [cs])

/-- Whether the whole text matches. -/
def matches? (e : Expression) (cs : List Char) : Bool := (e.rests cs.length cs).any List.isEmpty

/-- Whether a match begins at the text or at a later place of it. -/
def occursFrom (e : Expression) (size : Nat) : List Char → Bool
  | [] => !(e.rests size []).isEmpty
  | c :: cs => !(e.rests size (c :: cs)).isEmpty || e.occursFrom size cs

/-- Whether some part of the text matches. -/
def occursIn (e : Expression) (cs : List Char) : Bool := e.occursFrom cs.length cs

def sequence (es : List Expression) : Expression := es.foldr seq nothing

/-! ### Written expressions -/

/-- What is wrong with a written expression, and where. -/
inductive Fault where
  | unterminatedSet (position : Nat)
  | badRange (first last : List Char) (position : Nat)
  | openGroup (position : Nat)
  | closedGroup (position : Nat)
  | nothingToRepeat (position : Nat)
  deriving DecidableEq, Repr

def Fault.message : Fault → String
  | .unterminatedSet n => "unterminated character set at position " ++ toString n
  | .badRange first last n =>
    "bad character range " ++ String.ofList first ++ "-" ++ String.ofList last ++
      " at position " ++ toString n
  | .openGroup n => "missing ), unterminated subpattern at position " ++ toString n
  | .closedGroup n => "unbalanced parenthesis at position " ++ toString n
  | .nothingToRepeat n => "nothing to repeat at position " ++ toString n

/-- The signs behind an expression that repeat it or leave it free. -/
def repetitions (size : Nat) (e : Expression) : List Char → Expression × List Char
  | '*' :: cs => repetitions size (.star e) cs
  | '?' :: cs => repetitions size (.alt e .nothing) cs
  | cs => (e, cs)

mutual

/-- Alternatives, up to the end or a closing bracket. -/
def readChoice (size : Nat) : Nat → List Char → Except Fault (Expression × List Char)
  | 0, cs => .ok (.nothing, cs)
  | fuel + 1, cs => do
    let (a, cs) ← readSequence size fuel cs
    match cs with
    | '|' :: cs =>
      let (b, cs) ← readChoice size fuel cs
      return (.alt a b, cs)
    | _ => return (a, cs)

def readSequence (size : Nat) : Nat → List Char → Except Fault (Expression × List Char)
  | 0, cs => .ok (.nothing, cs)
  | fuel + 1, cs =>
    match cs with
    | [] => .ok (.nothing, cs)
    | '|' :: _ => .ok (.nothing, cs)
    | ')' :: _ => .ok (.nothing, cs)
    | _ => do
      let (a, cs) ← readItem size fuel cs
      let (a, cs) := repetitions size a cs
      let (b, cs) ← readSequence size fuel cs
      return (.seq a b, cs)

def readItem (size : Nat) : Nat → List Char → Except Fault (Expression × List Char)
  | 0, cs => .ok (.nothing, cs)
  | fuel + 1, cs =>
    let position := size - cs.length
    match cs with
    | [] => .ok (.nothing, [])
    | '^' :: cs => .ok (.textStart, cs)
    | '$' :: cs => .ok (.textEnd, cs)
    | '.' :: cs => .ok (.set (.except '\n'), cs)
    | '\\' :: c :: cs => .ok (.set (.only c), cs)
    | '(' :: cs => do
      let (e, rest) ← readChoice size fuel cs
      match rest with
      | ')' :: rest => return (e, rest)
      | _ => .error (.openGroup position)
    | '[' :: cs =>
      match CharSet.read cs with
      | .ok (s, rest) => .ok (.set s, rest)
      | .error .unterminated => .error (.unterminatedSet position)
      | .error (.badRange first last offset) => .error (.badRange first last (position + 1 + offset))
    | c :: cs =>
      if c = '*' || c = '?' || c = '+' then .error (.nothingToRepeat position)
      else .ok (.set (.only c), cs)

end

/-- Reads a written expression. -/
def read (cs : List Char) : Except Fault Expression := do
  let (e, rest) ← readChoice cs.length (2 * cs.length + 2) cs
  match rest with
  | [] => return e
  | _ => .error (.closedGroup (cs.length - rest.length))

end Expression
end Bindery.Glob

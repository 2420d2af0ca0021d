import Bindery.Text.Compatibility

/- The compatibility normal form of a name: decompose every character, order the marks of each
   run by combining class, then compose neighbours again. Two spellings of a name are the same
   name exactly when they have the same normal form. -/
namespace Bindery.Text

/-- The combining class; zero for a character that starts a run. -/
def combiningClass (n : Nat) : Nat :=
  match combiningRanges.find? fun
    | [a, b, _] => a ≤ n && n ≤ b
    | _ => false with
  | some [_, _, k] => k
  | _ => 0

/-- A Hangul syllable is its leading consonant, its vowel and perhaps a trailing consonant. -/
def decomposeOne (n : Nat) : List Nat :=
  if 0xac00 ≤ n && n ≤ 0xd7a3 then
    let s := n - 0xac00
    let lead := 0x1100 + s / 588
    let vowel := 0x1161 + s % 588 / 28
    if s % 28 = 0 then [lead, vowel] else [lead, vowel, 0x11a7 + s % 28]
  else match decompositions.find? fun row => row.head? == some n with
    | some (_ :: parts) => parts
    | _ => [n]

/-- Puts a mark behind the marks of lower or equal class that end the (reversed) text. -/
def insertMark (n k : Nat) : List (Nat × Nat) → List (Nat × Nat)
  | [] => [(n, k)]
  | (m, j) :: rest => if k < j then (m, j) :: insertMark n k rest else (n, k) :: (m, j) :: rest

/-- Canonical order: within a run of marks the classes ascend, equal classes keep their order. -/
def orderMarks (ns : List Nat) : List (Nat × Nat) :=
  (ns.foldl (fun acc n =>
    let k := combiningClass n
    if k = 0 then (n, 0) :: acc else insertMark n k acc) []).reverse

/-- The character that a pair composes to. -/
def composePair (a b : Nat) : Option Nat :=
  if 0x1100 ≤ a && a < 0x1113 && 0x1161 ≤ b && b < 0x1176 then
    some (0xac00 + ((a - 0x1100) * 21 + (b - 0x1161)) * 28)
  else if 0xac00 ≤ a && a ≤ 0xd7a3 && (a - 0xac00) % 28 = 0 && 0x11a8 ≤ b && b < 0x11c3 then
    some (a + (b - 0x11a7))
  else match compositions.find? fun
    | [_, x, y] => x == a && y == b
    | _ => false with
  | some (c :: _) => some c
  | _ => none

/-- One left-to-right pass. `starter` is the last character of class zero, `marks` (reversed) what
    has stayed uncomposed behind it; a character is blocked when a mark of its class or higher
    stands between. -/
def composeFrom (starter : Option Nat) (marks : List (Nat × Nat)) : List (Nat × Nat) → List Nat
  | [] => starter.toList ++ (marks.reverse.map (·.1))
  | (n, k) :: rest =>
    let last := match marks with
      | [] => none
      | (_, j) :: _ => some j
    let blocked := match last with
      | none => false
      | some j => k ≤ j
    match if blocked then none else starter.bind (composePair · n) with
    | some c => composeFrom (some c) marks rest
    | none =>
      if k = 0 then starter.toList ++ marks.reverse.map (·.1) ++ composeFrom (some n) [] rest
      else composeFrom starter ((n, k) :: marks) rest

/-- The compatibility normal form. ASCII text is its own normal form. -/
def normalForm (s : String) : String :=
  if s.toList.all (·.toNat < 128) then s
  else
    let parts := s.toList.flatMap fun c => decomposeOne c.toNat
    String.ofList ((composeFrom none [] (orderMarks parts)).map Char.ofNat)

end Bindery.Text

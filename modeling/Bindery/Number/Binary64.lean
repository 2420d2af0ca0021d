/- Double-precision numbers as exact dyadic rationals: a sign, a significand below 2^53 and a
   power of two, or an infinity. No machine float is involved, so every value can be computed
   with and reasoned about in the natural numbers. -/
namespace Bindery.Number

/-- `finite s m q` is m · 2^q with sign `s`. -/
inductive Binary64 where
  | finite (negative : Bool) (significand : Nat) (exponent : Int)
  | infinite (negative : Bool)
  deriving DecidableEq, Repr

namespace Binary64

/-- Below this exponent the significand is no longer full. -/
def leastExponent : Int := -1074

def greatestExponent : Int := 971

/-- `n / d` to the nearest integer; a tie goes to the even neighbour. -/
def divNearest (n d : Nat) : Nat :=
  let q := n / d
  let r := n % d
  if 2 * r < d then q
  else if d < 2 * r then q + 1
  else if q % 2 = 0 then q else q + 1

/-- `n / d · 2^(-q)` as a fraction of naturals. -/
def scaled (n d : Nat) (q : Int) : Nat × Nat :=
  if 0 ≤ q then (n, d * Nat.pow 2 q.toNat) else (n * Nat.pow 2 (-q).toNat, d)

/-- The exponent that gives `n / d` a full significand: 2^52 ≤ n/d · 2^(-q) < 2^53. -/
def fullExponent (n d : Nat) : Int :=
  let guess : Int := (n.log2 : Int) - (d.log2 : Int) - 52
  let (a, b) := scaled n d guess
  if a < Nat.pow 2 52 * b then guess - 1 else guess

def zero (negative : Bool) : Binary64 := .finite negative 0 leastExponent

/-- The double nearest to `n / d`, ties to the even significand. -/
def ofRatio (negative : Bool) (n d : Nat) : Binary64 :=
  if n = 0 || d = 0 then zero negative
  else
    let q := max (fullExponent n d) leastExponent
    let (a, b) := scaled n d q
    let m := divNearest a b
    let (m, q) := if m = Nat.pow 2 53 then (Nat.pow 2 52, q + 1) else (m, q)
    if greatestExponent < q then .infinite negative else .finite negative m q

/-- The double nearest to digits · 10^e. Exponents far outside the range are decided without
    computing the power. -/
def ofDecimal (negative : Bool) (digits : Nat) (e : Int) : Binary64 :=
  if digits = 0 then zero negative
  else
    let magnitude : Int := e + (Nat.log2 digits : Int) / 3
    if e < -400 && magnitude < -800 then zero negative
    else if 400 < e then .infinite negative
    else if 0 ≤ e then ofRatio negative (digits * Nat.pow 10 e.toNat) 1
    else ofRatio negative digits (Nat.pow 10 (-e).toNat)

def ofNat (negative : Bool) (n : Nat) : Binary64 := ofRatio negative n 1

def negative : Binary64 → Bool
  | .finite s _ _ => s
  | .infinite s => s

def neg : Binary64 → Binary64
  | .finite s m q => .finite (!s) m q
  | .infinite s => .infinite (!s)

def isZero : Binary64 → Bool
  | .finite _ m _ => m == 0
  | .infinite _ => false

/-- Adding a positive zero changes nothing but the sign of a negative zero. -/
def plusZero (x : Binary64) : Binary64 :=
  if x.isZero then zero false else x

/-- The magnitude as a natural number, when it is one. -/
def natMagnitude? : Binary64 → Option Nat
  | .finite _ m q =>
    if 0 ≤ q then some (m * Nat.pow 2 q.toNat)
    else if m % Nat.pow 2 (-q).toNat = 0 then some (m / Nat.pow 2 (-q).toNat) else none
  | .infinite _ => none

/-- The integer that the number is, when it is one. -/
def toInt? (x : Binary64) : Option Int :=
  x.natMagnitude?.map fun (n : Nat) => if x.negative then -(n : Int) else (n : Int)

/-- Equality of numbers: the two zeros are equal. -/
def numEq (x y : Binary64) : Bool := (x.isZero && y.isZero) || x == y

end Binary64
end Bindery.Number

import Bindery.Number.Binary64

/- The text of a double: the fewest digits that read back as the same number, and of those the
   nearest; positional from 10^-4 up to 10^16, with an exponent of at least two digits beyond. -/
namespace Bindery.Number

/-- A decimal `digits · 10^exponent`. -/
structure Decimal where
  digits : Nat
  exponent : Int
  deriving DecidableEq, Repr

/-- The interval of reals that round to a double, as integers over a common unit:
    the value, its lower and its upper bound, and whether the bounds belong to it. -/
structure Rounding where
  value : Nat
  lower : Nat
  upper : Nat
  unit : Nat
  closed : Bool
  deriving DecidableEq, Repr

/-- The interval of m · 2^q. Below a power of two the doubles lie twice as dense. -/
def Rounding.of (m : Nat) (q : Int) : Rounding :=
  let below := if m = Nat.pow 2 52 && Binary64.leastExponent < q then 1 else 2
  let p := q - 2
  let grow := if 0 ≤ p then Nat.pow 2 p.toNat else 1
  let unit := if 0 ≤ p then 1 else Nat.pow 2 (-p).toNat
  { value := 4 * m * grow, lower := (4 * m - below) * grow, upper := (4 * m + 2) * grow,
    unit, closed := m % 2 = 0 }

/-- The decimal `d · 10^k` rounds to the double. -/
def Rounding.holds (r : Rounding) (d : Nat) (k : Int) : Bool :=
  let x := if 0 ≤ k then d * Nat.pow 10 k.toNat * r.unit else d * r.unit
  let f := if 0 ≤ k then 1 else Nat.pow 10 (-k).toNat
  if r.closed then r.lower * f ≤ x && x ≤ r.upper * f
  else r.lower * f < x && x < r.upper * f

/-- Of the two decimals beside the value on the grid 10^k, the one that rounds to the double;
    if both do, the nearer, and of equally near ones the even. -/
def Rounding.onGrid (r : Rounding) (k : Int) : Option Decimal :=
  let num := if 0 ≤ k then r.value else r.value * Nat.pow 10 (-k).toNat
  let den := if 0 ≤ k then r.unit * Nat.pow 10 k.toNat else r.unit
  let d := num / den
  let rest := num % den
  let low := r.holds d k && d ≠ 0
  let high := r.holds (d + 1) k
  let nearLow := 2 * rest < den || (2 * rest = den && d % 2 = 0)
  if rest = 0 && d ≠ 0 then some ⟨d, k⟩
  else if low && (nearLow || !high) then some ⟨d, k⟩
  else if high then some ⟨d + 1, k⟩
  else none

/-- The number of decimal digits before the point of `value / unit`, at least one. -/
def Rounding.places (r : Rounding) : Nat := (toString (r.value / r.unit)).length

/-- The exponent of the first digit: 10^e ≤ value / unit < 10^(e+1). -/
def Rounding.leading (r : Rounding) : Int :=
  if r.unit ≤ r.value then (r.places : Int) - 1
  else
    let z := (toString (r.unit / r.value)).length
    if r.value * Nat.pow 10 (z - 1) = r.unit then -((z : Int) - 1) else -(z : Int)

/-- Drops the zeros that end a digit string, keeping its value. -/
def Decimal.trim (d : Decimal) : Nat → Decimal
  | 0 => d
  | fuel + 1 =>
    if d.digits ≠ 0 && d.digits % 10 = 0 then Decimal.trim ⟨d.digits / 10, d.exponent + 1⟩ fuel else d

/-- The shortest decimal that rounds to m · 2^q (m positive): the first of the grids with one, two,
    … seventeen digits that has one. -/
def shortest (m : Nat) (q : Int) : Decimal :=
  let r := Rounding.of m q
  let e := r.leading
  let found := (List.range 17).findSome? fun (n : Nat) => r.onGrid (e - (n : Int))
  (found.getD ⟨m, 0⟩).trim 20

/-- A digit string with `before` digits in front of the point; zeros fill both sides. -/
def positional (digits : List Char) (before : Int) (whole : Bool) : List Char :=
  if before ≤ 0 then
    ['0', '.'] ++ List.replicate (-before).toNat '0' ++ digits
  else
    let k := before.toNat
    if digits.length ≤ k then
      digits ++ List.replicate (k - digits.length) '0' ++ (if whole then ['.', '0'] else [])
    else digits.take k ++ '.' :: digits.drop k

/-- One digit, a point if more follow, and an exponent of at least two digits. -/
def scientific (digits : List Char) (e : Int) : List Char :=
  let mantissa := match digits with
    | [] => ['0']
    | [d] => [d]
    | d :: ds => d :: '.' :: ds
  let size := (toString e.natAbs).toList
  let size := if size.length < 2 then '0' :: size else size
  mantissa ++ 'e' :: (if e < 0 then '-' else '+') :: size

/-- The text of a magnitude. `whole` asks for a point in numbers without a fraction. -/
def magnitudeText (x : Binary64) (whole : Bool) : List Char :=
  match x with
  | .infinite _ => "inf".toList
  | .finite _ m q =>
    if m = 0 then if whole then "0.0".toList else ['0']
    else
      let d := shortest m q
      let digits := (toString d.digits).toList
      let before : Int := d.exponent + digits.length
      if -4 < before && before ≤ 16 then positional digits before whole
      else scientific digits (before - 1)

/-- The text of a double, with its sign and always with a point or an exponent. -/
def Binary64.text (x : Binary64) : String :=
  String.ofList ((if x.negative then ['-'] else []) ++ magnitudeText x true)

/-- The text of an imaginary number with this magnitude: no point is forced, and `j` follows. -/
def Binary64.imaginaryText (x : Binary64) : String :=
  String.ofList ((if x.negative then ['-'] else []) ++ magnitudeText x false ++ ['j'])

end Bindery.Number

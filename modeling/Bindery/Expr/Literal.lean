import Bindery.Expr.Basic

/- The value of an expression that is a literal: constants, signed numbers, sums of a number and an
   imaginary part, and tuples, lists, sets and dictionaries of literals. -/
namespace Bindery

open Number

inductive Literal where
  | none
  | ellipsis
  | bool (b : Bool)
  | integer (n : Int)
  | real (x : Binary64)
  | complex (re im : Binary64)
  | text (s : String)
  | bytes (bs : List UInt8)
  | tuple (items : List Literal)
  | list (items : List Literal)
  | set (items : List Literal)
  | dict (items : List (Literal × Literal))
  deriving Repr, BEq

/-- Why an expression has no value, or none that can be computed. -/
inductive LiteralFault where
  | notLiteral
  | integerTooLarge
  deriving DecidableEq, Repr

namespace Literal

/-! ### Numbers are equal across their types -/

/-- The numeric value: real and imaginary part, each an exact integer or a double. -/
def integerEqReal (n : Int) (x : Binary64) : Bool := x.toInt? == some n

def boolInt (b : Bool) : Int := if b then 1 else 0

def realOfIntEq (n : Int) (re im : Binary64) : Bool := im.isZero && integerEqReal n re

mutual

/-- Equality of values: numbers compare by value whatever their type, containers of one kind
    compare member by member. -/
def same : Literal → Literal → Bool
  | .bool a, .bool b => a == b
  | .bool a, .integer n => boolInt a == n
  | .integer n, .bool a => boolInt a == n
  | .bool a, .real x => integerEqReal (boolInt a) x
  | .real x, .bool a => integerEqReal (boolInt a) x
  | .bool a, .complex re im => realOfIntEq (boolInt a) re im
  | .complex re im, .bool a => realOfIntEq (boolInt a) re im
  | .integer n, .integer m => n == m
  | .integer n, .real x => integerEqReal n x
  | .real x, .integer n => integerEqReal n x
  | .integer n, .complex re im => realOfIntEq n re im
  | .complex re im, .integer n => realOfIntEq n re im
  | .real x, .real y => x.numEq y
  | .real x, .complex re im => im.isZero && x.numEq re
  | .complex re im, .real x => im.isZero && x.numEq re
  | .complex a b, .complex c d => a.numEq c && b.numEq d
  | .none, .none => true
  | .ellipsis, .ellipsis => true
  | .text s, .text t => s == t
  | .bytes s, .bytes t => s == t
  | .tuple xs, .tuple ys => sameEach xs ys
  | _, _ => false

def sameEach : List Literal → List Literal → Bool
  | [], [] => true
  | x :: xs, y :: ys => same x y && sameEach xs ys
  | _, _ => false

end

mutual

/-- Only values without lists, sets and dictionaries can be members of a set or keys. -/
def isKey : Literal → Bool
  | .list _ => false
  | .set _ => false
  | .dict _ => false
  | .tuple items => areKeys items
  | _ => true

def areKeys : List Literal → Bool
  | [] => true
  | x :: xs => isKey x && areKeys xs

end

/-- Adds a member at the end unless an equal one is there. -/
def insertMember (members : List Literal) (x : Literal) : List Literal :=
  if members.any (same x) then members else members ++ [x]

/-- The members of a set: of equal ones the first. -/
def setOf? (items : List Literal) : Option (List Literal) :=
  if areKeys items then some (items.foldl insertMember []) else Option.none

/-- An equal key keeps its place and its spelling, and takes the new value. -/
def insertEntry (entries : List (Literal × Literal)) (key value : Literal) :
    List (Literal × Literal) :=
  if entries.any (fun e => same key e.1) then
    entries.map fun e => if same key e.1 then (e.1, value) else e
  else entries ++ [(key, value)]

def dictOf? (items : List (Literal × Literal)) : Option (List (Literal × Literal)) :=
  if areKeys (items.map Prod.fst) then
    some (items.foldl (fun entries e => insertEntry entries e.1 e.2) [])
  else Option.none

def ofConstant : Constant → Literal
  | .none => .none
  | .true => .bool true
  | .false => .bool false
  | .ellipsis => .ellipsis
  | .integer n => .integer n
  | .real x => .real x
  | .imaginary x => .complex (Binary64.zero false) x
  | .text s _ => .text s
  | .bytes bs => .bytes bs

def number? : Expr → Option Literal
  | .constant (.integer n) => some (.integer n)
  | .constant (.real x) => some (.real x)
  | .constant (.imaginary x) => some (.complex (Binary64.zero false) x)
  | _ => Option.none

def negate : Literal → Literal
  | .integer n => .integer (-n)
  | .real x => .real x.neg
  | .complex re im => .complex re.neg im.neg
  | other => other

/-- A number with at most one sign. -/
def signed? : Expr → Option Literal
  | .unary .plus e => number? e
  | .unary .minus e => (number? e).map negate
  | e => number? e

/-- An integer as a double; beyond the largest double there is none. -/
def doubleOf? (n : Int) : Option Binary64 :=
  match Binary64.ofNat (n < 0) n.natAbs with
  | .infinite _ => Option.none
  | x => some x

/-- The sum of real numbers of which one is a zero. -/
def addZero (x : Binary64) (zeroNegative : Bool) : Binary64 :=
  if x.isZero && !(x.negative && zeroNegative) then Binary64.zero false else x

/-- A real number plus or minus an imaginary one, part by part. -/
def sum? (left : Literal) (minus : Bool) (right : Literal) : Except LiteralFault Literal :=
  let combine (re im : Binary64) : Literal :=
    if minus then .complex (addZero re true) (addZero im.neg false)
    else .complex (addZero re false) (addZero im false)
  match left, right with
  | .integer n, .complex _ im =>
    match doubleOf? n with
    | some re => .ok (combine re im)
    | Option.none => .error .integerTooLarge
  | .real re, .complex _ im => .ok (combine re im)
  | _, _ => .error .notLiteral

def orNotLiteral {α : Type} : Option α → Except LiteralFault α
  | some x => .ok x
  | Option.none => .error .notLiteral

mutual

/-- The value of a literal. -/
def ofExpr : Expr → Except LiteralFault Literal
  | .constant c => .ok (ofConstant c)
  | .tuple es => do
    let xs ← ofEach es
    return .tuple xs
  | .list es => do
    let xs ← ofEach es
    return .list xs
  | .set es => do
    let xs ← ofEach es
    let members ← orNotLiteral (setOf? xs)
    return .set members
  | .call (.name "set") [] [] => .ok (.set [])
  | .dict items => do
    let entries ← ofItems items
    let entries ← orNotLiteral (dictOf? entries)
    return .dict entries
  | .binary left .add right => do
    let l ← orNotLiteral (signed? left)
    let r ← orNotLiteral (number? right)
    sum? l false r
  | .binary left .sub right => do
    let l ← orNotLiteral (signed? left)
    let r ← orNotLiteral (number? right)
    sum? l true r
  | e => orNotLiteral (signed? e)

def ofEach : List Expr → Except LiteralFault (List Literal)
  | [] => .ok []
  | e :: es => do
    let x ← ofExpr e
    let xs ← ofEach es
    return x :: xs

def ofItems : List DictItem → Except LiteralFault (List (Literal × Literal))
  | [] => .ok []
  | .pair key value :: rest => do
    let k ← ofExpr key
    let v ← ofExpr value
    let more ← ofItems rest
    return (k, v) :: more
  | .spread _ :: _ => .error .notLiteral

end

end Literal
end Bindery

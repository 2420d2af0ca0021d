import Bindery.Directive
import Bindery.Expr.Outline

/- Conditions that a declaration carries for its bindings. A condition is never evaluated: it is
   written out again in front of the generated code. Two conditions are equal when their structure
   is, however they are laid out. -/
namespace Bindery

structure Guard where
  source : String
  key : String
  span : Span
  deriving DecidableEq, Repr

namespace Guard

/-- The key of a source: the outline of its expression or, when it is none, its words. -/
def structuralKey (source : String) : Except SourceFault String := do
  match ← bracketedPhrase? source with
  | none => return " ".intercalate (Text.words source)
  | some phrase => phrase.expr.outline.mapError .print

/-- A guard of the given source. A key that is given counts, unless it is empty. -/
def make (source : String) (key : String := "") (span : Span := {}) : Except SourceFault Guard := do
  let key ← if key.isEmpty then structuralKey source else .ok key
  return { source, key, span }

/-- Equality of structure. -/
def same (a b : Guard) : Bool := a.key == b.key

/-- Equality of two lists of guards, one by one. -/
def sameList : List Guard → List Guard → Bool
  | [], [] => true
  | a :: as, b :: bs => a.same b && sameList as bs
  | _, _ => false

/-- These bind at least as tightly as an operand of `and` must. -/
def isTight : Expr → Bool
  | .call _ _ _ => true
  | .name _ => true
  | .attribute _ _ => true
  | .subscript _ _ => true
  | _ => false

/-- The text of the condition as one operand of `and`, on one line when the source is an
    expression. -/
def render (g : Guard) : Except SourceFault String := do
  match ← bracketedPhrase? g.source with
  | none => return "(" ++ g.source ++ ")"
  | some phrase =>
    let text ←
      if g.source.toList.contains '\n' then Directive.printed phrase.expr else .ok g.source
    return if isTight phrase.expr then text else "(" ++ text ++ ")"

end Guard
end Bindery

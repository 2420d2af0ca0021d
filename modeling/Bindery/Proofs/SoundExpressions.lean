import Bindery.Expr.Formatted
import Bindery.Proofs.Number.Rounding

/- Expressions in the form in which they are read: doubles as rounding leaves them, names in normal
   form, conversions of one of three letters, and in a lambda no parameter without a default behind
   one with a default. -/
namespace Bindery

/-- The normal form of a word. -/
def Text.NormalName (id : String) : Prop :=
  ∃ w : String, isName w.toList = true ∧ normalForm w = id

/-- A name that may be missing. -/
def Text.NormalNames (id : Option String) : Prop := ∀ name ∈ id, NormalName name

/-- One of the letters that ask for a conversion, or none. -/
def IsConversion (conversion : Option Char) : Prop := ∀ c ∈ conversion, c ∈ Formatted.conversions

def Constant.Sound : Constant → Prop
  | .real x => x.Unsigned
  | .imaginary x => x.Unsigned
  | _ => True

def Parameter.default? : Parameter → Option Expr
  | .mk _ default => default

/-- Once a parameter has a default, all later ones have. -/
def DefaultsLast (ps : List Parameter) : Prop :=
  ps.Pairwise fun p q => p.default?.isSome = true → q.default?.isSome = true

mutual

def Expr.Sound : Expr → Prop
  | .constant c => c.Sound
  | .name id => Text.NormalName id
  | .attribute value attr => value.Sound ∧ Text.NormalName attr
  | .subscript value index => value.Sound ∧ index.Sound
  | .call callee args keywords => callee.Sound ∧ SoundEach args ∧ SoundKeywords keywords
  | .logical _ operands => SoundEach operands
  | .named target value => value.Sound ∧ Text.NormalName target
  | .binary left _ right => left.Sound ∧ right.Sound
  | .unary _ operand => operand.Sound
  | .lambda positionalOnly positional rest keywordOnly extra body =>
    DefaultsLast (positionalOnly ++ positional) ∧ SoundParameters positionalOnly ∧
      SoundParameters positional ∧ SoundParameters keywordOnly ∧ body.Sound ∧
      Text.NormalNames rest ∧ Text.NormalNames extra
  | .conditional test body orelse => test.Sound ∧ body.Sound ∧ orelse.Sound
  | .dict items => SoundItems items
  | .set elements => SoundEach elements
  | .list elements => SoundEach elements
  | .tuple elements => SoundEach elements
  | .listComp element generators => element.Sound ∧ SoundGenerators generators
  | .setComp element generators => element.Sound ∧ SoundGenerators generators
  | .dictComp key value generators => key.Sound ∧ value.Sound ∧ SoundGenerators generators
  | .generatorExp element generators => element.Sound ∧ SoundGenerators generators
  | .await value => value.Sound
  | .yield value => SoundOption value
  | .yieldFrom value => value.Sound
  | .compare left rest => left.Sound ∧ SoundComparisons rest
  | .formatted value conversion format =>
    value.Sound ∧ SoundOption format ∧ IsConversion conversion
  | .joined parts => SoundEach parts
  | .starred value => value.Sound
  | .slice lower upper step => SoundOption lower ∧ SoundOption upper ∧ SoundOption step

def SoundOption : Option Expr → Prop
  | none => True
  | some e => e.Sound

def SoundEach : List Expr → Prop
  | [] => True
  | e :: es => e.Sound ∧ SoundEach es

def SoundKeywords : List Keyword → Prop
  | [] => True
  | .mk name value :: rest => value.Sound ∧ Text.NormalNames name ∧ SoundKeywords rest

def SoundItems : List DictItem → Prop
  | [] => True
  | .pair key value :: rest => key.Sound ∧ value.Sound ∧ SoundItems rest
  | .spread value :: rest => value.Sound ∧ SoundItems rest

def SoundGenerators : List Generator → Prop
  | [] => True
  | .mk _ target source conditions :: rest =>
    target.Sound ∧ source.Sound ∧ SoundEach conditions ∧ SoundGenerators rest

def SoundParameters : List Parameter → Prop
  | [] => True
  | .mk name default :: rest => SoundOption default ∧ Text.NormalName name ∧ SoundParameters rest

def SoundComparisons : List Comparison → Prop
  | [] => True
  | .mk _ right :: rest => right.Sound ∧ SoundComparisons rest

end

end Bindery

import Bindery.Directive
import Bindery.ModuleName

/- Checked arguments of a binding directive. Each argument must be an allowed keyword with a text
   literal that is not empty; every argument that fails is reported, with the first rule it
   breaks. -/
namespace Bindery

/-- The rules an argument can break. -/
inductive ArgumentFault where
  | positional (source : String)
  | unrecognized (key : String) (allowed : List String)
  | notText (key source : String)
  | empty (key : String)
  deriving DecidableEq, Repr

def ArgumentFault.message (directive : String) : ArgumentFault → String
  | .positional source =>
    "@" ++ directive ++ " does not accept positional arguments, got " ++ source
  | .unrecognized key allowed =>
    "@" ++ directive ++ " got unrecognized argument '" ++ key ++ "', expected one of: " ++
      ", ".intercalate allowed
  | .notText key source =>
    "@" ++ directive ++ " argument '" ++ key ++ "' must be a string literal, got " ++ source
  | .empty key => "@" ++ directive ++ " argument '" ++ key ++ "' must not be empty"

/-- The key and the text of an argument, or the first rule it breaks. -/
def Argument.check (allowed : List String) (a : Argument) : Except ArgumentFault (String × String) :=
  match a.key with
  | none => .error (.positional a.source)
  | some key =>
    if !allowed.contains key then .error (.unrecognized key allowed)
    else match a.value with
      | some (.text s) => if s.isEmpty then .error (.empty key) else .ok (key, s)
      | _ => .error (.notText key a.source)

/-- An argument's own place, or the directive's when it has none. -/
def Argument.placeOr (fallback : Option Span) (a : Argument) : Span :=
  if a.span.line.isSome then a.span else fallback.getD {}

/-- The checked arguments by key; of two with one key the later counts, in the place of the first. -/
structure Arguments where
  directive : String
  ident : String
  values : List (String × String)
  deriving DecidableEq, Repr

namespace Arguments

def simpleNames : List String := ["name"]
def structSequenceNames : List String := ["module", "name"]

def put (values : List (String × String)) (key value : String) : List (String × String) :=
  if values.any (·.1 == key) then
    values.map fun e => if e.1 == key then (key, value) else e
  else values ++ [(key, value)]

/-- One diagnostic for each argument that breaks a rule, in order. -/
def faults (directive : String) (allowed : List String) (span : Option Span)
    (args : List Argument) : List Diagnostic :=
  args.filterMap fun a =>
    match a.check allowed with
    | .ok _ => none
    | .error fault => some ⟨fault.message directive, a.placeOr span⟩

def accepted (allowed : List String) (args : List Argument) : List (String × String) :=
  args.filterMap fun a => (a.check allowed).toOption

/-- Checks all arguments. -/
def ofList (directive ident : String) (args : List Argument) (allowed : List String)
    (span : Option Span) : Except Diagnostic.Batch Arguments :=
  match Diagnostic.Batch.ofList? (faults directive allowed span args) with
  | some batch => .error batch
  | none => .ok ⟨directive, ident,
      (accepted allowed args).foldl (fun values e => put values e.1 e.2) []⟩

def get? (a : Arguments) (key : String) : Option String := a.values.lookup key

/-- The external name: the one given, or else the identifier. -/
def name (a : Arguments) : String := ModuleName.resolve a.ident (a.get? "name")

end Arguments
end Bindery

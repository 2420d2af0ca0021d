import Bindery.Toml.Reader

/- The settings of a source tree, and what can be wrong with the table that gives them. Every key is
   checked, and all problems are told at once: those of known keys in the order of the fields,
   then unknown keys in the order of the document. -/
namespace Bindery

structure Settings where
  outputDirectory : String := ".pymodgen"
  included : List String := []
  excluded : List String := []
  nestedIgnore : Bool := false
  /-- Names of modules that stand for the ones their relative paths would give. -/
  moduleNames : List (String × String) := []
  deriving DecidableEq, Repr

namespace Settings

inductive Cause where
  | noText
  | noList
  | noBoolean
  | unclearBoolean
  | emptyName (path : String)
  | unknownKey
  deriving DecidableEq, Repr

/-- The short name of a cause. -/
def Cause.tag : Cause → String
  | .noText => "string_type"
  | .noList => "list_type"
  | .noBoolean => "bool_type"
  | .unclearBoolean => "bool_parsing"
  | .emptyName _ => "value_error"
  | .unknownKey => "extra_forbidden"

def Cause.message : Cause → String
  | .noText => "Input should be a valid string"
  | .noList => "Input should be a valid list"
  | .noBoolean => "Input should be a valid boolean"
  | .unclearBoolean => "Input should be a valid boolean, unable to interpret input"
  | .emptyName path => "Value error, Empty module name configured for '" ++ path ++ "'"
  | .unknownKey => "Extra inputs are not permitted"

/-- A value that does not fit the place where it stands. -/
structure Problem where
  cause : Cause
  location : List String
  input : Toml.Value
  deriving Repr

/-- What keeps a table from being settings. A `moduleNames` entry of a wrong type hides all
    other problems. -/
inductive Fault where
  | problems (first : Problem) (rest : List Problem)
  | namesNoTable
  | namesNoTexts
  deriving Repr

/-! ### Values -/

/-- A value, or the problems that keep it from being one. -/
abbrev Checked (α : Type) := α × List Problem

/-- Words that mean a truth value. -/
def trueWords : List String := ["1", "on", "t", "true", "y", "yes"]

def falseWords : List String := ["0", "off", "f", "n", "no", "false"]

def booleanOfInt? (n : Int) : Option Bool :=
  if n = 0 then some false else if n = 1 then some true else none

def orUnclear : Option Bool → Except Cause Bool
  | some b => .ok b
  | none => .error .unclearBoolean

/-- Whether an integer is within the range of doubles. -/
def isWithinDoubles (n : Int) : Bool :=
  match Number.Binary64.ofNat false n.natAbs with
  | .finite _ _ _ => true
  | .infinite _ => false

/-- A truth value, or a word or a number that means one. -/
def booleanOf : Toml.Value → Except Cause Bool
  | .boolean b => .ok b
  | .text s =>
    let word := String.ofList (s.toList.map Char.toLower)
    if trueWords.contains word then .ok true
    else if falseWords.contains word then .ok false
    else .error .unclearBoolean
  | .integer n => if isWithinDoubles n then orUnclear (booleanOfInt? n) else .error .noBoolean
  | .real (.number x) =>
    match x.toInt? with
    | some n => orUnclear (booleanOfInt? n)
    | none => .error .noBoolean
  | _ => .error .noBoolean

def textOf (location : List String) : Toml.Value → Checked String
  | .text s => (s, [])
  | v => ("", [⟨.noText, location, v⟩])

def textsFrom (location : List String) (index : Nat) : List Toml.Value → Checked (List String)
  | [] => ([], [])
  | v :: vs =>
    let (s, problems) := textOf (location ++ [toString index]) v
    let (ss, more) := textsFrom location (index + 1) vs
    (s :: ss, problems ++ more)

def textsOf (location : List String) : Toml.Value → Checked (List String)
  | .array vs => textsFrom location 0 vs
  | v => ([], [⟨.noList, location, v⟩])

def truthOf (location : List String) (v : Toml.Value) : Checked Bool :=
  match booleanOf v with
  | .ok b => (b, [])
  | .error cause => (false, [⟨cause, location, v⟩])

/-- The names of a table. They are checked in order, and the first that is wrong counts. -/
def namesFrom : List (String × Toml.Value) → Except Fault (Except Cause (List (String × String)))
  | [] => .ok (.ok [])
  | (path, .text name) :: rest =>
    if name.isEmpty then .ok (.error (.emptyName path))
    else do
      let more ← namesFrom rest
      return more.map fun names => (path, name) :: names
  | _ :: _ => .error .namesNoTexts

def namesOf (location : List String) (v : Toml.Value) :
    Except Fault (Checked (List (String × String))) :=
  match v with
  | .table entries => do
    match ← namesFrom entries with
    | .ok names => return (names, [])
    | .error cause => return ([], [⟨cause, location, v⟩])
  | _ => .error .namesNoTable

/-! ### Tables -/

def keys : List String := ["output_dir", "include", "exclude", "nested_gitignore", "module_names"]

/-- The value under a key by its own check, or the default when there is none. -/
def field {α : Type} (t : Toml.Table) (key : String) (default : α)
    (check : List String → Toml.Value → Checked α) : Checked α :=
  match Toml.Table.get? t key with
  | some v => check [key] v
  | none => (default, [])

/-- Keys that mean nothing. -/
def unknown (t : Toml.Table) : List Problem :=
  (t.filter fun e => !keys.contains e.1).map fun e => ⟨.unknownKey, [e.1], e.2⟩

/-- The settings that a table gives. -/
def ofTable (t : Toml.Table) : Except Fault Settings := do
  let base : Settings := {}
  let (outputDirectory, a) := field t "output_dir" base.outputDirectory textOf
  let (included, b) := field t "include" base.included textsOf
  let (excluded, c) := field t "exclude" base.excluded textsOf
  let (nestedIgnore, d) := field t "nested_gitignore" base.nestedIgnore truthOf
  let (moduleNames, e) ← match Toml.Table.get? t "module_names" with
    | some v => namesOf ["module_names"] v
    | none => .ok (base.moduleNames, [])
  match a ++ b ++ c ++ d ++ e ++ unknown t with
  | [] => return { outputDirectory, included, excluded, nestedIgnore, moduleNames }
  | first :: rest => .error (.problems first rest)

/-- The name that a relative path has of its own. -/
def nameOf? (s : Settings) (path : String) : Option String := s.moduleNames.lookup path

end Settings
end Bindery

import Bindery.FileTree.Change
import Bindery.Item
import Bindery.Json.Reader

/- Manifests of a generated tree: files of records, one a line. One manifest tells the bindings of
   all modules, the other tells the modules. -/
namespace Bindery.Manifest

open Json (Value)

/-- The version of the records' form. -/
def formVersion : Int := 1

def bindingsName : String := "bindings.jsonl"

def modulesName : String := "modules.jsonl"

def names : List String := [bindingsName, modulesName]

/-- One item of one module. -/
structure BindingRecord where
  path : String
  module : String
  kind : Item.Kind
  declaration : String
  name : String
  guards : List String
  /-- The line of the declaration, if it is known. -/
  line : Option Int
  deriving DecidableEq, Repr

/-- One expanded module. -/
structure ModuleRecord where
  path : String
  module : String
  output : String
  bindingCount : Nat
  deriving DecidableEq, Repr

def lineValue : Option Int → Value
  | some n => .integer n
  | none => .null

def BindingRecord.value (r : BindingRecord) : Value :=
  .object [
    ("schema_version", .integer formVersion),
    ("path", .text r.path),
    ("module", .text r.module),
    ("kind", .text r.kind.text),
    ("declaration", .text r.declaration),
    ("py_name", .text r.name),
    ("guards", .array (r.guards.map Value.text)),
    ("line", lineValue r.line)]

def ModuleRecord.value (r : ModuleRecord) : Value :=
  .object [
    ("schema_version", .integer formVersion),
    ("path", .text r.path),
    ("module", .text r.module),
    ("output", .text r.output),
    ("binding_count", .integer r.bindingCount)]

/-- The text of a manifest with these records. -/
def text (records : List Value) : String := String.join (records.map fun v => v.render ++ "\n")

def bytes (records : List Value) : List UInt8 := Text.Utf8.ofString (text records)

/-! ### Reading -/

/-- Why a manifest cannot be read. -/
inductive Fault where
  | file (fault : FileFault)
  | badLine
  deriving DecidableEq, Repr

/-- Bytes that count as blank at the ends of a line. -/
def isBlankByte (b : UInt8) : Bool := b = 32 || (9 ≤ b && b ≤ 13)

def trimBytes (bs : List UInt8) : List UInt8 :=
  ((bs.dropWhile isBlankByte).reverse.dropWhile isBlankByte).reverse

/-- The lines of a file, without their line feeds. -/
def linesOf : List UInt8 → List (List UInt8)
  | [] => [[]]
  | b :: bs =>
    if b = 10 then [] :: linesOf bs
    else match linesOf bs with
      | [] => [[b]]
      | line :: lines => (b :: line) :: lines

/-- The records on lines that are not blank. A line may hold any value, but only objects count. -/
def recordsOf : List (List UInt8) → Except Fault (List (List (String × Value)))
  | [] => .ok []
  | line :: lines =>
    let line := trimBytes line
    if line.isEmpty then recordsOf lines
    else match Json.ofBytes? line with
      | none => .error .badLine
      | some (.object entries) => do
        let more ← recordsOf lines
        return entries :: more
      | some _ => recordsOf lines

def ofBytes (bs : List UInt8) : Except Fault (List (List (String × Value))) := recordsOf (linesOf bs)

/-- The records of the manifest at a path. -/
def load (t : FileTree) (s : Surroundings) (p : Path) :
    Except Fault (List (List (String × Value))) := do
  let bs ← (t.read s p).mapError .file
  ofBytes bs

end Bindery.Manifest

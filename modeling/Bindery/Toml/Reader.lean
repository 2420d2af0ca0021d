import Bindery.Toml.Quoted
import Bindery.Toml.Scalar

/- The reading of a document: lines that put a value under a key of the current table, and headers
   that open the next table. -/
namespace Bindery.Toml

/-! ### Keys -/

def isBareKey (c : Char) : Bool := c.isAlphanum || c = '-' || c = '_'

def keyPart (cs : List Char) : Except Stop (Reading String) :=
  match shortText? cs with
  | some step => step.map fun found => (String.ofList found.1, found.2)
  | none =>
    match cs.takeWhile isBareKey with
    | [] => fail .invalidKeyStart cs
    | name => .ok (String.ofList name, cs.drop name.length)

/-- The parts of a key behind the first one, each behind a point. -/
def keyParts : Nat → List Char → Except Stop (Reading Key)
  | 0, cs => .ok ([], cs)
  | fuel + 1, cs =>
    match dropSpaces cs with
    | '.' :: rest => do
      let (name, rest) ← keyPart (dropSpaces rest)
      let (names, rest) ← keyParts fuel rest
      return (name :: names, rest)
    | rest => .ok ([], rest)

/-- A dotted key, with the blanks behind it. -/
def key (cs : List Char) : Except Stop (Reading Key) := do
  let (name, rest) ← keyPart cs
  let (names, rest) ← keyParts rest.length rest
  return (name :: names, rest)

/-! ### Values -/

/-- Blanks, line breaks and comments between the items of an array. -/
def dropFiller : Nat → List Char → Except Stop (List Char)
  | 0, cs => .ok cs
  | fuel + 1, cs =>
    match cs.dropWhile isSpaceOrBreak with
    | '#' :: rest => do dropFiller fuel (← dropComment ('#' :: rest))
    | rest => .ok rest

def filler (cs : List Char) : Except Stop (List Char) := dropFiller (cs.length + 1) cs

def Value.isContainer : Value → Bool
  | .array _ => true
  | .table _ => true
  | _ => false

/-- An inline table as it is read: nothing can be put below the inline values it holds. -/
structure InlineTable where
  entries : Table := []
  marks : Marks := {}

namespace InlineTable

/-- Puts a value under a key; `rest` is the text behind it. -/
def put (t : InlineTable) (key : Key) (v : Value) (rest : List Char) :
    Except Stop InlineTable :=
  if t.marks.isFrozen key then .error (.malformed (.immutable key) rest)
  else match putAt false key.dropLast (key.getLastD "") v t.entries with
    | .error .noTable => .error (.malformed .overwritten rest)
    | .error .taken => .error (.malformed (.duplicateInline (key.getLastD "")) rest)
    | .ok entries =>
      .ok { entries, marks := if v.isContainer then t.marks.freeze key else t.marks }

end InlineTable

/-- The equals sign behind a key, and the blanks around it. -/
def equals (cs : List Char) : Except Stop (List Char) :=
  match cs with
  | '=' :: rest => .ok (dropSpaces rest)
  | _ => .error (.malformed .noEquals cs)

mutual

/-- Reads a value. -/
def value : Nat → List Char → Except Stop (Reading Value)
  | 0, cs => fail .invalidValue cs
  | fuel + 1, cs =>
    match text? cs with
    | some step => step.map fun found => (.text (String.ofList found.1), found.2)
    | none =>
      match cs with
      | '[' :: rest => do
        let (items, rest) ← arrayItems fuel (← filler rest)
        return (.array items, rest)
      | '\x7b' :: rest =>
        match dropSpaces rest with
        | '\x7d' :: rest => .ok (.table [], rest)
        | rest => inlineEntries fuel {} rest
      | _ =>
        if "true".toList.isPrefixOf cs then .ok (.boolean true, cs.drop 4)
        else if "false".toList.isPrefixOf cs then .ok (.boolean false, cs.drop 5)
        else (scalar? cs).getD (fail .invalidValue cs)

/-- The items of an array up to its end. A comma may stand behind the last one. -/
def arrayItems : Nat → List Char → Except Stop (Reading (List Value))
  | 0, cs => fail .openArray cs
  | fuel + 1, cs =>
    match cs with
    | ']' :: rest => .ok ([], rest)
    | _ => do
      let (v, rest) ← value fuel cs
      match ← filler rest with
      | ']' :: rest => return ([v], rest)
      | ',' :: rest =>
        let (vs, rest) ← arrayItems fuel (← filler rest)
        return (v :: vs, rest)
      | rest => fail .openArray rest

/-- The entries of an inline table up to its end. -/
def inlineEntries : Nat → InlineTable → List Char → Except Stop (Reading Value)
  | 0, _, cs => fail .openInlineTable cs
  | fuel + 1, t, cs => do
    let (name, rest) ← key cs
    let (v, rest) ← value fuel (← equals rest)
    let t ← t.put name v rest
    match dropSpaces rest with
    | '\x7d' :: rest => return (.table t.entries, rest)
    | ',' :: rest => inlineEntries fuel t (dropSpaces rest)
    | rest => fail .openInlineTable rest

end

/-! ### Statements -/

/-- A document as far as it is read. Tables that dotted keys made cannot be declared from the next
    header on. -/
structure Document where
  table : Table := []
  marks : Marks := {}
  pending : List Key := []
  header : Key := []

namespace Document

/-- Declares the tables that dotted keys have made. -/
def settle (d : Document) : Document :=
  { d with marks := d.pending.foldl Marks.declare d.marks, pending := [] }

/-- Opens the table of a header. -/
def open_ (d : Document) (k : Key) (rest : List Char) : Except Stop Document :=
  if d.marks.isDeclared k || d.marks.isFrozen k then
    .error (.malformed (.declaredTwice k) rest)
  else match openTable? k d.table with
    | none => .error (.malformed .overwritten rest)
    | some table => .ok { d with table, marks := d.marks.declare k, header := k }

/-- Adds a table to the array of a header. What was declared below the table before it is
    free again. -/
def append (d : Document) (k : Key) (rest : List Char) : Except Stop Document :=
  if d.marks.isFrozen k then .error (.malformed (.immutable k) rest)
  else match appendTable? k d.table with
    | none => .error (.malformed .overwritten rest)
    | some table => .ok { d with table, marks := (d.marks.release k).declare k, header := k }

/-- Marks the tables on the way of a dotted key, unless one of them has a header of its own. -/
def pass (d : Document) (rest : List Char) : List Key → Except Stop Document
  | [] => .ok d
  | k :: ks =>
    if d.marks.isDeclared k then .error (.malformed (.redefined k) rest)
    else ({ d with pending := k :: d.pending }).pass rest ks

/-- The keys on the way of a dotted key, below the header. -/
def way (header k : Key) : List Key :=
  (List.range (k.length - 1)).map fun n => header ++ k.take (n + 1)

/-- Puts a value under a key of the current table; `rest` is the text behind it. -/
def put (d : Document) (k : Key) (v : Value) (rest : List Char) : Except Stop Document := do
  let d ← d.pass rest (way d.header k)
  let parent := d.header ++ k.dropLast
  if d.marks.isFrozen parent then .error (.malformed (.immutable parent) rest)
  match putAt true parent (k.getLastD "") v d.table with
  | .error _ => .error (.malformed .overwritten rest)
  | .ok table =>
    return { d with
      table
      marks := if v.isContainer then d.marks.freeze (d.header ++ k) else d.marks }

end Document

/-- A header, behind its first bracket. -/
def header (d : Document) (cs : List Char) : Except Stop (Reading Document) := do
  let d := d.settle
  match cs with
  | '[' :: rest =>
    let (k, rest) ← key (dropSpaces rest)
    let d ← d.append k rest
    match rest with
    | ']' :: ']' :: rest => return (d, rest)
    | _ => fail .noArrayOfTablesEnd rest
  | _ =>
    let (k, rest) ← key (dropSpaces cs)
    let d ← d.open_ k rest
    match rest with
    | ']' :: rest => return (d, rest)
    | _ => fail .noTableEnd rest

def isKeyStart (c : Char) : Bool := isBareKey c || c = '"' || c = '\''

/-- One statement, without what may follow it on its line. -/
def statement (d : Document) (cs : List Char) : Except Stop (Reading Document) :=
  match cs with
  | '[' :: rest => header d rest
  | '#' :: _ => .ok (d, cs)
  | c :: _ =>
    if isKeyStart c then do
      let (k, rest) ← key cs
      let rest ← equals rest
      let (v, rest) ← value (rest.length + 1) rest
      return (← d.put k v rest, rest)
    else fail .invalidStatement cs
  | [] => .ok (d, [])

def statements : Nat → Document → List Char → Except Stop Document
  | 0, d, _ => .ok d
  | fuel + 1, d, cs =>
    match dropSpaces cs with
    | [] => .ok d
    | '\n' :: rest => statements fuel d rest
    | cs => do
      let (d, rest) ← statement d cs
      match ← dropComment (dropSpaces rest) with
      | [] => return d
      | '\n' :: rest => statements fuel d rest
      | rest => .error (.malformed .noLineEnd rest)

/-- A carriage return before a line feed does not count. -/
def unifyBreaks : List Char → List Char
  | '\r' :: '\n' :: cs => '\n' :: unifyBreaks cs
  | c :: cs => c :: unifyBreaks cs
  | [] => []

/-- Reads a document. -/
def read (source : List Char) : Except Fault Table :=
  let document := unifyBreaks source
  match statements (document.length + 1) {} document with
  | .ok d => .ok d.table
  | .error stop => .error (stop.inDocument document)

end Bindery.Toml

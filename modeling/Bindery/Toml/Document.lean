import Bindery.Toml.Value

/- The tables of a document while it is being read. A key leads through tables, and through the last
   table of an array of tables. Inline values cannot be opened again, and a table is declared at
   most once. -/
namespace Bindery.Toml

abbrev Key := List String

/-- The text of a key in a message. -/
def Key.shown : Key → String
  | [name] => "(" ++ Text.quoted name ++ ",)"
  | names => "(" ++ ", ".intercalate (names.map Text.quoted) ++ ")"

/-- What may no longer be done to keys: `declared` tables cannot be declared again, and nothing at
    `sealed` keys or below them can be changed. -/
structure Marks where
  declared : List Key := []
  frozen : List Key := []
  deriving Repr

namespace Marks

def isDeclared (m : Marks) (key : Key) : Bool := !key.isEmpty && m.declared.contains key

def isFrozen (m : Marks) (key : Key) : Bool := m.frozen.any fun top => top.isPrefixOf key

def declare (m : Marks) (key : Key) : Marks := { m with declared := key :: m.declared }

def freeze (m : Marks) (key : Key) : Marks := { m with frozen := key :: m.frozen }

/-- Forgets a key and all below it. -/
def release (m : Marks) (key : Key) : Marks :=
  { declared := m.declared.filter fun k => !key.isPrefixOf k
    frozen := m.frozen.filter fun k => !key.isPrefixOf k }

end Marks

namespace Table

def get? (t : Table) (key : String) : Option Value := List.lookup key t

/-- Puts a value under a key; a new key comes last. -/
def put (t : Table) (key : String) (v : Value) : Table :=
  if t.any (·.1 == key) then t.map fun e => if e.1 == key then (key, v) else e
  else t ++ [(key, v)]

end Table

/-- Changes the table that a key leads to, making the tables on the way. `none` when there is
    something else on the way, or when the change is refused. -/
def changeAt (throughArrays : Bool) (change : Table → Option Table) : Key → Table → Option Table
  | [], t => change t
  | name :: rest, t =>
    match Table.get? t name with
    | none => do
      let inner ← changeAt throughArrays change rest []
      return Table.put t name (.table inner)
    | some (.table inner) => do
      let inner ← changeAt throughArrays change rest inner
      return Table.put t name (.table inner)
    | some (.array items) =>
      if throughArrays then
        match items.getLast? with
        | some (.table inner) => do
          let inner ← changeAt throughArrays change rest inner
          return Table.put t name (.array (items.dropLast ++ [.table inner]))
        | _ => none
      else none
    | some _ => none

/-- Makes sure that a key leads to a table. -/
def openTable? (key : Key) (t : Table) : Option Table := changeAt true some key t

/-- Adds an empty table to the array behind a key, which is made if it is missing. -/
def appendTable? (key : Key) (t : Table) : Option Table :=
  match key.getLast? with
  | none => none
  | some name =>
    changeAt true (fun inner =>
      match Table.get? inner name with
      | none => some (Table.put inner name (.array [.table []]))
      | some (.array items) => some (Table.put inner name (.array (items ++ [.table []])))
      | some _ => none) key.dropLast t

/-- Why a value cannot be put under a key. -/
inductive PutFault where
  | noTable
  | taken
  deriving DecidableEq, Repr

/-- Whether a key leads to a table, and whether that holds a name. -/
def lookAt (throughArrays : Bool) (name : String) : Key → Table → Except PutFault Bool
  | [], t => .ok (Table.get? t name).isSome
  | first :: rest, t =>
    match Table.get? t first with
    | none => .ok false
    | some (.table inner) => lookAt throughArrays name rest inner
    | some (.array items) =>
      if throughArrays then
        match items.getLast? with
        | some (.table inner) => lookAt throughArrays name rest inner
        | _ => .error .noTable
      else .error .noTable
    | some _ => .error .noTable

/-- Puts a value under a name in the table that a key leads to. The name must be free. -/
def putAt (throughArrays : Bool) (key : Key) (name : String) (v : Value) (t : Table) :
    Except PutFault Table := do
  if ← lookAt throughArrays name key t then .error .taken
  else match changeAt throughArrays (fun inner => some (Table.put inner name v)) key t with
    | some t => .ok t
    | none => .error .noTable

end Bindery.Toml

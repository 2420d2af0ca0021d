import Bindery.Proofs.Json.Values
import Bindery.Proofs.Rescans
import Bindery.Proofs.Utf8Texts

/- Records come back from the file they were written to: every record is one line, no line is blank or
   loses anything at its ends, and the value on it has the fields of the record. -/
namespace Bindery
namespace Manifest

open Json (Value IsWord)

/-! ### Records -/

/-- A record of either kind, of any version of the form. -/
inductive Record where
  | binding (version : Int) (r : BindingRecord)
  | module (version : Int) (path name output : String) (count : Int)

def Record.fields : Record → List (String × Value)
  | .binding version r => [
    ("schema_version", .integer version),
    ("path", .text r.path),
    ("module", .text r.module),
    ("kind", .text r.kind.text),
    ("declaration", .text r.declaration),
    ("py_name", .text r.name),
    ("guards", .array (r.guards.map Value.text)),
    ("line", lineValue r.line)]
  | .module version path name output count => [
    ("schema_version", .integer version),
    ("path", .text path),
    ("module", .text name),
    ("output", .text output),
    ("binding_count", .integer count)]

def Record.integers : Record → List Int
  | .binding version r => version :: r.line.toList
  | .module version _ _ _ count => [version, count]

def Record.value (r : Record) : Value := .object r.fields

/-- The record of an expanded module. -/
def Record.ofModule (m : ModuleRecord) : Record :=
  .module formVersion m.path m.module m.output m.bindingCount

theorem isWord_formVersion : IsWord formVersion := ⟨by decide, by decide⟩

theorem Record.nodup_fields (r : Record) : (r.fields.map Prod.fst).Nodup := by
  cases r <;> simp [Record.fields]

/-- A record contains one array at most, which contains texts. -/
theorem Record.plain (r : Record) (words : ∀ n ∈ r.integers, IsWord n) :
    Json.Plain Json.maxDepth r.value := by
  refine .object r.nodup_fields ?_
  cases r with
  | binding version r =>
    have texts : ∀ v ∈ r.guards.map Value.text, Json.Plain 1022 v := by
      rintro v member
      obtain ⟨guard, -, rfl⟩ := List.mem_map.mp member
      exact .text guard
    have line : Json.Plain 1023 (lineValue r.line) := by
      cases known : r.line with
      | none => exact .null
      | some n => exact .integer (words n (by simp [Record.integers, known]))
    simp only [Record.fields, List.forall_mem_cons]
    exact ⟨.integer (words _ (by simp [Record.integers])), .text _, .text _, .text _, .text _, .text _,
      .array texts, line, List.forall_mem_nil _⟩
  | module version path name output count =>
    simp only [Record.fields, List.forall_mem_cons]
    exact ⟨.integer (words _ (by simp [Record.integers])), .text _, .text _, .text _,
      .integer (words _ (by simp [Record.integers])), List.forall_mem_nil _⟩

/-- No field of a record is an object, or contains one. -/
theorem Record.ordered_fields (r : Record) : ∀ e ∈ r.fields, Json.orderedEntry e = e := by
  have texts : ∀ guards : List String, (guards.map Value.text).map Value.ordered = guards.map Value.text := by
    intro guards
    rw [List.map_map]
    exact List.map_congr_left fun guard _ => rfl
  cases r with
  | binding version r =>
    cases known : r.line <;>
      simp [Record.fields, Json.orderedEntry, Value.ordered, Json.orderedItems_eq, lineValue, known]
  | module => simp [Record.fields, Json.orderedEntry, Value.ordered]

/-! ### Lines -/

/-- The bytes of a line of its own. -/
def lineBytes (v : Value) : List UInt8 := Text.Utf8.ofString v.render

theorem bytes_cons (v : Value) (vs : List Value) : bytes (v :: vs) = lineBytes v ++ 10 :: bytes vs := by
  have feed : String.utf8EncodeChar '\n' = [10] := by decide
  simp [bytes, text, lineBytes, Text.Utf8.ofString, Text.Utf8.encode, feed]

theorem linesOf_cons {line : List UInt8} (single : 10 ∉ line) (rest : List UInt8) :
    linesOf (line ++ 10 :: rest) = line :: linesOf rest := by
  induction line with
  | nil => rfl
  | cons b line ih =>
    obtain ⟨other, later⟩ := List.ne_and_not_mem_of_not_mem_cons single
    rw [List.cons_append, linesOf, if_neg other.symm, ih later]

section

variable {n : Nat} {v : Value} {entries : List (String × Value)}

theorem notMem_lineBytes (plain : Json.Plain n v) : 10 ∉ lineBytes v := by
  intro member
  obtain ⟨c, inText, inBytes⟩ := List.mem_flatMap.mp member
  have feed : 10 = c.toNat := Text.Utf8.mem_encodeChar inBytes (by decide)
  have printed := Json.printed_render plain c inText
  omega

theorem linesOf_bytes {vs : List Value} (plain : ∀ v ∈ vs, Json.Plain n v) :
    linesOf (bytes vs) = vs.map lineBytes ++ [[]] := by
  induction vs with
  | nil => rfl
  | cons v vs ih =>
    obtain ⟨here, later⟩ := List.forall_mem_cons.mp plain
    rw [bytes_cons, linesOf_cons (notMem_lineBytes here), ih later]
    rfl

/-- The line of an object begins and ends with a brace. -/
theorem lineBytes_object (entries : List (String × Value)) :
    ∃ between, lineBytes (.object entries) = 123 :: (between ++ [125]) := by
  refine ⟨Text.Utf8.encode (Json.commas ((Json.sortEntries entries).map Json.entryText)).toList, ?_⟩
  have opens : String.utf8EncodeChar '\x7b' = [123] := by decide
  have closes : String.utf8EncodeChar '\x7d' = [125] := by decide
  rw [lineBytes, Text.Utf8.ofString, Json.toList_object]
  simp [Text.Utf8.encode, opens, closes]

theorem trimBytes_between {first last : UInt8} (begins : isBlankByte first = false)
    (ends : isBlankByte last = false) (between : List UInt8) :
    trimBytes (first :: (between ++ [last])) = first :: (between ++ [last]) := by
  simp [trimBytes, begins, ends]

theorem ofBytes?_lineBytes (plain : Json.Plain Json.maxDepth v) :
    Json.ofBytes? (lineBytes v) = some v.ordered := by
  rw [Json.ofBytes?, lineBytes, Text.Utf8.ofString, Text.Utf8.decode_encode]
  exact Json.read?_render plain

/-- The line of an object is read as its entries, in the order of their keys. -/
theorem recordsOf_object (plain : Json.Plain Json.maxDepth (.object entries)) (lines : List (List UInt8)) :
    recordsOf (lineBytes (.object entries) :: lines) =
      (recordsOf lines).map fun more => (Json.sortEntries entries).map Json.orderedEntry :: more := by
  obtain ⟨between, line⟩ := lineBytes_object entries
  have whole : trimBytes (lineBytes (.object entries)) = lineBytes (.object entries) := by
    rw [line]
    exact trimBytes_between (by decide) (by decide) between
  have full : (lineBytes (.object entries)).isEmpty = false := by rw [line]; rfl
  rw [recordsOf]
  simp only [whole, full, Bool.false_eq_true, if_false, ofBytes?_lineBytes plain, Json.ordered_object]
  cases recordsOf lines <;> rfl

theorem ofBytes_bytes {objects : List (List (String × Value))}
    (plain : ∀ entries ∈ objects, Json.Plain Json.maxDepth (.object entries)) :
    ofBytes (bytes (objects.map Value.object)) =
      .ok (objects.map fun entries => (Json.sortEntries entries).map Json.orderedEntry) := by
  have each : ∀ v ∈ objects.map Value.object, Json.Plain Json.maxDepth v := by simpa using plain
  rw [ofBytes, linesOf_bytes each]
  clear each
  induction objects with
  | nil => rfl
  | cons entries objects ih =>
    obtain ⟨here, later⟩ := List.forall_mem_cons.mp plain
    simp only [List.map_cons, List.cons_append]
    rw [recordsOf_object here, ih later]
    rfl

end

/-! ### Records read again -/

/-- The entries found are the dictionary of the fields: each of them, once, in whatever order. -/
structure SameFields (found fields : List (String × Value)) : Prop where
  entries : found.Perm fields
  keys : (found.map Prod.fst).Nodup

theorem Record.sameFields (r : Record) :
    SameFields ((Json.sortEntries r.fields).map Json.orderedEntry) r.fields := by
  have perm := Json.sortEntries_perm r.fields
  have kept : (Json.sortEntries r.fields).map Json.orderedEntry = Json.sortEntries r.fields :=
    (List.map_congr_left fun e member => r.ordered_fields e (perm.mem_iff.mp member)).trans (List.map_id _)
  rw [kept]
  exact ⟨perm, (perm.map Prod.fst).nodup_iff.mpr r.nodup_fields⟩

variable {t t' : FileTree} {s : Surroundings} {p : Path}

/-- A file with the text of records is read as these records, all of them and in their order. -/
theorem load_of_read {records : List Record} (words : ∀ r ∈ records, ∀ n ∈ r.integers, IsWord n)
    (read : t.read s p = .ok (bytes (records.map Record.value))) :
    ∃ found, load t s p = .ok found ∧ List.Forall₂ SameFields found (records.map Record.fields) := by
  have objects : records.map Record.value = (records.map Record.fields).map Value.object := by
    rw [List.map_map]
    rfl
  have plain : ∀ entries ∈ records.map Record.fields, Json.Plain Json.maxDepth (.object entries) := by
    intro entries member
    obtain ⟨r, inRecords, rfl⟩ := List.mem_map.mp member
    exact r.plain (words r inRecords)
  have loaded : load t s p = .ok ((records.map Record.fields).map fun fields =>
      (Json.sortEntries fields).map Json.orderedEntry) := by
    rw [load, read, objects]
    exact ofBytes_bytes plain
  refine ⟨_, loaded, ?_⟩
  rw [List.forall₂_map_left_iff, List.forall₂_map_left_iff, List.forall₂_map_right_iff,
    List.forall₂_same]
  exact fun r _ => r.sameFields

/- Records come back. Whatever texts they have and whatever was at the path before, a manifest that was
   written is read as its records: none is lost, split or joined, their order is kept, and each has
   the fields that it had. -/
theorem load_of_written {records : List Record} (rooted : t.Rooted)
    (words : ∀ r ∈ records, ∀ n ∈ r.integers, IsWord n)
    (written : t.write s p (bytes (records.map Record.value)) = .ok t') :
    ∃ found, load t' s p = .ok found ∧ List.Forall₂ SameFields found (records.map Record.fields) := by
  obtain ⟨q, -, -, -, -, -, leads⟩ := FileTree.write_ok rooted written
  exact load_of_read words (read_eq_ok_iff.mpr ⟨q, leads⟩)

/-- Texts that look like JSON, like ends of lines, or like blanks at their ends; a line that is not known;
    the least and the greatest integer. -/
def awkwardRecords : List Record := [
  .binding 1 ⟨" \n\r\n", "a.\"b\"", .function, "\x00\x1f\t\\u0000\x7f", "\x7b\x7d\n[]",
    ["", "1\n", "é🦀 "], none⟩,
  .binding (-9223372036854775808) ⟨"", "", .classObject, "/\x08\x0c\u2028", "\ufeff", [],
    some 18446744073709551615⟩,
  .module 0 "\n" "\u0085" "null" (-1)]

theorem awkwardRecords_come_back : ∃ t' found,
    FileTree.write ⟨[(["out"], .dir)]⟩ ⟨[], "/home"⟩ ⟨0, ["out", "bindings.jsonl"]⟩
      (bytes (awkwardRecords.map Record.value)) = .ok t' ∧
    load t' ⟨[], "/home"⟩ ⟨0, ["out", "bindings.jsonl"]⟩ = .ok found ∧
    List.Forall₂ SameFields found (awkwardRecords.map Record.fields) := by
  have rooted : FileTree.Rooted ⟨[(["out"], .dir)]⟩ := by decide +kernel
  have words : ∀ r ∈ awkwardRecords, ∀ n ∈ r.integers, IsWord n := by
    simp [awkwardRecords, Record.integers, IsWord]
  have written : FileTree.write ⟨[(["out"], .dir)]⟩ ⟨[], "/home"⟩ ⟨0, ["out", "bindings.jsonl"]⟩
      (bytes (awkwardRecords.map Record.value)) =
      .ok ⟨[(["out"], .dir),
        (["out", "bindings.jsonl"], .file (bytes (awkwardRecords.map Record.value)))]⟩ := rfl
  obtain ⟨found, loaded, same⟩ := load_of_written rooted words written
  exact ⟨_, found, written, loaded, same⟩

end Manifest

/-! ### Manifests of a generation -/

namespace Generation.Plan.Delivered

open Manifest

variable {p : Plan} {t t' : FileTree} {s : Surroundings}

/-- What a generation recorded of the bindings is what its manifest is read as. -/
theorem load_bindings (delivered : p.Delivered t t' s) (apart : Apart t' s p.files)
    (words : ∀ r ∈ p.bindings, ∀ n ∈ r.line, Json.IsWord n) :
    ∃ found, load t' s (p.out.child bindingsName) = .ok found ∧
      List.Forall₂ SameFields found ((p.bindings.map (Record.binding formVersion)).map Record.fields) := by
  refine load_of_read (fun r member n inRecord => ?_) ?_
  · obtain ⟨own, inPlan, rfl⟩ := List.mem_map.mp member
    rcases List.mem_cons.mp inRecord with rfl | inLine
    · exact isWord_formVersion
    · exact words own inPlan n (Option.mem_toList.mp inLine)
  · rw [delivered.bindings apart, List.map_map]
    rfl

/-- So is what it recorded of the modules. -/
theorem load_modules (delivered : p.Delivered t t' s)
    (words : ∀ m ∈ p.modules, Json.IsWord m.bindingCount) :
    ∃ found, load t' s (p.out.child modulesName) = .ok found ∧
      List.Forall₂ SameFields found ((p.modules.map Record.ofModule).map Record.fields) := by
  refine load_of_read (fun r member n inRecord => ?_) ?_
  · obtain ⟨own, inPlan, rfl⟩ := List.mem_map.mp member
    rcases List.mem_cons.mp inRecord with rfl | count
    · exact isWord_formVersion
    · obtain rfl := List.mem_singleton.mp count
      exact words own inPlan
  · rw [delivered.modules, List.map_map]
    rfl

end Generation.Plan.Delivered
end Bindery

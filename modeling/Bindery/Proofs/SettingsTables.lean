import Mathlib.Data.List.Basic
import Mathlib.Tactic.MkIffOfInductiveProp
import Mathlib.Tactic.Tauto
import Bindery.Settings.File
import Bindery.Proofs.Outcomes

/- What settings a table gives. Each field is told by the value under its own key, and is the default
   where there is none; no other key may be there. The checks of the fields accept exactly these values,
   so a table is refused only if no settings are written by it. -/
namespace Bindery.Settings

open Toml

variable {t : Table} {chosen : Settings} {location : List String}

/-! ### The values of fields -/

/-- The field is what the value under its key means, or the default if the table has no such key. -/
def Field {α : Type} (t : Table) (key : String) (default : α) (means : Value → α → Prop) (a : α) :
    Prop :=
  match Table.get? t key with
  | none => a = default
  | some v => means v a

def MeansText (v : Value) (text : String) : Prop := v = .text text

def MeansTexts (v : Value) (texts : List String) : Prop := v = .array (texts.map .text)

/-- A truth value, or a word or a number that stands for one. -/
def MeansTruth (v : Value) (b : Bool) : Prop := booleanOf v = .ok b

/-- The entries of a table of texts. -/
def written (names : List (String × String)) : Table := names.map fun e => (e.1, .text e.2)

/-- A table of texts that are not empty. -/
def MeansNames (v : Value) (names : List (String × String)) : Prop :=
  v = .table (written names) ∧ ∀ e ∈ names, e.2 ≠ ""

/-- The table has keys of fields only, and gives each field its value. -/
@[mk_iff] structure Describes (t : Table) (chosen : Settings) : Prop where
  known : ∀ e ∈ t, e.1 ∈ keys
  outputDirectory : Field t "output_dir" ".pymodgen" MeansText chosen.outputDirectory
  included : Field t "include" [] MeansTexts chosen.included
  excluded : Field t "exclude" [] MeansTexts chosen.excluded
  nestedIgnore : Field t "nested_gitignore" false MeansTruth chosen.nestedIgnore
  moduleNames : Field t "module_names" [] MeansNames chosen.moduleNames

/-! ### Checks -/

theorem textOf_eq_iff {v : Value} {text : String} : textOf location v = (text, []) ↔ MeansText v text := by
  cases v <;> simp [textOf, MeansText, eq_comm]

theorem textsFrom_eq_iff {index : Nat} {vs : List Value} {texts : List String} :
    textsFrom location index vs = (texts, []) ↔ vs = texts.map .text := by
  induction vs generalizing index texts with
  | nil => simp [textsFrom, eq_comm]
  | cons v vs ih =>
    cases texts with
    | nil => simp [textsFrom]
    | cons text texts =>
      have first := @textOf_eq_iff (location ++ [toString index]) v text
      have rest := @ih (index + 1) texts
      simp only [textsFrom, Prod.ext_iff, List.cons.injEq, List.append_eq_nil_iff, List.map_cons,
        MeansText] at first rest ⊢
      rw [← first, ← rest]
      tauto

theorem textsOf_eq_iff {v : Value} {texts : List String} :
    textsOf location v = (texts, []) ↔ MeansTexts v texts := by
  cases v with
  | array vs => simp [textsOf, MeansTexts, textsFrom_eq_iff]
  | _ => simp [textsOf, MeansTexts]

theorem truthOf_eq_iff {v : Value} {b : Bool} : truthOf location v = (b, []) ↔ MeansTruth v b := by
  unfold truthOf MeansTruth
  cases booleanOf v <;> simp

theorem written_cons {entry : String × Value} {entries : Table} {names : List (String × String)} :
    entry :: entries = written names ↔
      ∃ name more, entry.2 = .text name ∧ names = (entry.1, name) :: more ∧ entries = written more := by
  cases names with
  | nil => simp [written]
  | cons e names =>
    obtain ⟨path, name⟩ := e
    obtain ⟨path', v⟩ := entry
    simp only [written, List.map_cons, List.cons.injEq, Prod.mk.injEq]
    constructor
    · rintro ⟨⟨rfl, rfl⟩, rest⟩
      exact ⟨name, names, rfl, ⟨⟨rfl, rfl⟩, rfl⟩, rest⟩
    · rintro ⟨name', more, rfl, ⟨⟨rfl, rfl⟩, rfl⟩, rest⟩
      exact ⟨⟨rfl, rfl⟩, rest⟩

theorem namesFrom_eq_iff {entries : Table} {names : List (String × String)} :
    namesFrom entries = .ok (.ok names) ↔ entries = written names ∧ ∀ e ∈ names, e.2 ≠ "" := by
  induction entries generalizing names with
  | nil =>
    cases names with
    | nil => simp [namesFrom, written]
    | cons e names => simp [namesFrom, written]
  | cons entry entries ih =>
    obtain ⟨path, v⟩ := entry
    rw [written_cons]
    cases v with
    | text name =>
      rw [namesFrom]
      split
      · next empty =>
        refine ⟨fun read => (by cases read), ?_⟩
        rintro ⟨⟨_, more, ⟨⟩, rfl, -⟩, named⟩
        exact absurd (String.isEmpty_iff.mp empty) (named _ List.mem_cons_self)
      · next given =>
        have nonempty : name ≠ "" := fun empty => given (String.isEmpty_iff.mpr empty)
        rw [bind_eq_ok_iff]
        constructor
        · rintro ⟨outcome, later, built⟩
          obtain ⟨more, rfl, rfl⟩ := map_eq_ok_iff.mp (Except.ok.inj built)
          obtain ⟨whole, named⟩ := ih.mp later
          exact ⟨⟨name, more, rfl, rfl, whole⟩, List.forall_mem_cons.mpr ⟨nonempty, named⟩⟩
        · rintro ⟨⟨_, more, ⟨⟩, rfl, whole⟩, named⟩
          exact ⟨.ok more, ih.mpr ⟨whole, (List.forall_mem_cons.mp named).2⟩, rfl⟩
    | _ => simp [namesFrom]

theorem namesOf_eq_iff {v : Value} {names : List (String × String)} :
    namesOf location v = .ok (names, []) ↔ MeansNames v names := by
  cases v with
  | table entries =>
    simp only [namesOf, MeansNames, Value.table.injEq]
    rw [← namesFrom_eq_iff, bind_eq_ok_iff]
    constructor
    · rintro ⟨outcome, read, built⟩
      cases outcome with
      | error cause => cases built
      | ok found =>
        cases built
        exact read
    · intro read
      exact ⟨.ok names, read, rfl⟩
  | _ => simp [namesOf, MeansNames]

/-! ### Tables -/

theorem field_eq_iff {α : Type} {key : String} {default a : α} {means : Value → α → Prop}
    {check : List String → Value → Checked α}
    (exactly : ∀ v, check [key] v = (a, []) ↔ means v a) :
    field t key default check = (a, []) ↔ Field t key default means a := by
  unfold field Field
  cases Table.get? t key with
  | none => simp [eq_comm]
  | some v => exact exactly v

theorem unknown_eq_nil_iff : unknown t = [] ↔ ∀ e ∈ t, e.1 ∈ keys := by
  simp [unknown, List.filter_eq_nil_iff]

/-- The names of modules by their own check, or none if the table has no such key. -/
def checkedNames (t : Table) : Except Fault (Checked (List (String × String))) :=
  match Table.get? t "module_names" with
  | some v => namesOf ["module_names"] v
  | none => .ok ([], [])

theorem checkedNames_eq_iff {names : List (String × String)} :
    checkedNames t = .ok (names, []) ↔ Field t "module_names" [] MeansNames names := by
  unfold checkedNames Field
  cases Table.get? t "module_names" with
  | none => simp [eq_comm]
  | some v => exact namesOf_eq_iff

/-- The checks of the fields beside each other. -/
theorem ofTable_eq : ofTable t = (do
    let (moduleNames, e) ← checkedNames t
    match (field t "output_dir" ".pymodgen" textOf).2 ++ (field t "include" [] textsOf).2 ++
        (field t "exclude" [] textsOf).2 ++ (field t "nested_gitignore" false truthOf).2 ++ e ++
        unknown t with
    | [] => return {
        outputDirectory := (field t "output_dir" ".pymodgen" textOf).1
        included := (field t "include" [] textsOf).1
        excluded := (field t "exclude" [] textsOf).1
        nestedIgnore := (field t "nested_gitignore" false truthOf).1
        moduleNames }
    | first :: rest => .error (.problems first rest)) := by
  unfold ofTable checkedNames
  cases Table.get? t "module_names" <;> rfl

/-- A table gives exactly the settings that it describes. -/
theorem ofTable_eq_ok_iff : ofTable t = .ok chosen ↔ Describes t chosen := by
  rw [describes_iff, ← unknown_eq_nil_iff, ← field_eq_iff fun _ => textOf_eq_iff,
    ← field_eq_iff fun _ => textsOf_eq_iff, ← field_eq_iff fun _ => textsOf_eq_iff,
    ← field_eq_iff fun _ => truthOf_eq_iff, ← checkedNames_eq_iff, ofTable_eq, bind_eq_ok_iff]
  obtain ⟨outputDirectory, included, excluded, nestedIgnore, moduleNames⟩ := chosen
  simp only [Prod.ext_iff]
  constructor
  · rintro ⟨⟨names, problems⟩, checked, built⟩
    dsimp only at built
    split at built
    · next clean =>
      simp only [List.append_eq_nil_iff] at clean
      obtain ⟨⟨⟨⟨⟨a, b⟩, c⟩, d⟩, rfl⟩, u⟩ := clean
      cases built
      exact ⟨u, ⟨rfl, a⟩, ⟨rfl, b⟩, ⟨rfl, c⟩, ⟨rfl, d⟩, checked⟩
    · cases built
  · rintro ⟨u, ⟨rfl, a⟩, ⟨rfl, b⟩, ⟨rfl, c⟩, ⟨rfl, d⟩, checked⟩
    refine ⟨_, checked, ?_⟩
    simp only [a, b, c, d, u, List.append_nil]
    rfl

/-- No module is given an empty name. -/
def Named (chosen : Settings) : Prop := ∀ e ∈ chosen.moduleNames, e.2 ≠ ""

theorem Describes.named (described : Describes t chosen) : chosen.Named := by
  have names := described.moduleNames
  unfold Field at names
  unfold Named
  split at names
  · rw [names]
    exact List.forall_mem_nil _
  · exact names.2

end Bindery.Settings

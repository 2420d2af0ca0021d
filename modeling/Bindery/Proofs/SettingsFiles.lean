import Bindery.Proofs.DocumentPlaces
import Bindery.Proofs.SettingsTables
import Bindery.Proofs.Utf8Texts

/- The settings file of a tree, whatever its bytes are. It gives the settings that its table describes, or
   it is refused as malformed, with a place of the document, or as a table that describes no settings. Two
   things are neither: bytes that are no text at all, and a decimal integer that has too many digits. -/
namespace Bindery

/-! ### Integers that are too long -/

namespace Toml

theorem moreDigits_replicate (n : Nat) : moreDigits decimal? (List.replicate n '1') = (List.replicate n 1, []) := by
  induction n with
  | zero => rfl
  | succ n ih =>
    rw [List.replicate_succ, moreDigits.eq_2 _ _ _ (by simp)]
    simp only [ih, show decimal? '1' = some 1 from rfl, List.replicate_succ]

theorem decimalNumber?_replicate {n : Nat} (many : maxDigits < n + 1) :
    decimalNumber? (List.replicate (n + 1) '1') = some (.error (.tooManyDigits (n + 1))) := by
  have whole : wholePart? (List.replicate (n + 1) '1') = some (List.replicate (n + 1) 1, []) := by
    show digits? decimal? (List.replicate (n + 1) '1') = _
    rw [List.replicate_succ, digits?, moreDigits_replicate]
    rfl
  have unsigned : sign (List.replicate (n + 1) '1') = (false, List.replicate (n + 1) '1') := rfl
  unfold decimalNumber?
  rw [unsigned]
  simp only [whole, Option.bind_eq_bind, Option.bind_some]
  simp [fraction?, exponent?, many]

theorem scalar?_replicate {n : Nat} (many : maxDigits < n + 5) :
    scalar? (List.replicate (n + 5) '1') = some (.error (.tooManyDigits (n + 5))) := by
  have number := decimalNumber?_replicate many
  have ones : List.replicate (n + 5) '1' = '1' :: '1' :: '1' :: '1' :: '1' :: List.replicate n '1' := rfl
  have noMoment : moment? (List.replicate (n + 5) '1') = none := rfl
  have noTime : time? (List.replicate (n + 5) '1') = none := rfl
  have unbased : based? (List.replicate (n + 5) '1') = none := rfl
  rw [scalar?, noMoment, noTime, unbased, number]

theorem unifyBreaks_replicate (n : Nat) : unifyBreaks (List.replicate n '1') = List.replicate n '1' := by
  induction n with
  | zero => rfl
  | succ n ih =>
    rw [List.replicate_succ, unifyBreaks.eq_2 _ _ (by simp), ih]

theorem value_replicate {n fuel : Nat} (many : maxDigits < n + 5) :
    value (fuel + 1) (List.replicate (n + 5) '1') = .error (.tooManyDigits (n + 5)) := by
  have bare : value (fuel + 1) (List.replicate (n + 5) '1') =
    (scalar? (List.replicate (n + 5) '1')).getD (fail .invalidValue _) := rfl
  rw [bare, scalar?_replicate many]
  rfl

/-- A decimal integer of too many digits is no integer. -/
theorem read_longInteger {n : Nat} (many : maxDigits < n) :
    read ('x' :: '=' :: List.replicate n '1') = .error (.tooManyDigits n) := by
  obtain ⟨n, rfl⟩ : ∃ m, n = m + 5 := ⟨n - 5, by unfold maxDigits at many; omega⟩
  have document : unifyBreaks ('x' :: '=' :: List.replicate (n + 5) '1') =
      'x' :: '=' :: List.replicate (n + 5) '1' := by
    rw [unifyBreaks.eq_2 _ _ (by simp), unifyBreaks.eq_2 _ _ (by simp), unifyBreaks_replicate]
  have put : statement {} ('x' :: '=' :: List.replicate (n + 5) '1') = (do
      let found ← value ((List.replicate (n + 5) '1').length + 1) (List.replicate (n + 5) '1')
      return (← ({} : Document).put ["x"] found.1 found.2, found.2)) := rfl
  rw [value_replicate many] at put
  have stopped : statements (('x' :: '=' :: List.replicate (n + 5) '1').length + 1) {}
      ('x' :: '=' :: List.replicate (n + 5) '1') = .error (.tooManyDigits (n + 5)) := by
    change (statement {} _ >>= _) = _
    rw [put]
    rfl
  rw [read]
  simp only [document, stopped]
  rfl

end Toml

namespace Settings

open Toml

variable {path : String} {text : List Char} {t : FileTree} {s : Surroundings} {root : Path}
  {place : Location} {bytes : List UInt8}

/-! ### What a file can be -/

/-- A refusal that tells what is wrong with the settings: where the document is malformed, or that its
    table describes no settings. -/
def ReadFault.Tells (path : String) (text : List Char) : ReadFault → Prop
  | .toml named (.malformed _ place) => named = path ∧ ∃ before rest,
      before ++ rest = unifyBreaks text ∧ place = if rest.isEmpty then none else some (placeBehind before)
  | .table named _ => named = path ∧ ∃ table, read text = .ok table ∧ ∀ chosen, ¬ Describes table chosen
  | _ => False

/-- The bytes of a text give settings, or a refusal that tells why not, unless a number of the text is
    too long. -/
theorem ofBytes_encode (path : String) (text : List Char) :
    (∃ table chosen, read text = .ok table ∧ Describes table chosen ∧
      ofBytes path (Text.Utf8.encode text) = .ok chosen) ∨
    (∃ fault, ofBytes path (Text.Utf8.encode text) = .error fault ∧ fault.Tells path text) ∨
    ∃ n, maxDigits < n ∧ HoldsDigits n text ∧
      ofBytes path (Text.Utf8.encode text) = .error (.toml path (.tooManyDigits n)) := by
  have decoded : ofBytes path (Text.Utf8.encode text) = (do
      let table ← (read text).mapError (.toml path)
      (ofTable table).mapError (.table path)) := by
    rw [ofBytes, Text.Utf8.decode_encode]
    rfl
  rw [decoded]
  cases document : read text with
  | error fault =>
    rcases read_refused document with ⟨cause, before, rest, whole, rfl⟩ | ⟨n, rfl, many, held⟩
    · exact .inr (.inl ⟨_, rfl, rfl, before, rest, whole, rfl⟩)
    · exact .inr (.inr ⟨n, many, held, rfl⟩)
  | ok table =>
    cases checked : ofTable table with
    | ok chosen =>
      exact .inl ⟨table, chosen, rfl, ofTable_eq_ok_iff.mp checked, by simp [bind, Except.bind, checked]⟩
    | error fault =>
      refine .inr (.inl ⟨.table path fault, by simp [bind, Except.bind, checked], rfl, table, document, ?_⟩)
      intro chosen described
      rw [ofTable_eq_ok_iff.mpr described] at checked
      cases checked

/-- Bytes that are no text are refused for that alone. -/
theorem ofBytes_undecodable (alien : ∀ text, bytes ≠ Text.Utf8.encode text) :
    ∃ fault, ofBytes path bytes = .error (.encoding fault) := by
  cases decoded : Text.Utf8.decode bytes with
  | ok text => exact absurd (Text.Utf8.decode_eq_ok_iff.mp decoded) (alien text)
  | error fault => exact ⟨fault, by rw [ofBytes, decoded]; rfl⟩

theorem ofBytes_longInteger {n : Nat} (many : maxDigits < n) :
    ofBytes path (Text.Utf8.encode ('x' :: '=' :: List.replicate n '1')) =
      .error (.toml path (.tooManyDigits n)) := by
  rw [ofBytes, Text.Utf8.decode_encode]
  simp only [mapError_ok, bind, Except.bind, read_longInteger many, mapError_error]

/-! ### The settings of a tree -/

theorem load_of_file (held : t.status? s (root.child fileName) = .ok (some (place, .file bytes))) :
    load t s root = ofBytes (root.child fileName).text bytes := by
  rw [load, held]
  rfl

/-- A settings file gives the settings that it describes, or a refusal that tells what is wrong with it.
    Otherwise it is no text, or a number in it has too many digits. -/
theorem load_cases (held : t.status? s (root.child fileName) = .ok (some (place, .file bytes))) :
    (∃ text table chosen, bytes = Text.Utf8.encode text ∧ read text = .ok table ∧
      Describes table chosen ∧ load t s root = .ok chosen) ∨
    (∃ text fault, bytes = Text.Utf8.encode text ∧ load t s root = .error fault ∧
      fault.Tells (root.child fileName).text text) ∨
    ((∀ text, bytes ≠ Text.Utf8.encode text) ∧ ∃ fault, load t s root = .error (.encoding fault)) ∨
    ∃ text n, bytes = Text.Utf8.encode text ∧ maxDigits < n ∧ HoldsDigits n text ∧
      load t s root = .error (.toml (root.child fileName).text (.tooManyDigits n)) := by
  rw [load_of_file held]
  by_cases isText : ∃ text, bytes = Text.Utf8.encode text
  · obtain ⟨text, rfl⟩ := isText
    rcases ofBytes_encode (root.child fileName).text text with
      ⟨table, chosen, document, described, given⟩ | ⟨fault, refused, tells⟩ | ⟨n, many, digits, stopped⟩
    · exact .inl ⟨text, table, chosen, rfl, document, described, given⟩
    · exact .inr (.inl ⟨text, fault, rfl, refused, tells⟩)
    · exact .inr (.inr (.inr ⟨text, n, rfl, many, digits, stopped⟩))
  · have alien : ∀ text, bytes ≠ Text.Utf8.encode text := fun text same => isText ⟨text, same⟩
    exact .inr (.inr (.inl ⟨alien, ofBytes_undecodable alien⟩))

/-- In a file of text without long numbers, whatever is wrong is told. -/
theorem load_of_text
    (held : t.status? s (root.child fileName) = .ok (some (place, .file (Text.Utf8.encode text))))
    (short : ∀ n, maxDigits < n → ¬ HoldsDigits n text) :
    (∃ table chosen, read text = .ok table ∧ Describes table chosen ∧ load t s root = .ok chosen) ∨
    ∃ fault, load t s root = .error fault ∧ fault.Tells (root.child fileName).text text := by
  rw [load_of_file held]
  rcases ofBytes_encode (root.child fileName).text text with given | refused | ⟨n, many, digits, -⟩
  · exact .inl given
  · exact .inr refused
  · exact absurd digits (short n many)

end Settings
end Bindery

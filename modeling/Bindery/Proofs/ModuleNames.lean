import Bindery.Proofs.Faults
import Bindery.Proofs.Manifests
import Bindery.Proofs.Rows
import Bindery.Proofs.SettingsTables

/- Modules without a name. The settings give no module an empty name, but a path may: where the stem of its
   last component is empty or ends with a dot, nothing stands behind the last dot of the dotted name.
   Such a module is expanded and recorded under the empty name. -/
namespace Bindery

/-! ### Names of paths -/

namespace ModuleName

/-- Nothing stands behind the last dot of a part, or in it at all. -/
def EndsBare (part : String) : Prop := ∀ c ∈ part.toList.getLast?, c = '.'

instance (part : String) : Decidable (EndsBare part) :=
  decidable_of_iff (part.toList.getLast?.all (· = '.') = true) (by
    unfold EndsBare
    cases part.toList.getLast? <;> simp)

theorem getLast?_append_splitAt (sep : Char) (front : List (List Char)) (cs : List Char) :
    (front ++ Text.splitAt sep cs).getLastD [] = (Text.splitAt sep cs).getLastD [] := by
  rw [List.getLastD_eq_getLast?, List.getLastD_eq_getLast?,
    List.getLast?_append_of_ne_nil _ (Text.splitAt_ne_nil sep cs)]

/-- The last name of a dotted name is that of its last part. -/
theorem lastName_joinDots (front : List String) (last : String) :
    lastName (joinDots (front ++ [last])) = lastName last := by
  induction front with
  | nil => simp [joinDots]
  | cons part rest ih =>
    rw [← ih, List.cons_append, joinDots, String.intercalate_cons_of_ne_nil (by simp), lastName,
      String.toList_append, String.toList_append, List.append_assoc,
      show ".".toList = ['.'] from rfl, List.singleton_append, Text.splitAt_append_sep,
      getLast?_append_splitAt]
    rfl

theorem lastName_eq_empty_iff (part : String) : lastName part = "" ↔ EndsBare part := by
  rw [lastName, ← String.toList_inj, String.toList_ofList, String.toList_empty, EndsBare, Text.getLastD_splitAt]
  rcases List.eq_nil_or_concat' part.toList with none_ | ⟨cs, c, whole⟩
  · simp [none_]
  · rw [whole, List.getLast?_concat, List.reverse_append]
    by_cases dot : c = '.' <;> simp [dot]

/-- What is left of the components of a path names its module, unless it is nothing. -/
theorem ofPath?_eq_some_iff {path name : String} :
    ofPath? path = some name ↔ parts path ≠ [] ∧ name = joinDots (parts path) := by
  unfold ofPath?
  cases parts path with
  | nil => simp
  | cons part rest => simp [eq_comm]

/-- Only a lone component without a stem leaves nothing at all. -/
theorem joinDots_eq_empty_iff {parts : List String} : joinDots parts = "" ↔ parts = [] ∨ parts = [""] := by
  match parts with
  | [] => simp [joinDots]
  | [part] => simp [joinDots]
  | part :: next :: rest =>
    rw [joinDots, String.intercalate_cons_of_ne_nil (by simp)]
    simp

theorem ofPath?_eq_empty_iff {path : String} : ofPath? path = some "" ↔ parts path = [""] := by
  rw [ofPath?_eq_some_iff, eq_comm (a := ""), joinDots_eq_empty_iff]
  constructor
  · rintro ⟨some_, none_ | one⟩
    · exact absurd none_ some_
    · exact one
  · intro one
    simp [one]

theorem defaultName?_eq_empty_iff {path : String} :
    defaultName? path = some "" ↔ ∃ part, (parts path).getLast? = some part ∧ EndsBare part := by
  rcases List.eq_nil_or_concat' (parts path) with none_ | ⟨front, last, whole⟩
  · simp [defaultName?, ofPath?, none_]
  · have named : ofPath? path = some (joinDots (front ++ [last])) :=
      ofPath?_eq_some_iff.mpr ⟨by simp [whole], by rw [whole]⟩
    rw [defaultName?, named, whole, List.getLast?_concat, Option.map_some, lastName_joinDots]
    simp [lastName_eq_empty_iff]

/-- The last part of a path: the stem of its last component, or the component above it for the file of
    a package. -/
theorem getLast?_parts (path : String) {front : List String} {last : String}
    (found : dropSource (components path) = front ++ [last]) :
    (parts path).getLast? =
      if dropExtension last = "__init__" then front.getLast? else some (dropExtension last) := by
  have own : parts path = dropPackageFile (front ++ [dropExtension last]) := by
    simp [parts, found]
  rw [own, dropPackageFile]
  split <;> simp_all

/-- A path leaves its module without a name exactly when its last component is bare but for its
    extension, or when it is that of a package file and the component above it is bare. -/
theorem unnamed_iff (path : String) : defaultName? path = some "" ↔
    ∃ front last, dropSource (components path) = front ++ [last] ∧
      (EndsBare (dropExtension last) ∨
        dropExtension last = "__init__" ∧ ∃ above, front.getLast? = some above ∧ EndsBare above) := by
  have package : ¬ EndsBare "__init__" := by decide
  rw [defaultName?_eq_empty_iff]
  rcases List.eq_nil_or_concat' (dropSource (components path)) with none_ | ⟨front, last, whole⟩
  · simp [parts, none_]
  · have only : ∀ front' last', front ++ [last] = front' ++ [last'] ↔ front = front' ∧ last = last' := by
      simp
    rw [getLast?_parts path whole]
    simp only [whole, only]
    by_cases isPackage : dropExtension last = "__init__"
    · simp [isPackage, package]
    · simp [isPackage]

example : defaultName? "src/.py" = some "" ∧ defaultName? "a./__init__.py" = some "" ∧
    defaultName? "__init__.py" = none ∧ defaultName? ".a.py" = some "a" := by
  decide +kernel

end ModuleName

/-! ### Names that settings give -/

namespace Settings

/-- The settings of a tree give no module an empty name. -/
theorem load_named {t : FileTree} {s : Surroundings} {root : Path} {chosen : Settings}
    (loaded : load t s root = .ok chosen) : chosen.Named := by
  obtain ⟨held, -, read⟩ := bind_eq_ok_iff.mp loaded
  split at read
  · simp only [ofBytes, bind_eq_ok_iff, mapError_eq_ok_iff] at read
    obtain ⟨-, -, table, -, accepted⟩ := read
    exact (ofTable_eq_ok_iff.mp accepted).named
  · cases read
    exact List.forall_mem_nil _

theorem Named.nameOf?_ne {chosen : Settings} (named : chosen.Named) (path : String) :
    chosen.nameOf? path ≠ some "" := by
  intro found
  obtain ⟨before, after, whole, -⟩ := List.lookup_eq_some_iff.mp found
  exact named (path, "") (by simp [whole]) rfl

end Settings

/-! ### Names of expansions -/

namespace Expansion

theorem name_of_ok {source : String} {path moduleName : Option String} {ds : List Declaration}
    {e : Expansion} (expanded : (ofDeclarations source path moduleName ds).1 = .ok e) :
    e.moduleName = ModuleName.resolve (identOfPath path) moduleName := by
  unfold ofDeclarations at expanded
  extract_lets name at expanded
  split at expanded
  · cases expanded
  · split at expanded
    · cases expanded
    · split at expanded
      · cases expanded
      · cases expanded
        rfl

theorem identOfPath_eq_empty_iff (path : String) :
    identOfPath (some path) = "" ↔ ModuleName.defaultName? path = some "" := by
  have ident : defaultIdent ≠ "" := by decide
  by_cases none_ : path.isEmpty
  · have nameless : ModuleName.defaultName? "" = none := by decide
    rw [String.isEmpty_iff] at none_
    simp [identOfPath, none_, nameless, ident]
  · cases named : ModuleName.defaultName? path <;> simp [identOfPath, none_, named, ident]

/-- Without a name of its own, a body is named by its path, and may be unnamed. -/
theorem unnamed_iff {source path : String} {moduleName : Option String} {ds : List Declaration}
    {e : Expansion} (expanded : (ofDeclarations source (some path) moduleName ds).1 = .ok e)
    (given : moduleName ≠ some "") :
    e.moduleName = "" ↔ moduleName = none ∧ ModuleName.defaultName? path = some "" := by
  rw [name_of_ok expanded, ← identOfPath_eq_empty_iff]
  cases moduleName with
  | none => simp [ModuleName.resolve]
  | some name => simpa [ModuleName.resolve] using given

end Expansion

namespace Generation

variable {t : FileTree} {s : Surroundings} {root : Path} {out : Option Path} {settings : Option Settings}

/-- What a source file comes to when it is read: it is passed over, or it is expanded under the name that
    the settings give to its path. -/
theorem examine_of_read (chosen : Settings) {r : Path} {source : String}
    (read : readSource t s (root.join r) = .ok source) :
    (examine t s root chosen r).1 = .ok .plain ∨
    (∃ e, Expansion.ofSource source (some r.text) (chosen.nameOf? r.text) = .ok e ∧
      (examine t s root chosen r).1 = .ok (.expanded ⟨r.text, e⟩)) ∨
    (∃ batch, Expansion.ofSource source (some r.text) (chosen.nameOf? r.text) =
      .error (.problems batch) ∧ (examine t s root chosen r).1 = .ok (.problems batch.toList)) ∨
    ∃ fault, Expansion.ofSource source (some r.text) (chosen.nameOf? r.text) =
      .error (.registry fault) ∧ (examine t s root chosen r).1 = .error fault := by
  by_cases mentions : mentionsBinding source = true
  swap
  · exact .inl (by simp [examine, read, mentions])
  rcases parsed : Declaration.ofSource source (some r.text) with (d | f) | ds
  · refine .inr (.inr (.inl ⟨⟨d, []⟩, ?_, ?_⟩))
    · exact bind_eq_error_iff.mpr (.inl (mapError_eq_error_iff.mpr ⟨_, parsed, rfl⟩))
    · simp [examine, read, mentions, parsed, Diagnostic.Batch.toList]
  · refine .inr (.inr (.inr ⟨.source f, ?_, ?_⟩))
    · exact bind_eq_error_iff.mpr (.inl (mapError_eq_error_iff.mpr ⟨_, parsed, rfl⟩))
    · simp [examine, read, mentions, parsed]
  · by_cases binds : hasBindings ds = true
    swap
    · exact .inl (by simp [examine, read, mentions, parsed, binds])
    rw [Expansion.ofSource_read parsed]
    simp only [examine, read, mentions, parsed, binds, expand, Bool.not_true, if_true]
    rcases (Expansion.ofDeclarations source (some r.text) (chosen.nameOf? r.text) ds).1 with
      (batch | fault) | e
    · exact .inr (.inr (.inl ⟨batch, rfl, rfl⟩))
    · exact .inr (.inr (.inr ⟨fault, rfl, rfl⟩))
    · exact .inr (.inl ⟨e, rfl, rfl⟩)

theorem expansion_of_expanded {chosen : Settings} {r : Path} {b : Body}
    (expanded : (examine t s root chosen r).1 = .ok (.expanded b)) :
    ∃ source, readSource t s (root.join r) = .ok source ∧ b.path = r.text ∧
      Expansion.ofSource source (some r.text) (chosen.nameOf? r.text) = .ok b.expansion := by
  obtain ⟨-, ⟨source, read, -⟩, -⟩ := binds_of_expanded expanded
  obtain ⟨e, found, same⟩ : ∃ e,
      Expansion.ofSource source (some r.text) (chosen.nameOf? r.text) = .ok e ∧
      (examine t s root chosen r).1 = .ok (.expanded ⟨r.text, e⟩) := by
    simpa [expanded] using examine_of_read chosen read
  obtain rfl : b = ⟨r.text, e⟩ := by simpa [expanded] using same
  exact ⟨source, read, rfl, found⟩

/-- The modules that a generation leaves without a name are those that the settings do not name and
    whose paths leave none; the manifests have the names that the bodies have. -/
theorem unnamed_bodies {p : Plan} (planned : (plan t s root out settings).1 = .ok p)
    (given : ∀ chosen ∈ settings, chosen.Named) :
    ∃ chosen : Settings,
      (settings = some chosen ∨ settings = none ∧ Settings.load t s root = .ok chosen) ∧
      ∀ b ∈ p.bodies,
        (b.expansion.moduleName = "" ↔
          chosen.nameOf? b.path = none ∧ ModuleName.defaultName? b.path = some "") ∧
        b.moduleRecord.module = b.expansion.moduleName ∧
        ∀ record ∈ b.bindingRecords, record.module = b.expansion.moduleName := by
  obtain ⟨chosen, place, sources, v, prepared, surveyed, -, rfl⟩ := plan_ok_iff.mp planned
  obtain ⟨origin, -⟩ := prepare_eq_ok_iff.mp prepared
  have named : chosen.Named := by
    rcases origin with same | ⟨-, loaded⟩
    · exact given chosen same
    · exact Settings.load_named loaded
  refine ⟨chosen, origin, fun b member => ?_⟩
  rw [Survey.along_bodies surveyed, List.nil_append] at member
  obtain ⟨r, -, found⟩ := List.mem_filterMap.mp member
  obtain ⟨source, -, own, parsed⟩ := expansion_of_expanded (Survey.bodyOf_eq_some_iff.mp found)
  obtain ⟨ds, -, expanded⟩ := bind_eq_ok_iff.mp parsed
  rw [← own] at expanded
  refine ⟨Expansion.unnamed_iff expanded (named.nameOf?_ne b.path), rfl, fun record inBody => ?_⟩
  obtain ⟨e, -, rfl⟩ := List.mem_map.mp inBody
  rfl

end Generation
end Bindery

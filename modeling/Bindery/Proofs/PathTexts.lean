import Bindery.Path

/- Relative paths and their texts. The names of a path that is read are never empty, no dots that stand
   for nothing, and without slashes; a relative path of such names is read back from its text. -/
namespace Bindery

namespace Text

theorem splitAt_of_notMem {sep : Char} {cs : List Char} (absent : sep ∉ cs) :
    splitAt sep cs = [cs] := by
  induction cs with
  | nil => rfl
  | cons c cs ih =>
    simp only [List.mem_cons, not_or] at absent
    simp [splitAt, Ne.symm absent.1, ih absent.2]

theorem splitAt_append {sep : Char} {cs : List Char} (absent : sep ∉ cs) (ds : List Char) :
    splitAt sep (cs ++ sep :: ds) = cs :: splitAt sep ds := by
  induction cs with
  | nil => simp [splitAt]
  | cons c cs ih =>
    simp only [List.mem_cons, not_or] at absent
    simp [splitAt, Ne.symm absent.1, ih absent.2]

theorem notMem_of_mem_splitAt {sep : Char} {cs piece : List Char} (member : piece ∈ splitAt sep cs) :
    sep ∉ piece := by
  induction cs generalizing piece with
  | nil => simp_all [splitAt]
  | cons c cs ih =>
    unfold splitAt at member
    split at member
    · rcases List.mem_cons.mp member with rfl | later
      · simp
      · exact ih later
    · rename_i other
      split at member
      · obtain rfl := List.mem_singleton.mp member
        simpa using Ne.symm other
      · rename_i w ws pieces
        rcases List.mem_cons.mp member with rfl | later
        · have first : sep ∉ w := ih (by simp [pieces])
          simpa [Ne.symm other] using first
        · exact ih (by simp [pieces, later])

theorem mem_of_mem_splitAt {sep c : Char} {cs piece : List Char} (member : piece ∈ splitAt sep cs)
    (inPiece : c ∈ piece) : c ∈ cs := by
  induction cs generalizing piece with
  | nil => simp_all [splitAt]
  | cons d cs ih =>
    unfold splitAt at member
    split at member
    · rcases List.mem_cons.mp member with rfl | later
      · simp at inPiece
      · exact List.mem_cons_of_mem d (ih later inPiece)
    · split at member
      · obtain rfl := List.mem_singleton.mp member
        exact List.mem_cons.mpr (.inl (List.mem_singleton.mp inPiece))
      · rename_i w ws pieces
        rcases List.mem_cons.mp member with rfl | later
        · rcases List.mem_cons.mp inPiece with rfl | further
          · exact List.mem_cons_self
          · exact List.mem_cons_of_mem d (ih (by simp [pieces]) further)
        · exact List.mem_cons_of_mem d (ih (by simp [pieces, later]) inPiece)

end Text

namespace Path

/-- A name that a text of a path can hold. -/
structure Textual (name : String) : Prop where
  notEmpty : name ≠ ""
  notDot : name ≠ "."
  noSlash : '/' ∉ name.toList

instance (name : String) : Decidable (Textual name) :=
  decidable_of_iff (name ≠ "" ∧ name ≠ "." ∧ '/' ∉ name.toList)
    ⟨fun ⟨notEmpty, notDot, noSlash⟩ => ⟨notEmpty, notDot, noSlash⟩,
      fun h => ⟨h.notEmpty, h.notDot, h.noSlash⟩⟩

theorem textual_of_mem_ofText {text name : String} (member : name ∈ (ofText text).names) :
    Textual name := by
  simp only [ofText, namesOf, List.mem_filter, List.mem_map, Bool.and_eq_true,
    decide_eq_true_eq] at member
  obtain ⟨⟨piece, inText, rfl⟩, notEmpty, notDot⟩ := member
  exact ⟨notEmpty, notDot, by simpa using Text.notMem_of_mem_splitAt inText⟩

/-- The names of a text are made of its characters. -/
theorem mem_of_mem_names {text name : String} {c : Char} (member : name ∈ (ofText text).names)
    (inName : c ∈ name.toList) : c ∈ text.toList := by
  simp only [ofText, namesOf, List.mem_filter, List.mem_map] at member
  obtain ⟨⟨piece, inText, rfl⟩, -⟩ := member
  exact Text.mem_of_mem_splitAt inText (by simpa using inName)

theorem splitAt_intercalate {names : List String} (textual : ∀ name ∈ names, Textual name)
    (named : names ≠ []) :
    Text.splitAt '/' ("/".intercalate names).toList = names.map String.toList := by
  induction names with
  | nil => exact absurd rfl named
  | cons name rest ih =>
    have noSlash := (textual name (by simp)).noSlash
    by_cases atEnd : rest = []
    · subst atEnd
      simp [Text.splitAt_of_notMem noSlash]
    · have later := ih (fun other member => textual other (by simp [member])) atEnd
      have slash : "/".toList = ['/'] := rfl
      rw [String.intercalate_cons_of_ne_nil atEnd, String.toList_append, String.toList_append, slash,
        List.append_assoc, List.singleton_append, Text.splitAt_append noSlash, later, List.map_cons]

/-- A relative path's text does not begin with a slash. -/
theorem leading_intercalate {names : List String} (textual : ∀ name ∈ names, Textual name) :
    leading ("/".intercalate names).toList = 0 := by
  have first : ∀ c ∈ ("/".intercalate names).toList.head?, c ≠ '/' := by
    cases names with
    | nil => simp
    | cons name rest =>
      obtain ⟨notEmpty, -, noSlash⟩ := textual name (by simp)
      obtain ⟨c, cs, chars⟩ := List.exists_cons_of_ne_nil
        (show name.toList ≠ [] by simpa using notEmpty)
      have other : c ≠ '/' := by
        rintro rfl
        simp [chars] at noSlash
      by_cases atEnd : rest = []
      · simpa [atEnd, chars] using other
      · rw [String.intercalate_cons_of_ne_nil atEnd, String.toList_append, String.toList_append, chars]
        simpa using other
  cases chars : ("/".intercalate names).toList with
  | nil => rfl
  | cons c cs =>
    have other : c ≠ '/' := first c (by simp [chars])
    simp [leading, other]

/-- A relative path is read back from its text. -/
theorem ofText_text {names : List String} (textual : ∀ name ∈ names, Textual name) :
    ofText (text { names := names }) = { names := names } := by
  by_cases top : names = []
  · subst top
    decide +kernel
  · have written : text { names := names } = "/".intercalate names := by simp [text, top, root]
    have kept : names.filter (fun name => name ≠ "" && name ≠ ".") = names :=
      List.filter_eq_self.mpr fun name member => by
        simp [(textual name member).notEmpty, (textual name member).notDot]
    have back : (names.map String.toList).map String.ofList = names := by
      simp [List.map_map, Function.comp_def]
    rw [written, ofText, leading_intercalate textual, namesOf, splitAt_intercalate textual top, back,
      kept]

theorem text_injective {names names' : List String} (textual : ∀ name ∈ names, Textual name)
    (textual' : ∀ name ∈ names', Textual name)
    (same : text { names := names } = text { names := names' }) : names = names' := by
  have read := congrArg ofText same
  rw [ofText_text textual, ofText_text textual'] at read
  exact congrArg Path.names read

/-- Relative paths below one directory have different texts if they are different. -/
theorem text_join_injective (p : Path) {names names' : List String}
    (textual : ∀ name ∈ names, Textual name) (textual' : ∀ name ∈ names', Textual name)
    (named : names ≠ []) (named' : names' ≠ [])
    (same : (p.join { names := names }).text = (p.join { names := names' }).text) : names = names' := by
  have joined : ∀ above more : List String, more ≠ [] → above ≠ [] →
      "/".intercalate (above ++ more) = "/".intercalate above ++ "/" ++ "/".intercalate more := by
    intro above more some_ some'
    induction above with
    | nil => exact absurd rfl some'
    | cons first rest ih =>
      by_cases atEnd : rest = []
      · simp [atEnd, String.intercalate_cons_of_ne_nil some_]
      · have notEmpty : rest ++ more ≠ [] := by simp [atEnd]
        rw [List.cons_append, String.intercalate_cons_of_ne_nil notEmpty, ih atEnd,
          String.intercalate_cons_of_ne_nil atEnd]
        simp only [String.append_assoc]
  have written : ∀ more : List String, more ≠ [] → (p.join { names := more }).text =
      p.root ++ "/".intercalate (p.names ++ more) := by
    intro more some_
    simp [Path.join, Path.isAbsolute, text, root, some_]
  rw [written names named, written names' named', String.append_right_inj] at same
  have rest : "/".intercalate names = "/".intercalate names' := by
    by_cases top : p.names = []
    · simpa [top] using same
    · rw [joined _ _ named top, joined _ _ named' top, String.append_right_inj] at same
      exact same
  have parts := splitAt_intercalate textual named
  rw [rest, splitAt_intercalate textual' named'] at parts
  exact (List.map_inj_right fun _ _ => String.toList_injective).mp parts.symm

end Path
end Bindery

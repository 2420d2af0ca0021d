import Bindery.FileTree.Change
import Mathlib.Data.List.Induction
import Mathlib.Data.List.Nodup

/- Trees that only grow. What a tree holds stays as it is and in its order; directories may be added
   anywhere, files where they are allowed, links nowhere. In a rooted tree every entry has a
   directory above it and a name that can be followed. -/
namespace Bindery.FileTree

/-! ### Looking up and inserting -/

@[simp] theorem find?_nil (t : FileTree) : t.find? [] = some .dir := rfl

theorem find?_of_ne (t : FileTree) {q : Location} (named : q ≠ []) :
    t.find? q = t.entries.lookup q := by
  simp [find?, named]

theorem lookup_map_key (es : List (Location × Node)) (q p : Location) (node : Node) :
    (es.map fun x => if x.1 == q then (q, node) else x).lookup p =
      if p = q then (es.lookup q).map fun _ => node else es.lookup p := by
  induction es with
  | nil => simp
  | cons e es ih =>
    obtain ⟨key, own⟩ := e
    rw [List.map_cons]
    by_cases here : key = q
    · subst here
      by_cases same : p = key
      · simp [same]
      · have other : (p == key) = false := by simpa using same
        simpa [List.lookup_cons, same, other] using ih
    · have kept : (if key == q then (q, node) else (key, own)) = (key, own) := by simp [here]
      rw [kept, List.lookup_cons, ih]
      by_cases same : p = q
      · have other : (q == key) = false := by simpa using Ne.symm here
        simp [List.lookup_cons, same, other]
      · simp [List.lookup_cons, same]

theorem find?_insert (t : FileTree) {q : Location} (named : q ≠ []) (node : Node) (p : Location) :
    (t.insert q node).find? p = if p = q then some node else t.find? p := by
  by_cases top : p = []
  · subst top
    simp [Ne.symm named]
  · rw [find?_of_ne _ top, find?_of_ne _ top, FileTree.insert]
    split
    · rename_i held
      have found : (t.entries.lookup q).isSome = true := by
        obtain ⟨x, member, same⟩ := List.any_eq_true.mp held
        exact List.lookup_isSome_iff.mpr ⟨x, member, beq_iff_eq.mpr (beq_iff_eq.mp same).symm⟩
      obtain ⟨own, found⟩ := Option.isSome_iff_exists.mp found
      rw [lookup_map_key, found, Option.map_some]
    · rename_i absent
      have missing : t.entries.lookup q = none := by
        rw [List.lookup_eq_none_iff]
        intro x member
        have other : x.1 ≠ q := fun same =>
          absent (List.any_eq_true.mpr ⟨x, member, beq_iff_eq.mpr same⟩)
        simpa using Ne.symm other
      rw [List.lookup_append]
      by_cases same : p = q
      · subst same
        simp [missing]
      · have other : (p == q) = false := by simpa using same
        simp [List.lookup_cons, same, other]

theorem mem_of_find? {t : FileTree} {q : Location} {node : Node} (named : q ≠ [])
    (found : t.find? q = some node) : (q, node) ∈ t.entries := by
  rw [find?_of_ne t named, List.lookup_eq_some_iff] at found
  obtain ⟨before, after, entries, -⟩ := found
  simp [entries]

theorem find?_isSome_of_mem {t : FileTree} {e : Location × Node} (member : e ∈ t.entries) :
    (t.find? e.1).isSome = true := by
  by_cases top : e.1 = []
  · simp [top]
  · rw [find?_of_ne t top, List.lookup_isSome_iff]
    exact ⟨e, member, by simp⟩

/-! ### Places -/

/-- The places that a tree lists, in order. -/
def places (t : FileTree) : List Location := t.entries.map Prod.fst

/-- No place is listed twice. -/
def Distinct (t : FileTree) : Prop := t.places.Nodup

instance (t : FileTree) : Decidable t.Distinct := inferInstanceAs (Decidable (List.Nodup _))

theorem mem_places_of_find? {t : FileTree} {q : Location} {node : Node} (named : q ≠ [])
    (held : t.find? q = some node) : q ∈ t.places :=
  List.mem_map.mpr ⟨_, mem_of_find? named held, rfl⟩

theorem find?_isSome_of_mem_places {t : FileTree} {q : Location} (member : q ∈ t.places) :
    (t.find? q).isSome = true := by
  obtain ⟨e, inTree, rfl⟩ := List.mem_map.mp member
  exact find?_isSome_of_mem inTree

theorem places_insert (t : FileTree) (q : Location) (node : Node) :
    (t.insert q node).places = if q ∈ t.places then t.places else t.places ++ [q] := by
  have listed : t.entries.any (·.1 == q) = true ↔ q ∈ t.places := by simp [places]
  unfold FileTree.insert
  by_cases held : t.entries.any (·.1 == q) = true
  · rw [if_pos held, if_pos (listed.mp held)]
    simp only [places, List.map_map]
    refine List.map_congr_left fun e _ => ?_
    by_cases own : e.1 = q <;> simp [own]
  · rw [if_neg held, if_neg fun member => held (listed.mpr member)]
    simp [places]

namespace Distinct

variable {t : FileTree} {q : Location} {node : Node}

theorem insert (distinct : t.Distinct) (q : Location) (node : Node) : (t.insert q node).Distinct := by
  unfold Distinct
  rw [places_insert]
  split
  · exact distinct
  · rename_i absent
    simpa using distinct.concat absent

/-- A tree that lists no place twice holds what it lists. -/
theorem find?_of_mem (distinct : t.Distinct) (named : q ≠ []) (member : (q, node) ∈ t.entries) :
    t.find? q = some node := by
  obtain ⟨held, found⟩ := Option.isSome_iff_exists.mp (find?_isSome_of_mem member)
  have same : (q, held) = (q, node) :=
    List.inj_on_of_nodup_map distinct (mem_of_find? named found) member rfl
  rw [Prod.mk.injEq] at same
  rw [← same.2]
  exact found

/-- Putting a node where it is already changes nothing. -/
theorem insert_same (distinct : t.Distinct) (named : q ≠ []) (held : t.find? q = some node) :
    t.insert q node = t := by
  have listed : t.entries.any (·.1 == q) = true := by
    simpa using ⟨_, mem_of_find? named held⟩
  have same : t.entries.map (fun e => if e.1 == q then (q, node) else e) = t.entries := by
    refine (List.map_congr_left fun e member => ?_).trans (List.map_id _)
    by_cases own : e.1 = q
    · subst own
      have here := distinct.find?_of_mem named member
      rw [held, Option.some.injEq] at here
      simp [here]
    · simp [own]
  rw [FileTree.insert, if_pos listed, same]

end Distinct

/-! ### Rooted trees -/

/-- A name that can be followed down from a directory. -/
structure Followable (name : String) : Prop where
  notUp : name ≠ ".."
  noNull : '\x00' ∉ name.toList
  short : name.utf8ByteSize ≤ maxName

instance (name : String) : Decidable (Followable name) :=
  decidable_of_iff (name ≠ ".." ∧ '\x00' ∉ name.toList ∧ name.utf8ByteSize ≤ maxName)
    ⟨fun ⟨notUp, noNull, short⟩ => ⟨notUp, noNull, short⟩, fun f => ⟨f.notUp, f.noNull, f.short⟩⟩

/-- Every entry stands in a directory of the tree. -/
structure Rooted (t : FileTree) : Prop where
  above : ∀ e ∈ t.entries, ∃ here name,
    e.1 = here ++ [name] ∧ Followable name ∧ t.find? here = some .dir

/-- A place has a name in a directory. -/
def StandsIn (t : FileTree) (q : Location) : Prop :=
  q ≠ [] ∧ Followable (q.getLastD "") ∧ t.find? q.dropLast = some .dir

instance (t : FileTree) (q : Location) : Decidable (t.StandsIn q) :=
  inferInstanceAs (Decidable (_ ∧ _ ∧ _))

theorem standsIn_iff {t : FileTree} {q : Location} : t.StandsIn q ↔
    ∃ here name, q = here ++ [name] ∧ Followable name ∧ t.find? here = some .dir := by
  constructor
  · rintro ⟨named, follows, above⟩
    rw [List.getLastD_eq_getLast?, List.getLast?_eq_some_getLast named] at follows
    exact ⟨q.dropLast, q.getLast named, (List.dropLast_concat_getLast named).symm, follows, above⟩
  · rintro ⟨here, name, rfl, follows, above⟩
    exact ⟨by simp, by simpa using follows, by simpa using above⟩

instance (t : FileTree) : Decidable t.Rooted :=
  decidable_of_iff (∀ e ∈ t.entries, t.StandsIn e.1)
    ⟨fun stands => ⟨fun e member => standsIn_iff.mp (stands e member)⟩,
      fun rooted e member => standsIn_iff.mpr (rooted.above e member)⟩

namespace Rooted

variable {t : FileTree}

theorem above_of_find? (rooted : t.Rooted) {here : Location} {name : String} {node : Node}
    (found : t.find? (here ++ [name]) = some node) : Followable name ∧ t.find? here = some .dir := by
  obtain ⟨here', name', same, follows, above⟩ := rooted.above _ (mem_of_find? (by simp) found)
  rw [List.append_singleton_inj] at same
  obtain ⟨rfl, rfl⟩ := same
  exact ⟨follows, above⟩

/-- All above an entry are directories. -/
theorem dir_above (rooted : t.Rooted) {here : Location} {names : List String} {node : Node}
    (found : t.find? (here ++ names) = some node) (named : names ≠ []) :
    t.find? here = some .dir := by
  induction names using List.reverseRecOn generalizing node with
  | nil => exact absurd rfl named
  | append_singleton names name ih =>
    rw [← List.append_assoc] at found
    obtain ⟨-, above⟩ := rooted.above_of_find? found
    by_cases last : names = []
    · simpa [last] using above
    · exact ih above last

theorem dir_take (rooted : t.Rooted) {here : Location} {names : List String}
    (found : t.find? (here ++ names) = some .dir) (k : Nat) :
    t.find? (here ++ names.take k) = some .dir := by
  by_cases whole : names.drop k = []
  · rw [List.drop_eq_nil_iff] at whole
    rwa [List.take_of_length_le whole]
  · rw [← List.take_append_drop k names, ← List.append_assoc] at found
    exact rooted.dir_above found whole

theorem followable (rooted : t.Rooted) {here : Location} {names : List String} {node : Node}
    (found : t.find? (here ++ names) = some node) : ∀ name ∈ names, Followable name := by
  induction names using List.reverseRecOn generalizing node with
  | nil => simp
  | append_singleton names name ih =>
    rw [← List.append_assoc] at found
    obtain ⟨follows, above⟩ := rooted.above_of_find? found
    simp only [List.mem_append, List.mem_singleton]
    rintro other (earlier | rfl)
    · exact ih above other earlier
    · exact follows

/-- Nothing stands below a place that is no directory. -/
theorem none_below (rooted : t.Rooted) {here : Location} (absent : t.find? here = none)
    (names : List String) : t.find? (here ++ names) = none := by
  cases found : t.find? (here ++ names) with
  | none => rfl
  | some node =>
    by_cases last : names = []
    · simp [last, absent] at found
    · simp [rooted.dir_above found last] at absent

theorem insert (rooted : t.Rooted) {here : Location} {name : String} (follows : Followable name)
    (above : t.find? here = some .dir) (node : Node)
    (keeps : t.find? (here ++ [name]) = some .dir → node = .dir) :
    (t.insert (here ++ [name]) node).Rooted := by
  have kept : ∀ q, t.find? q = some .dir → (t.insert (here ++ [name]) node).find? q = some .dir := by
    intro q found
    rw [find?_insert t (by simp)]
    split
    · rename_i same
      subst same
      rw [keeps found]
    · exact found
  refine ⟨fun e member => ?_⟩
  by_cases own : e.1 = here ++ [name]
  · exact ⟨here, name, own, follows, kept here above⟩
  · have before : e ∈ t.entries := by
      unfold FileTree.insert at member
      split at member
      · simp only [List.mem_map] at member
        obtain ⟨x, inTree, rfl⟩ := member
        split at own
        · simp at own
        · rename_i other
          simpa [other] using inTree
      · simp only [List.mem_append, List.mem_singleton] at member
        rcases member with inTree | rfl
        · exact inTree
        · simp at own
    obtain ⟨here', name', same, follows', above'⟩ := rooted.above e before
    exact ⟨here', name', same, follows', kept here' above'⟩

end Rooted

/-! ### Ways -/

/-- Directories and links stay: all that paths pass on their way. -/
def KeepsWays (t t' : FileTree) : Prop :=
  ∀ q node, t.find? q = some node → (∀ bytes, node ≠ .file bytes) → t'.find? q = some node

theorem KeepsWays.dir {t t' : FileTree} (ways : KeepsWays t t') {q : Location}
    (held : t.find? q = some .dir) : t'.find? q = some .dir := ways q .dir held (by simp)

theorem KeepsWays.link {t t' : FileTree} (ways : KeepsWays t t') {q : Location} {target : String}
    (held : t.find? q = some (.link target)) : t'.find? q = some (.link target) :=
  ways q (.link target) held (by simp)

/-- A node may be put in a place where nothing is, or in the stead of a file. -/
theorem keepsWays_insert {t : FileTree} {q : Location} (named : q ≠ []) (node : Node)
    (open_ : ∀ held, t.find? q = some held → ∃ bytes, held = .file bytes) :
    KeepsWays t (t.insert q node) := by
  intro p held found noFile
  rw [find?_insert t named, if_neg ?_]
  · exact found
  · rintro rfl
    obtain ⟨bytes, file⟩ := open_ held found
    exact noFile bytes file

/-! ### Growth -/

/-- A later tree holds all of an earlier one, and besides only directories, and files at places for
    which `fileAt` holds. -/
def Grows (fileAt : Location → Prop) (t t' : FileTree) : Prop :=
  ∃ extra, t'.entries = t.entries ++ extra ∧ ∀ e ∈ extra, t.find? e.1 = none ∧
    (e.2 = .dir ∨ fileAt e.1 ∧ ∃ bytes, e.2 = .file bytes)

namespace Grows

variable {fileAt : Location → Prop} {t t' t'' : FileTree}

theorem refl (t : FileTree) : Grows fileAt t t := ⟨[], by simp, by simp⟩

theorem weaken {fileAt' : Location → Prop} (wider : ∀ q, fileAt q → fileAt' q)
    (grows : Grows fileAt t t') : Grows fileAt' t t' := by
  obtain ⟨extra, entries, new⟩ := grows
  exact ⟨extra, entries, fun e member => ⟨(new e member).1,
    (new e member).2.imp id (And.imp (wider e.1) id)⟩⟩

theorem kept (grows : Grows fileAt t t') {q : Location} {node : Node}
    (found : t.find? q = some node) : t'.find? q = some node := by
  obtain ⟨extra, entries, -⟩ := grows
  by_cases top : q = []
  · simpa [top] using found
  · rw [find?_of_ne _ top] at found ⊢
    simp [entries, List.lookup_append, found]

theorem keepsWays (grows : Grows fileAt t t') : KeepsWays t t' := fun _ _ found _ =>
  grows.kept found

theorem old_or_new (grows : Grows fileAt t t') {q : Location} {node : Node}
    (found : t'.find? q = some node) : t.find? q = some node ∨
      t.find? q = none ∧ (node = .dir ∨ fileAt q ∧ ∃ bytes, node = .file bytes) := by
  obtain ⟨extra, entries, new⟩ := grows
  by_cases top : q = []
  · left
    simpa [top] using found
  · rw [find?_of_ne t' top, entries, List.lookup_append] at found
    rw [find?_of_ne t top]
    cases old : t.entries.lookup q with
    | some own => simpa [old] using found
    | none =>
      right
      refine ⟨rfl, ?_⟩
      simp only [old, Option.none_or, List.lookup_eq_some_iff] at found
      obtain ⟨before, after, parts, -⟩ := found
      exact (new (q, node) (by simp [parts])).2

theorem link_iff (grows : Grows fileAt t t') {q : Location} {target : String} :
    t'.find? q = some (.link target) ↔ t.find? q = some (.link target) := by
  refine ⟨fun found => ?_, grows.kept⟩
  rcases grows.old_or_new found with old | ⟨-, new | ⟨-, bytes, new⟩⟩
  · exact old
  · contradiction
  · contradiction

theorem insert (grows : Grows fileAt t t') {q : Location} {node : Node} (absent : t.find? q = none)
    (allowed : node = .dir ∨ fileAt q ∧ ∃ bytes, node = .file bytes) :
    Grows fileAt t (t'.insert q node) := by
  obtain ⟨extra, entries, new⟩ := grows
  have fresh : ∀ e ∈ t.entries, e.1 ≠ q := by
    rintro e member rfl
    simpa [absent] using find?_isSome_of_mem member
  unfold FileTree.insert
  split
  · refine ⟨extra.map fun x => if x.1 == q then (q, node) else x, ?_, ?_⟩
    · simp only [entries, List.map_append, List.append_cancel_right_eq]
      refine (List.map_congr_left fun e member => ?_).trans (List.map_id _)
      simp [fresh e member]
    · simp only [List.mem_map]
      rintro _ ⟨e, member, rfl⟩
      split
      · exact ⟨absent, allowed⟩
      · exact new e member
  · refine ⟨extra ++ [(q, node)], by simp [entries], ?_⟩
    simp only [List.mem_append, List.mem_singleton]
    rintro e (member | rfl)
    · exact new e member
    · exact ⟨absent, allowed⟩

theorem trans (first : Grows fileAt t t') (second : Grows fileAt t' t'') : Grows fileAt t t'' := by
  obtain ⟨extra, entries, new⟩ := first
  obtain ⟨more, entries', newer⟩ := second
  have kept : ∀ q, t'.find? q = none → t.find? q = none := by
    intro q absent
    cases old : t.find? q with
    | none => rfl
    | some node => simp [Grows.kept ⟨extra, entries, new⟩ old] at absent
  refine ⟨extra ++ more, by simp [entries, entries'], ?_⟩
  simp only [List.mem_append]
  rintro e (member | member)
  · exact new e member
  · exact ⟨kept e.1 (newer e member).1, (newer e member).2⟩

end Grows

end Bindery.FileTree

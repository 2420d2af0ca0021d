import Bindery.Proofs.Manifests
import Bindery.Verification

/- What a directory holds, as a map from names to bytes, and how two such maps are compared. A listing
   has the names in their strict order, so that looking a name up in it is asking the map; and the three
   lists of a comparison part the names at which the maps differ. -/
namespace Bindery.Verification

open FileTree

variable {t u : FileTree} {s : Surroundings} {base directory : Path} {place : Location}

/-! ### The files of a directory -/

/-- What a name stands for below a directory: the bytes of the file that its path leads to, if there
    is an entry under the path and it leads to one. -/
def filesOf (t : FileTree) (s : Surroundings) (directory : Path) (name : String) :
    Option (List UInt8) :=
  match t.status s directory with
  | .ok (place, .dir) =>
    let p := Path.ofText name
    if p.slashes = 0 ∧ p.names ≠ [] ∧ p.text = name ∧ (t.find? (place ++ p.names)).isSome then
      match t.status s (directory.join p) with
      | .ok (_, .file bytes) => some bytes
      | _ => none
    else none
  | _ => none

theorem filesOf_eq_some_iff (leads : t.status s directory = .ok (place, .dir)) {name : String}
    {bytes : List UInt8} : filesOf t s directory name = some bytes ↔
      ∃ names, names ≠ [] ∧ Path.ofText name = { names := names } ∧
        Path.text { names := names } = name ∧ (t.find? (place ++ names)).isSome = true ∧
        ∃ q, t.status s (directory.join { names := names }) = .ok (q, .file bytes) := by
  simp only [filesOf, leads]
  constructor
  · intro found
    split at found
    · rename_i named
      obtain ⟨relative, named, text, held⟩ := named
      have own : Path.ofText name = { names := (Path.ofText name).names } := by rw [← relative]
      split at found
      · rename_i q bytes' reached
        cases found
        exact ⟨_, named, own, by rw [← own, text], held, q, by rw [← own, reached]⟩
      · contradiction
    · contradiction
  · rintro ⟨names, named, own, text, held, q, reached⟩
    simp [own, named, text, held, reached]

theorem held_of_pathsBelow {p : Path} (member : p ∈ pathsBelow t.entries place fun _ => true) :
    ∃ names, names ≠ [] ∧ p = { names := names } ∧ ∃ node, t.find? (place ++ names) = some node := by
  obtain ⟨front, last, node, rfl, -, inTree⟩ := mem_pathsBelow.mp member
  exact ⟨front ++ [last], by simp, rfl, Option.isSome_iff_exists.mp (find?_isSome_of_mem inTree)⟩

/-- What lies below a directory can be listed: all of it can be asked for, and the files among it have
    names that texts can hold. -/
structure Listable (t : FileTree) (s : Surroundings) (base : Path) (place : Location) : Prop where
  leads : t.status s base = .ok (place, .dir)
  distinct : t.Distinct
  asked : ∀ p ∈ pathsBelow t.entries place fun _ => true,
    ∃ found, t.status? s (base.join p) = .ok found
  textual : ∀ p ∈ pathsBelow t.entries place fun _ => true, ∀ q bytes,
    t.status s (base.join p) = .ok (q, .file bytes) → ∀ name ∈ p.names, Path.Textual name

/-- The line of a listing for a path that leads to a file. -/
def line? (t : FileTree) (s : Surroundings) (base p : Path) : Option (String × List UInt8) :=
  match t.status s (base.join p) with
  | .ok (_, .file bytes) => some (p.text, bytes)
  | _ => none

theorem line?_eq_some_iff {p : Path} {f : String × List UInt8} : line? t s base p = some f ↔
    f.1 = p.text ∧ ∃ q, t.status s (base.join p) = .ok (q, .file f.2) := by
  obtain ⟨name, bytes⟩ := f
  unfold line?
  split
  · rename_i q own reached
    simp [reached, eq_comm]
  · rename_i other
    simp only [reduceCtorEq, false_iff, not_and, not_exists]
    exact fun _ q reached => other q bytes reached

theorem collect_asked {ps : List Path}
    (asked : ∀ p ∈ ps, ∃ found, t.status? s (base.join p) = .ok found) :
    filesBelow.collect t s base ps = .ok (ps.filterMap (line? t s base)) := by
  induction ps with
  | nil => rfl
  | cons p ps ih =>
    obtain ⟨⟨found, here⟩, later⟩ := List.forall_mem_cons.mp asked
    rw [filesBelow.collect, here, ih later, List.filterMap_cons]
    rcases found with _ | ⟨q, node⟩
    · have unlisted : line? t s base p = none := by
        refine Option.eq_none_iff_forall_ne_some.mpr fun f own => ?_
        obtain ⟨-, q, reached⟩ := line?_eq_some_iff.mp own
        simp [status?_eq_some_iff.mpr reached] at here
      rw [unlisted]
      rfl
    · unfold line?
      rw [status?_eq_some_iff.mp here]
      cases node <;> rfl

theorem collect_refused {ps : List Path} {p : Path} {fault : FileFault} (member : p ∈ ps)
    (refused : t.status? s (base.join p) = .error fault) :
    ∃ fault, filesBelow.collect t s base ps = .error fault := by
  induction ps with
  | nil => contradiction
  | cons first ps ih =>
    rw [filesBelow.collect]
    cases here : t.status? s (base.join first) with
    | error own => exact ⟨own, rfl⟩
    | ok found =>
      have later : p ∈ ps := by
        refine (List.mem_cons.mp member).resolve_left ?_
        rintro rfl
        rw [refused] at here
        contradiction
      obtain ⟨own, stopped⟩ := ih later
      exact ⟨own, by rw [stopped]; rfl⟩

/-- Below a directory in which something cannot be asked for, nothing is listed. -/
theorem filesBelow_refused (leads : t.status s base = .ok (place, .dir)) {names : List String}
    (named : names ≠ []) {node : Node} (held : t.find? (place ++ names) = some node)
    {fault : FileFault} (refused : t.status? s (base.join { names := names }) = .error fault) :
    ∃ fault, filesBelow t s base = .error fault := by
  obtain ⟨front, last, rfl⟩ := (List.eq_nil_or_concat' names).resolve_left named
  have member : ({ names := front ++ [last] } : Path) ∈ pathsBelow t.entries place fun _ => true :=
    mem_pathsBelow.mpr ⟨front, last, node, rfl, rfl, mem_of_find? (by simp) held⟩
  obtain ⟨own, stopped⟩ := collect_refused member refused
  exact ⟨own, by simp only [filesBelow, below_eq leads, stopped, bind, Except.bind]⟩

namespace Listable

variable (listable : Listable t s base place)
include listable

theorem mem_entries {name : String} {bytes : List UInt8} :
    (name, bytes) ∈ (pathsBelow t.entries place fun _ => true).filterMap (line? t s base) ↔
      filesOf t s base name = some bytes := by
  rw [List.mem_filterMap, filesOf_eq_some_iff listable.leads]
  constructor
  · rintro ⟨p, member, own⟩
    obtain ⟨rfl, q, reached⟩ := line?_eq_some_iff.mp own
    have textual := listable.textual p member q bytes reached
    obtain ⟨names, named, rfl, held⟩ := held_of_pathsBelow member
    exact ⟨names, named, Path.ofText_text textual, rfl, Option.isSome_iff_exists.mpr held, q, reached⟩
  · rintro ⟨names, named, -, rfl, held, q, reached⟩
    obtain ⟨front, last, rfl⟩ := (List.eq_nil_or_concat' names).resolve_left named
    obtain ⟨node, held⟩ := Option.isSome_iff_exists.mp held
    exact ⟨_, mem_pathsBelow.mpr ⟨front, last, node, rfl, rfl, mem_of_find? (by simp) held⟩,
      line?_eq_some_iff.mpr ⟨rfl, q, reached⟩⟩

theorem nodup_entries :
    (((pathsBelow t.entries place fun _ => true).filterMap (line? t s base)).map Prod.fst).Nodup := by
  refine List.pairwise_map.mpr (List.pairwise_filterMap.mpr ?_)
  refine (Generation.nodup_pathsBelow listable.distinct _).imp_of_mem ?_
  intro p p' member member' other f own f' own' same
  obtain ⟨text, q, reached⟩ := line?_eq_some_iff.mp own
  obtain ⟨text', q', reached'⟩ := line?_eq_some_iff.mp own'
  have textual := listable.textual p member q f.2 reached
  have textual' := listable.textual p' member' q' f'.2 reached'
  obtain ⟨names, -, rfl, -⟩ := held_of_pathsBelow member
  obtain ⟨names', -, rfl, -⟩ := held_of_pathsBelow member'
  exact other (congrArg (Path.mk 0) (Path.text_injective textual textual' (by rw [← text, ← text', same])))

end Listable

/-- The names of a listing stand in their strict order. -/
def Ascending (files : List (String × List UInt8)) : Prop := (files.map Prod.fst).Pairwise (· < ·)

theorem Ascending.mem_iff {files : List (String × List UInt8)} (ascending : Ascending files)
    {name : String} {bytes : List UInt8} : (name, bytes) ∈ files ↔ files.lookup name = some bytes := by
  constructor
  · intro member
    cases found : files.lookup name with
    | none => simpa using List.lookup_eq_none_iff.mp found _ member
    | some own =>
      obtain ⟨before, after, parts, -⟩ := List.lookup_eq_some_iff.mp found
      have nodup : (files.map Prod.fst).Nodup := ascending.imp ne_of_lt
      have same := List.inj_on_of_nodup_map nodup member (show (name, own) ∈ files by simp [parts]) rfl
      rw [Prod.mk.injEq] at same
      rw [same.2]
  · intro found
    obtain ⟨before, after, parts, -⟩ := List.lookup_eq_some_iff.mp found
    simp [parts]

/-- A listing is the map of the files below a directory. -/
theorem Listable.lists (listable : Listable t s base place) :
    ∃ files, filesBelow t s base = .ok files ∧ Ascending files ∧
      ∀ name, files.lookup name = filesOf t s base name := by
  generalize listing : ((pathsBelow t.entries place fun _ => true).filterMap (line? t s base)).mergeSort
    (fun a b => decide (a.1 ≤ b.1)) = files
  have perm : files.Perm ((pathsBelow t.entries place fun _ => true).filterMap (line? t s base)) :=
    listing ▸ List.mergeSort_perm _ _
  have sorted : files.Pairwise fun a b => decide (a.1 ≤ b.1) = true := by
    rw [← listing]
    refine List.pairwise_mergeSort (fun a b c first second => ?_) (fun a b => ?_) _
    · exact decide_eq_true (le_trans (of_decide_eq_true first) (of_decide_eq_true second))
    · simpa using le_total a.1 b.1
  have ascending : Ascending files := by
    have nodup := (perm.map Prod.fst).nodup_iff.mpr listable.nodup_entries
    refine List.pairwise_map.mpr ((sorted.and (List.pairwise_map.mp nodup)).imp ?_)
    exact fun ⟨ordered, other⟩ => lt_of_le_of_ne (of_decide_eq_true ordered) other
  refine ⟨files, ?_, ascending, fun name => Option.ext fun bytes => ?_⟩
  · simp only [filesBelow, below_eq listable.leads, collect_asked listable.asked, bind, Except.bind, pure,
      Except.pure, listing]
  · rw [← ascending.mem_iff, perm.mem_iff, listable.mem_entries]

/-- Two directories hold the same files if they agree on the entries of both. -/
theorem filesOf_ext {place' : Location} (leads : t.status s directory = .ok (place, .dir))
    (leads' : u.status s base = .ok (place', .dir))
    (same : ∀ p ∈ pathsBelow t.entries place (fun _ => true) ++
      pathsBelow u.entries place' (fun _ => true),
      filesOf t s directory p.text = filesOf u s base p.text) :
    filesOf t s directory = filesOf u s base := by
  have listed : ∀ {t : FileTree} {directory : Path} {place : Location}
      (_ : t.status s directory = .ok (place, .dir)) {name : String} {bytes : List UInt8},
      filesOf t s directory name = some bytes →
        ∃ p ∈ pathsBelow t.entries place (fun _ => true), p.text = name := by
    intro t directory place leads name bytes found
    obtain ⟨names, named, -, text, held, -⟩ := (filesOf_eq_some_iff leads).mp found
    obtain ⟨front, last, rfl⟩ := (List.eq_nil_or_concat' names).resolve_left named
    obtain ⟨node, held⟩ := Option.isSome_iff_exists.mp held
    exact ⟨_, mem_pathsBelow.mpr ⟨front, last, node, rfl, rfl, mem_of_find? (by simp) held⟩, text⟩
  funext name
  refine Option.ext fun bytes => ⟨fun found => ?_, fun found => ?_⟩
  · obtain ⟨p, member, rfl⟩ := listed leads found
    rw [← same p (List.mem_append_left _ member), found]
  · obtain ⟨p, member, rfl⟩ := listed leads' found
    rw [same p (List.mem_append_right _ member), found]

/-! ### Comparing two maps -/

/-- The lists of a result part the names by what two maps of files hold for them. -/
structure Parts (given generated : String → Option (List UInt8)) (r : Result) : Prop where
  missing : ∀ name, name ∈ r.missing ↔ (given name).isSome = true ∧ generated name = none
  extra : ∀ name, name ∈ r.extra ↔ given name = none ∧ (generated name).isSome = true
  mismatches : ∀ name, name ∈ r.mismatches ↔
    ∃ a b, given name = some a ∧ generated name = some b ∧ a ≠ b

namespace Parts

variable {given generated : String → Option (List UInt8)} {r : Result}
  (parts : Parts given generated r)
include parts

theorem disjoint : r.missing.Disjoint r.extra ∧ r.missing.Disjoint r.mismatches ∧
    r.extra.Disjoint r.mismatches := by
  refine ⟨fun name missing extra => ?_, fun name missing other => ?_, fun name extra other => ?_⟩
  · have held := ((parts.missing name).mp missing).1
    simp [((parts.extra name).mp extra).1] at held
  · obtain ⟨a, b, -, held, -⟩ := (parts.mismatches name).mp other
    simp [((parts.missing name).mp missing).2] at held
  · obtain ⟨a, b, held, -, -⟩ := (parts.mismatches name).mp other
    simp [((parts.extra name).mp extra).1] at held

theorem differ_iff (name : String) : given name ≠ generated name ↔
    name ∈ r.missing ∨ name ∈ r.extra ∨ name ∈ r.mismatches := by
  rw [parts.missing, parts.extra, parts.mismatches]
  cases given name <;> cases generated name <;> simp

theorem isOk_iff : r.isOk = true ↔ given = generated := by
  have empty : r.isOk = true ↔ ∀ name, ¬ (name ∈ r.missing ∨ name ∈ r.extra ∨ name ∈ r.mismatches) := by
    simp only [Result.isOk, Bool.and_eq_true, List.isEmpty_iff, List.eq_nil_iff_forall_not_mem, not_or,
      forall_and, and_assoc]
  rw [empty, funext_iff]
  exact forall_congr' fun name => by rw [← parts.differ_iff, not_not]

end Parts

/-- A result tells exactly where two maps of files differ: its lists are strictly ascending and
    disjoint, they hold the names at which the maps differ and no others, and the result is good
    exactly when the maps are the same. -/
structure Exact (given generated : String → Option (List UInt8)) (r : Result) : Prop
    extends Parts given generated r where
  ascending : r.missing.Pairwise (· < ·) ∧ r.extra.Pairwise (· < ·) ∧ r.mismatches.Pairwise (· < ·)
  disjoint : r.missing.Disjoint r.extra ∧ r.missing.Disjoint r.mismatches ∧
    r.extra.Disjoint r.mismatches
  differ : ∀ name, given name ≠ generated name ↔
    name ∈ r.missing ∨ name ∈ r.extra ∨ name ∈ r.mismatches
  verdict : r.isOk = true ↔ given = generated

theorem mem_onlyIn {a b : List (String × List UInt8)} {name : String} :
    name ∈ onlyIn a b ↔ (a.lookup name).isSome = true ∧ b.lookup name = none := by
  have listed : ∀ files : List (String × List UInt8),
      files.any (·.1 == name) = (files.lookup name).isSome := by
    intro files
    rw [Bool.eq_iff_iff, List.any_eq_true, List.lookup_isSome_iff]
    exact exists_congr fun f => and_congr_right' (by rw [beq_iff_eq, beq_iff_eq, eq_comm])
  have own : name ∈ a.map Prod.fst ↔ (a.lookup name).isSome = true := by
    rw [← listed, List.any_eq_true, List.mem_map]
    simp only [beq_iff_eq]
  rw [onlyIn, List.mem_filter, own, listed, Bool.not_eq_true', Option.isSome_eq_false_iff,
    Option.isNone_iff_eq_none]

theorem compare_parts {given generated : List (String × List UInt8)} (ascending : Ascending given) :
    Parts (given.lookup ·) (generated.lookup ·) (compare given generated) where
  missing _ := mem_onlyIn
  extra _ := mem_onlyIn.trans And.comm
  mismatches name := by
    simp only [compare, List.mem_map, List.mem_filter]
    constructor
    · rintro ⟨⟨own, a⟩, ⟨member, differs⟩, rfl⟩
      split at differs
      · rename_i b found
        exact ⟨a, b, ascending.mem_iff.mp member, found, (bne_iff_ne.mp differs).symm⟩
      · contradiction
    · rintro ⟨a, b, held, found, differs⟩
      have other : (b != a) = true := bne_iff_ne.mpr differs.symm
      exact ⟨(name, a), ⟨ascending.mem_iff.mpr held, by simpa [found] using other⟩, rfl⟩

/-- Listings are compared exactly. -/
theorem compare_exact {given generated : List (String × List UInt8)} (ascending : Ascending given)
    (ascending' : Ascending generated) :
    Exact (given.lookup ·) (generated.lookup ·) (compare given generated) where
  toParts := compare_parts ascending
  ascending := ⟨ascending.sublist List.filter_sublist, ascending'.sublist List.filter_sublist,
    ascending.sublist (List.filter_sublist.map Prod.fst)⟩
  disjoint := (compare_parts ascending).disjoint
  differ := (compare_parts ascending).differ_iff
  verdict := (compare_parts ascending).isOk_iff

end Bindery.Verification

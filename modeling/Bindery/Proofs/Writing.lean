import Bindery.Generation
import Bindery.Proofs.FileTree.Making
import Mathlib.Data.List.Basic

/- The same files written below two directories. If the files below both are the same and the second
   has no directory that the first lacks, then what can be written below the first can be written
   below the second, and the files are the same afterwards. -/
namespace Bindery.Generation

open FileTree

/-- Files that are named below some directory. -/
abbrev Files := List (List String × List UInt8)

namespace Files

def at_ (base : Path) (files : Files) : List (Path × List UInt8) :=
  files.map fun f => (base.join { names := f.1 }, f.2)

def Named (files : Files) : Prop := ∀ f ∈ files, f.1 ≠ [] ∧ ∀ name ∈ f.1, Followable name

end Files

variable {t u u' w : FileTree} {s : Surroundings} {base : Path} {place : Location}

theorem writeFiles_cons_ok {p : Path} {bytes : List UInt8} {rest : List (Path × List UInt8)} :
    writeFiles t s ((p, bytes) :: rest) = (u', none) ↔
      ∃ u w, t.ensureDirectory s p.parent = (u, none) ∧ u.write s p bytes = .ok w ∧
        writeFiles w s rest = (u', none) := by
  rw [writeFiles]
  rcases t.ensureDirectory s p.parent with ⟨u, _ | fault⟩
  · cases written : u.write s p bytes with
    | error fault => simp [written]
    | ok w => simp [written]
  · simp

theorem Plan.write_ok_iff {p : Plan} : p.write t s = (u', none) ↔
    ∃ u, t.ensureDirectory s p.out = (u, none) ∧ writeFiles u s p.files = (u', none) := by
  unfold write
  rcases t.ensureDirectory s p.out with ⟨u, _ | fault⟩ <;> simp

/-! ### One file -/

/-- What one written file asks of the tree, and what it leaves behind. -/
structure Written (t : FileTree) (s : Surroundings) (base : Path) (place : Location)
    (names : List String) (name : String) (bytes : List UInt8) (u w : FileTree) : Prop where
  grows : Grows noFile t u
  dir : u.find? (place ++ names) = some .dir
  free : u.find? (place ++ names ++ [name]) ≠ some .dir
  result : w = u.insert (place ++ names ++ [name]) (.file bytes)
  before : u.Site s base place
  after : w.Site s base place

theorem site_insert {names : List String} {name : String} (site : u.Site s base place)
    (follows : Followable name) (above : u.find? (place ++ names) = some .dir)
    (free : u.find? (place ++ names ++ [name]) ≠ some .dir) (bytes : List UInt8) :
    (u.insert (place ++ names ++ [name]) (.file bytes)).Site s base place := by
  have open_ : ∀ held, u.find? (place ++ names ++ [name]) = some held → ∃ own, held = .file own := by
    intro held found
    cases held with
    | dir => exact absurd found free
    | file own => exact ⟨own, rfl⟩
    | link target =>
      rw [List.append_assoc] at found
      exact absurd found (site.noLink _ _)
  refine site.keep (keepsWays_insert (by simp) _ open_)
    (site.rooted.insert follows above _ fun dir => absurd dir free) fun q target held => ?_
  rw [find?_insert _ (by simp)] at held
  split at held
  · simp at held
  · exact held

theorem written_of_ok {names : List String} {name : String} {bytes : List UInt8}
    (site : t.Site s base place) (follows : ∀ other ∈ names ++ [name], Followable other)
    (made : t.ensureDirectory s (base.join { names := names }) = (u, none))
    (written : u.write s (base.join { names := names ++ [name] }) bytes = .ok w) :
    Written t s base place names name bytes u w := by
  have grown := ensureDirectory_made site.rooted made
  have before : u.Site s base place := site.grow grown.grows grown.rooted
  obtain ⟨q, leads⟩ := grown.leads rfl
  have dir := before.find?_of_status
    (fun other member => (follows other (by simp [member])).notUp) leads
  obtain ⟨free, rfl⟩ := (before.write_eq_ok_iff (follows name (by simp)) dir).mp written
  exact ⟨grown.grows, dir, free, rfl, before, site_insert before (follows name (by simp)) dir free bytes⟩

/-! ### Files below a site -/

theorem written_of_cons {names : List String} {name : String} {bytes : List UInt8} {files : Files}
    (site : t.Site s base place) (follows : ∀ other ∈ names ++ [name], Followable other)
    (written : writeFiles t s (Files.at_ base ((names ++ [name], bytes) :: files)) = (u', none)) :
    ∃ u w, Written t s base place names name bytes u w ∧
      writeFiles w s (files.at_ base) = (u', none) := by
  obtain ⟨u, w, made, here, later⟩ := writeFiles_cons_ok.mp written
  rw [Path.parent_join_snoc] at made
  exact ⟨u, w, written_of_ok site follows made here, later⟩

/-- Files written below a site let the tree grow by them, and the site stays one. -/
theorem writeFiles_grows {fileAt : Location → Prop} {files : Files} (named : files.Named)
    (site : u.Site s base place) (written : writeFiles u s (files.at_ base) = (u', none))
    (grows : Grows fileAt t u)
    (fresh : ∀ f ∈ files, t.find? (place ++ f.1) = none ∧ fileAt (place ++ f.1)) :
    Grows fileAt t u' ∧ u'.Site s base place := by
  induction files generalizing u with
  | nil =>
    cases written
    exact ⟨grows, site⟩
  | cons f files ih =>
    obtain ⟨path, bytes⟩ := f
    obtain ⟨⟨notEmpty, follows⟩, namedLater⟩ := List.forall_mem_cons.mp named
    obtain ⟨⟨absent, allowed⟩, freshLater⟩ := List.forall_mem_cons.mp fresh
    obtain ⟨names, name, rfl⟩ := (List.eq_nil_or_concat' path).resolve_left notEmpty
    obtain ⟨u₁, u₂, here, later⟩ := written_of_cons site follows written
    refine ih namedLater here.after later ?_ freshLater
    rw [here.result, List.append_assoc]
    have made : Grows fileAt u u₁ := here.grows.weaken fun _ => False.elim
    exact (grows.trans made).insert absent (.inr ⟨allowed, bytes, rfl⟩)

/-! ### Two sites -/

/-- The files below two places are the same, and the second has no directory that the first lacks. -/
structure Mirrors (u : FileTree) (place : Location) (v : FileTree) (place' : Location) : Prop where
  dirs : ∀ names, v.find? (place' ++ names) = some .dir → u.find? (place ++ names) = some .dir
  files : ∀ names bytes, v.find? (place' ++ names) = some (.file bytes) ↔
    u.find? (place ++ names) = some (.file bytes)

namespace Mirrors

variable {v v' : FileTree} {base' : Path} {place' : Location} {names : List String} {name : String}
  {bytes : List UInt8}

theorem paved (mirrors : Mirrors t place v place') (grows : Grows noFile t u) (rooted : u.Rooted)
    (dir : u.find? (place ++ names) = some .dir) (way : Paved v v' place' names) :
    Mirrors u place v' place' := by
  have onWay := rooted.dir_take dir
  constructor
  · intro more held
    by_cases passed : ∃ k, more = names.take k
    · obtain ⟨k, rfl⟩ := passed
      exact onWay k
    · rw [way.rest _ (by simpa using passed)] at held
      exact grows.kept (mirrors.dirs more held)
  · intro more own
    by_cases passed : ∃ k, more = names.take k
    · obtain ⟨k, rfl⟩ := passed
      simp [onWay k, way.dirs k]
    · rw [way.rest _ (by simpa using passed), mirrors.files]
      refine ⟨grows.kept, fun held => ?_⟩
      rcases grows.old_or_new held with old | ⟨-, dir | ⟨new, -⟩⟩
      · exact old
      · contradiction
      · exact new.elim

theorem insert (mirrors : Mirrors u place v place') (bytes : List UInt8) :
    Mirrors (u.insert (place ++ names ++ [name]) (.file bytes)) place
      (v.insert (place' ++ names ++ [name]) (.file bytes)) place' := by
  constructor
  · intro more held
    rw [find?_insert _ (by simp)] at held ⊢
    simp only [List.append_assoc, List.append_cancel_left_eq] at held ⊢
    split
    · rename_i same
      simp [same] at held
    · rename_i other
      exact mirrors.dirs more (by simpa [other] using held)
  · intro more own
    rw [find?_insert _ (by simp), find?_insert _ (by simp)]
    simp only [List.append_assoc, List.append_cancel_left_eq]
    split
    · rfl
    · exact mirrors.files more own

/-- What was written below the first place can be written below the second. -/
theorem write_one (mirrors : Mirrors t place v place') (site : v.Site s base' place')
    (follows : ∀ other ∈ names ++ [name], Followable other)
    (written : Written t s base place names name bytes u w) :
    ∃ v₁ v₂, v.ensureDirectory s (base'.join { names := names }) = (v₁, none) ∧
      v₁.write s (base'.join { names := names ++ [name] }) bytes = .ok v₂ ∧
      v₂.Site s base' place' ∧ Mirrors w place v₂ place' := by
  have onWay := written.before.rooted.dir_take written.dir
  have clear : ∀ k, v.find? (place' ++ names.take k) = none ∨
      v.find? (place' ++ names.take k) = some .dir := by
    intro k
    cases held : v.find? (place' ++ names.take k) with
    | none => exact .inl rfl
    | some node =>
      cases node with
      | dir => exact .inr rfl
      | link target => exact absurd held (site.noLink _ _)
      | file own =>
        have there := written.grows.kept ((mirrors.files _ own).mp held)
        simp [onWay k] at there
  have enough : names.length < (base'.join { names := names }).names.length + 1 := by
    simp only [Path.join, Path.isAbsolute, ne_eq, not_true_eq_false, decide_false, Bool.false_eq_true,
      ↓reduceIte, List.length_append]
    omega
  obtain ⟨v₁, made, way⟩ :=
    site.makes (fun other member => follows other (by simp [member])) clear enough
  have grown := ensureDirectory_made site.rooted made
  have before : v₁.Site s base' place' := site.grow grown.grows grown.rooted
  have mirrors₁ := mirrors.paved written.grows written.before.rooted written.dir way
  have free : v₁.find? (place' ++ names ++ [name]) ≠ some .dir := by
    intro held
    rw [List.append_assoc] at held
    refine written.free ?_
    rw [List.append_assoc]
    exact mirrors₁.dirs _ held
  refine ⟨v₁, _, made, (before.write_eq_ok_iff (follows name (by simp)) way.whole).mpr ⟨free, rfl⟩,
    site_insert before (follows name (by simp)) way.whole free bytes, ?_⟩
  rw [written.result]
  exact mirrors₁.insert bytes

end Mirrors

/-- Files that can be written below the first place can be written below the second. -/
theorem writeFiles_mirrors {v : FileTree} {base' : Path} {place' : Location} {files : Files}
    (named : files.Named) (mirrors : Mirrors u place v place') (site : u.Site s base place)
    (site' : v.Site s base' place') (written : writeFiles u s (files.at_ base) = (u', none)) :
    ∃ v', writeFiles v s (files.at_ base') = (v', none) ∧ Mirrors u' place v' place' := by
  induction files generalizing u v with
  | nil =>
    cases written
    exact ⟨v, rfl, mirrors⟩
  | cons f files ih =>
    obtain ⟨path, bytes⟩ := f
    obtain ⟨⟨notEmpty, follows⟩, namedLater⟩ := List.forall_mem_cons.mp named
    obtain ⟨names, name, rfl⟩ := (List.eq_nil_or_concat' path).resolve_left notEmpty
    obtain ⟨u₁, u₂, here, later⟩ := written_of_cons site follows written
    obtain ⟨v₁, v₂, made, wrote, site₂, mirrors₂⟩ := mirrors.write_one site' follows here
    obtain ⟨v', laterToo, mirrors'⟩ := ih namedLater mirrors₂ here.after site₂ later
    refine ⟨v', writeFiles_cons_ok.mpr ⟨v₁, v₂, ?_, wrote, laterToo⟩, mirrors'⟩
    rw [Path.parent_join_snoc]
    exact made

end Bindery.Generation

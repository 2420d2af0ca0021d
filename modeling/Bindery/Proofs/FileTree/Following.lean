import Bindery.Proofs.FileTree.Growth

/- Where following ends, as a relation with one case for every kind of step. What is reached is in
   the tree, or is a place that may be filled; a tree that keeps its entries keeps what is reached;
   names behind a directory are followed from there. Names that meet no link need no relation: what
   the tree holds decides. -/
namespace Bindery.FileTree

/-- From a directory names reach a spot, through at most so many links. -/
inductive Reaches (t : FileTree) (last : Bool) : Nat → Location → List String → Spot → Prop where
  | here {n : Nat} {here : Location} {node : Node} (held : t.find? here = some node) :
      Reaches t last n here [] (.found here node)
  | up {n : Nat} {here : Location} {rest : List String} {spot : Spot}
      (above : t.find? here = some .dir) (onward : Reaches t last n here.dropLast rest spot) :
      Reaches t last n here (".." :: rest) spot
  | free {n : Nat} {here : Location} {name : String} (above : t.find? here = some .dir)
      (follows : Followable name) (absent : t.find? (here ++ [name]) = none) :
      Reaches t last n here [name] (.free (here ++ [name]))
  | link {n : Nat} {here : Location} {name target : String} (above : t.find? here = some .dir)
      (follows : Followable name) (held : t.find? (here ++ [name]) = some (.link target))
      (stays : last = false) :
      Reaches t last n here [name] (.found (here ++ [name]) (.link target))
  | through {n : Nat} {here : Location} {name target : String} {rest : List String} {spot : Spot}
      (above : t.find? here = some .dir) (follows : Followable name)
      (held : t.find? (here ++ [name]) = some (.link target)) (passes : rest = [] → last = true)
      (onward : Reaches t last n (targetOf here target).1 ((targetOf here target).2 ++ rest) spot) :
      Reaches t last (n + 1) here (name :: rest) spot
  | down {n : Nat} {here : Location} {name : String} {rest : List String} {spot : Spot}
      (above : t.find? here = some .dir) (follows : Followable name)
      (held : t.find? (here ++ [name]) = some .dir)
      (onward : Reaches t last n (here ++ [name]) rest spot) :
      Reaches t last n here (name :: rest) spot
  | file {n : Nat} {here : Location} {name : String} {bytes : List UInt8}
      (above : t.find? here = some .dir) (follows : Followable name)
      (held : t.find? (here ++ [name]) = some (.file bytes)) :
      Reaches t last n here [name] (.found (here ++ [name]) (.file bytes))

def Spot.place : Spot → Location
  | .found place _ => place
  | .free place => place

/-- What a spot says of its tree. -/
def Spot.Holds (t : FileTree) : Spot → Prop
  | .found place node => t.find? place = some node
  | .free place => t.find? place = none ∧
      ∃ here name, place = here ++ [name] ∧ Followable name ∧ t.find? here = some .dir

instance (t : FileTree) (spot : Spot) : Decidable (spot.Holds t) :=
  match spot with
  | .found place node => inferInstanceAs (Decidable (t.find? place = some node))
  | .free place =>
    decidable_of_iff (t.find? place = none ∧ t.StandsIn place) (and_congr_right' standsIn_iff)

variable {t t' : FileTree} {last : Bool}

/-- How following goes on behind a link. -/
def behind (t : FileTree) (last : Bool) :
    Nat → Location → List String → Except FileError Spot
  | 0 => fun _ _ => .error .tooManyLinks
  | n + 1 => t.follow last n

theorem follow_eq (n : Nat) : t.follow last n = t.followWith last (t.behind last n) := by
  cases n <;> rfl

theorem followWith_cons {onLink : Location → List String → Except FileError Spot}
    {here : Location} {name : String} {rest : List String} (above : t.find? here = some .dir)
    (follows : Followable name) :
    t.followWith last onLink here (name :: rest) =
      match t.find? (here ++ [name]) with
      | none => if rest.isEmpty then .ok (.free (here ++ [name])) else .error .noEntry
      | some (.link target) =>
        if rest.isEmpty && !last then .ok (.found (here ++ [name]) (.link target))
        else onLink (targetOf here target).1 ((targetOf here target).2 ++ rest)
      | some .dir => t.followWith last onLink (here ++ [name]) rest
      | some (.file bytes) =>
        if rest.isEmpty then .ok (.found (here ++ [name]) (.file bytes)) else .error .notDirectory := by
  have open_ : ¬ t.find? here ≠ some .dir := fun shut => shut above
  have noNull : ¬ name.toList.contains '\x00' = true := by simpa using follows.noNull
  have short : ¬ maxName < name.utf8ByteSize := Nat.not_lt.mpr follows.short
  exact (if_neg open_).trans ((if_neg noNull).trans ((if_neg follows.notUp).trans (if_neg short)))

theorem followWith_reaches {n : Nat}
    (beyond : ∀ start more spot, t.behind last n start more = .ok spot →
      ∃ m, n = m + 1 ∧ Reaches t last m start more spot)
    {here : Location} {names : List String} {spot : Spot}
    (reached : t.followWith last (t.behind last n) here names = .ok spot) :
    Reaches t last n here names spot := by
  induction names generalizing here with
  | nil =>
    unfold followWith at reached
    split at reached
    · rename_i node held
      cases reached
      exact .here held
    · contradiction
  | cons name rest ih =>
    by_cases above : t.find? here = some .dir
    swap
    · simp [followWith, above] at reached
    by_cases null : '\x00' ∈ name.toList
    · simp [followWith, above, null] at reached
    by_cases up : name = ".."
    · subst up
      refine .up above (ih ?_)
      simpa [followWith, above] using reached
    by_cases long : maxName < name.utf8ByteSize
    · simp [followWith, above, null, up, long] at reached
    have follows : Followable name := ⟨up, null, by omega⟩
    rw [followWith_cons above follows] at reached
    cases held : t.find? (here ++ [name]) with
    | none =>
      simp only [held] at reached
      split at reached
      · rename_i atEnd
        obtain rfl := List.isEmpty_iff.mp atEnd
        cases reached
        exact .free above follows held
      · contradiction
    | some node =>
      cases node with
      | dir => exact .down above follows held (ih (by simpa only [held] using reached))
      | file bytes =>
        simp only [held] at reached
        split at reached
        · rename_i atEnd
          obtain rfl := List.isEmpty_iff.mp atEnd
          cases reached
          exact .file above follows held
        · contradiction
      | link target =>
        simp only [held] at reached
        split at reached
        · rename_i atEnd
          simp only [Bool.and_eq_true, List.isEmpty_iff, Bool.not_eq_true'] at atEnd
          obtain ⟨rfl, stays⟩ := atEnd
          cases reached
          exact .link above follows held stays
        · rename_i passes
          obtain ⟨m, rfl, onward⟩ := beyond _ _ _ reached
          refine .through above follows held ?_ onward
          rintro rfl
          simpa using passes

/-- Following ends at a spot exactly when the names reach it. -/
theorem follow_eq_ok_iff {n : Nat} {here : Location} {names : List String} {spot : Spot} :
    t.follow last n here names = .ok spot ↔ Reaches t last n here names spot := by
  constructor
  · intro reached
    induction n generalizing here names spot with
    | zero =>
      rw [follow_eq] at reached
      exact followWith_reaches (by simp [behind]) reached
    | succ n ih =>
      rw [follow_eq] at reached
      exact followWith_reaches (fun _ _ _ reached => ⟨n, rfl, ih reached⟩) reached
  · intro reached
    induction reached with
    | here held => simp [follow_eq, followWith, held]
    | up above onward ih => simpa [follow_eq, followWith, above] using ih
    | free above follows absent => simp [follow_eq, followWith_cons above follows, absent]
    | link above follows held stays => simp [follow_eq, followWith_cons above follows, held, stays]
    | through above follows held passes onward ih =>
      rename_i rest spot
      have on : (rest.isEmpty && !last) = false := by
        by_cases atEnd : rest = []
        · simp [passes atEnd]
        · simp [atEnd]
      rw [follow_eq, followWith_cons above follows, held]
      simpa [on, behind] using ih
    | down above follows held onward ih =>
      simpa [follow_eq, followWith_cons above follows, held] using ih
    | file above follows held => simp [follow_eq, followWith_cons above follows, held]

namespace Reaches

variable {n : Nat} {here place : Location} {names : List String} {spot : Spot}

/-- What is reached is in the tree; what is free may be filled. -/
theorem holds (reached : t.Reaches last n here names spot) : spot.Holds t := by
  induction reached with
  | here held => exact held
  | up _ _ ih => exact ih
  | free above follows absent => exact ⟨absent, _, _, rfl, follows, above⟩
  | link _ _ held _ => exact held
  | through _ _ _ _ _ ih => exact ih
  | down _ _ _ _ ih => exact ih
  | file _ _ held => exact held

/-- The last name leads to the entry it has, unless that is a link to be followed. -/
theorem entry {name : String} {node : Node} (above : t.find? here = some .dir)
    (follows : Followable name) (held : t.find? (here ++ [name]) = some node)
    (ends : last = true → ∀ target, node ≠ .link target) :
    t.Reaches last n here [name] (.found (here ++ [name]) node) := by
  cases node with
  | dir => exact .down above follows held (.here held)
  | file bytes => exact .file above follows held
  | link target =>
    cases last with
    | false => exact .link above follows held rfl
    | true => exact absurd rfl (ends rfl target)

/-- What is reached is reached in a tree that keeps the ways and what they end at. -/
theorem kept (ways : KeepsWays t t') {node : Node}
    (reached : t.Reaches last n here names (.found place node)) (held : t'.find? place = some node) :
    t'.Reaches last n here names (.found place node) := by
  generalize stop : Spot.found place node = spot at reached ⊢
  induction reached with
  | here _ =>
    cases stop
    exact .here held
  | up above _ ih => exact .up (ways.dir above) (ih stop)
  | free _ _ _ => contradiction
  | link above follows link stays => exact .link (ways.dir above) follows (ways.link link) stays
  | through above follows link passes _ ih =>
    exact .through (ways.dir above) follows (ways.link link) passes (ih stop)
  | down above follows dir _ ih => exact .down (ways.dir above) follows (ways.dir dir) (ih stop)
  | file above follows _ =>
    cases stop
    exact .file (ways.dir above) follows held

/-- A free place is reached when it is filled. -/
theorem filled (ways : KeepsWays t t') {node : Node}
    (reached : t.Reaches last n here names (.free place)) (held : t'.find? place = some node)
    (ends : last = true → ∀ target, node ≠ .link target) :
    t'.Reaches last n here names (.found place node) := by
  generalize stop : Spot.free place = spot at reached
  induction reached with
  | here _ => contradiction
  | up above _ ih => exact .up (ways.dir above) (ih stop)
  | free above follows _ =>
    cases stop
    exact .entry (ways.dir above) follows held ends
  | link _ _ _ _ => contradiction
  | through above follows link passes _ ih =>
    exact .through (ways.dir above) follows (ways.link link) passes (ih stop)
  | down above follows dir _ ih => exact .down (ways.dir above) follows (ways.dir dir) (ih stop)
  | file _ _ _ => contradiction

/-- A place that is free when links are not followed is free when they are. -/
theorem free_of_stays (reached : t.Reaches false n here names (.free place)) :
    t.Reaches true n here names (.free place) := by
  generalize stop : Spot.free place = spot at reached
  induction reached with
  | here _ => contradiction
  | up above _ ih => exact .up above (ih stop)
  | free above follows absent => exact .free above follows absent
  | link _ _ _ _ => contradiction
  | through above follows link _ _ ih => exact .through above follows link (fun _ => rfl) (ih stop)
  | down above follows dir _ ih => exact .down above follows dir (ih stop)
  | file _ _ _ => contradiction

/-- Names that do not go up reach what they name, if no link is met. -/
theorem place_eq (reached : t.Reaches last n here names spot) (notUp : ∀ name ∈ names, name ≠ "..")
    (noLink : ∀ more target, t.find? (here ++ more) ≠ some (.link target)) :
    spot.place = here ++ names := by
  induction reached with
  | here _ => simp [Spot.place]
  | up _ _ _ => simp at notUp
  | free _ _ _ => rfl
  | link _ _ held _ => exact absurd held (noLink _ _)
  | through _ _ link _ _ _ => exact absurd link (noLink _ _)
  | @down n here name rest spot _ _ _ _ ih =>
    rw [List.append_cons]
    exact ih (fun other member => notUp other (by simp [member]))
      (fun more target => by simpa using noLink (name :: more) target)
  | file _ _ _ => rfl

/-- Names behind a directory are followed from where it is, with the links that are left, and so they
    are in every tree that keeps the ways. -/
theorem append_kept (reached : t.Reaches true n here names (.found place .dir)) :
    ∃ m, ∀ t', KeepsWays t t' → ∀ last rest, (rest = [] → last = true) →
      t'.follow last n here (names ++ rest) = t'.follow last m place rest := by
  generalize stop : Spot.found place .dir = spot at reached
  induction reached with
  | @here n here node held =>
    cases stop
    exact ⟨n, fun _ _ _ _ _ => rfl⟩
  | up above _ ih =>
    obtain ⟨m, same⟩ := ih stop
    refine ⟨m, fun t' ways last rest ends => ?_⟩
    rw [← same t' ways last rest ends]
    simp [follow_eq, followWith, ways.dir above]
  | free _ _ _ => contradiction
  | link _ _ _ stays => contradiction
  | @through n here name target rest' spot above follows link passes _ ih =>
    obtain ⟨m, same⟩ := ih stop
    refine ⟨m, fun t' ways last rest ends => ?_⟩
    have on : ((rest' ++ rest).isEmpty && !last) = false := by
      by_cases atEnd : rest = []
      · simp [ends atEnd]
      · simp [atEnd]
    rw [← same t' ways last rest ends, List.cons_append, follow_eq,
      followWith_cons (ways.dir above) follows, ways.link link]
    simp [on, behind]
  | down above follows dir _ ih =>
    obtain ⟨m, same⟩ := ih stop
    refine ⟨m, fun t' ways last rest ends => ?_⟩
    rw [← same t' ways last rest ends, List.cons_append, follow_eq,
      followWith_cons (ways.dir above) follows, ways.dir dir]
  | file _ _ _ => simp at stop

end Reaches

/-! ### Names that meet no link -/

namespace Rooted

variable {n : Nat} {here : Location} {names : List String} {name : String}

theorem reaches (rooted : t.Rooted) {node : Node} (found : t.find? (here ++ names) = some node)
    (ends : last = true → ∀ target, node ≠ .link target) :
    t.Reaches last n here names (.found (here ++ names) node) := by
  induction names generalizing here with
  | nil => simpa using Reaches.here (by simpa using found)
  | cons name rest ih =>
    have above : t.find? here = some .dir := rooted.dir_above found (by simp)
    have follows : Followable name := rooted.followable found name (by simp)
    rw [List.append_cons] at found ⊢
    by_cases atEnd : rest = []
    · subst atEnd
      simpa using Reaches.entry above follows (by simpa using found) ends
    · exact .down above follows (rooted.dir_above found atEnd) (ih found)

theorem reaches_free (rooted : t.Rooted) (above : t.find? (here ++ names) = some .dir)
    (follows : Followable name) (absent : t.find? (here ++ names ++ [name]) = none) :
    t.Reaches last n here (names ++ [name]) (.free (here ++ names ++ [name])) := by
  induction names generalizing here with
  | nil => simpa using Reaches.free (by simpa using above) follows (by simpa using absent)
  | cons first rest ih =>
    have top : t.find? here = some .dir := rooted.dir_above above (by simp)
    have follows' : Followable first := rooted.followable above first (by simp)
    rw [List.append_cons] at above
    rw [List.append_cons here first rest] at absent ⊢
    have next : t.find? (here ++ [first]) = some .dir := by
      by_cases atEnd : rest = []
      · simpa [atEnd] using above
      · exact rooted.dir_above above atEnd
    exact .down top follows' next (ih above absent)

end Rooted

/-- Nothing can be followed behind a directory that is missing. -/
theorem follow_missing {n : Nat} {here : Location} {names : List String} {name : String}
    (above : t.find? here = some .dir) (follows : ∀ name ∈ names, Followable name)
    (clear : ∀ k, t.find? (here ++ names.take k) = none ∨ t.find? (here ++ names.take k) = some .dir)
    (absent : t.find? (here ++ names) = none) :
    t.follow last n here (names ++ [name]) = .error .noEntry := by
  induction names generalizing here with
  | nil => simp [above] at absent
  | cons first rest ih =>
    rw [List.cons_append, follow_eq, followWith_cons above (follows first (by simp))]
    rcases clear 1 with missing | dir
    · simp only [List.take_succ_cons, List.take_zero] at missing
      simp [missing]
    · simp only [List.take_succ_cons, List.take_zero] at dir
      rw [dir, ← follow_eq]
      refine ih dir (fun name member => follows name (by simp [member])) (fun k => ?_) (by simpa using absent)
      simpa using clear (k + 1)

/-! ### Paths -/

variable {s : Surroundings} {p base : Path} {place : Location} {names : List String}

theorem spot_eq_ok_iff {spot : Spot} :
    t.spot s p last = .ok spot ↔ (∀ name ∈ p.names, '\x00' ∉ name.toList) ∧
      t.Reaches last maxLinks (origin s p) p.names spot := by
  rw [← follow_eq_ok_iff, FileTree.spot]
  split
  · rename_i null
    obtain ⟨name, member, null⟩ := List.any_eq_true.mp null
    have unclean : ¬ ∀ name ∈ p.names, '\x00' ∉ name.toList := fun clean =>
      clean name member (by simpa using null)
    simp [unclean]
  · rename_i clean
    have clean : ∀ name ∈ p.names, '\x00' ∉ name.toList := by simpa using clean
    exact ⟨fun reached => ⟨clean, reached⟩, And.right⟩

theorem status_eq_ok_iff {node : Node} :
    t.status s p last = .ok (place, node) ↔ (∀ name ∈ p.names, '\x00' ∉ name.toList) ∧
      t.Reaches last maxLinks (origin s p) p.names (.found place node) := by
  rw [← spot_eq_ok_iff, FileTree.status]
  cases t.spot s p last with
  | error e => simp
  | ok spot => cases spot <;> simp

theorem status?_eq_some_iff {found : Location × Node} :
    t.status? s p last = .ok (some found) ↔ t.status s p last = .ok found := by
  rw [FileTree.status?]
  cases t.status s p last with
  | ok own => simp
  | error fault =>
    simp only [reduceCtorEq, iff_false]
    split <;> simp

/-- A tree that keeps the ways keeps what a path leads to, unless another file is in its stead. -/
theorem status_kept (ways : KeepsWays t t') {node : Node}
    (found : t.status s p last = .ok (place, node)) (held : t'.find? place = some node) :
    t'.status s p last = .ok (place, node) := by
  rw [status_eq_ok_iff] at found ⊢
  exact ⟨found.1, found.2.kept ways held⟩

theorem holds_of_status {node : Node} (found : t.status s p last = .ok (place, node)) :
    t.find? place = some node := (status_eq_ok_iff.mp found).2.holds

theorem Grows.status_kept {fileAt : Location → Prop} (grows : Grows fileAt t t') {node : Node}
    (found : t.status s p last = .ok (place, node)) : t'.status s p last = .ok (place, node) :=
  FileTree.status_kept grows.keepsWays found (grows.kept (holds_of_status found))

/-- Names behind a path to a directory are followed from the directory, and so they are in every tree
    that keeps the ways. -/
theorem spot_join_kept (found : t.status s base = .ok (place, .dir)) :
    ∃ m, ∀ t', KeepsWays t t' → ∀ last names, (∀ name ∈ names, '\x00' ∉ name.toList) →
      (names = [] → last = true) →
      t'.spot s (base.join { names := names }) last = t'.follow last m place names := by
  obtain ⟨clean, reached⟩ := status_eq_ok_iff.mp found
  obtain ⟨m, same⟩ := reached.append_kept
  refine ⟨m, fun t' ways last names plain ends => ?_⟩
  have none_ : ((base.join { names := names }).names.any fun name =>
      name.toList.contains '\x00') = false := by
    simp only [Path.join, Path.isAbsolute, ne_eq, not_true_eq_false, decide_false,
      Bool.false_eq_true, ↓reduceIte, List.any_eq_false, List.mem_append]
    rintro name (member | member)
    · simpa using clean name member
    · simpa using plain name member
  rw [FileTree.spot, none_, ← same t' ways last names ends]
  simp [Path.join, Path.isAbsolute, origin]

theorem spot_join (found : t.status s base = .ok (place, .dir)) :
    ∃ m, ∀ last names, (∀ name ∈ names, '\x00' ∉ name.toList) → (names = [] → last = true) →
      t.spot s (base.join { names := names }) last = t.follow last m place names := by
  obtain ⟨m, same⟩ := spot_join_kept found
  exact ⟨m, same t fun _ _ held _ => held⟩

theorem status_join (rooted : t.Rooted) (found : t.status s base = .ok (place, .dir)) {node : Node}
    (held : t.find? (place ++ names) = some node) (ends : last = true → ∀ target, node ≠ .link target)
    (named : names ≠ []) :
    t.status s (base.join { names := names }) last = .ok (place ++ names, node) := by
  obtain ⟨m, same⟩ := spot_join found
  have clean : ∀ name ∈ names, '\x00' ∉ name.toList := fun name member =>
    (rooted.followable held name member).noNull
  have reached : t.follow last m place names = .ok (.found (place ++ names) node) :=
    follow_eq_ok_iff.mpr (rooted.reaches held ends)
  simp [FileTree.status, same last names clean (fun none_ => absurd none_ named), reached]

end Bindery.FileTree

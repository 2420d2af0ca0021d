import Bindery.Proofs.FileTree.Making
import Bindery.Proofs.FileTree.Resolving
import Bindery.Proofs.Outcomes
import Bindery.Proofs.PathTexts
import Mathlib.Algebra.GroupWithZero.Nat
import Mathlib.Data.List.Basic

/- Trees in which files were written. What was there stays, with its kind and in its order; files may
   have other bytes where that is allowed, and what is new is a directory, or a file where that is
   allowed. So paths lead where they led before, and are resolved as they were. -/
namespace Bindery.FileTree

variable {t t' u v w : FileTree} {s : Surroundings} {p : Path} {q place : Location} {node : Node}
  {last : Bool} {bytes own : List UInt8} {fileAt : Location → Prop}

/-! ### Rewritten trees -/

/-- A later tree lists the places of an earlier one and new ones behind them; files have been written
    only at places for which `fileAt` holds. -/
structure Rewrites (fileAt : Location → Prop) (t t' : FileTree) : Prop where
  places : ∃ more, t'.places = t.places ++ more ∧ ∀ q ∈ more, t.find? q = none
  ways : KeepsWays t t'
  files : ∀ q bytes, t.find? q = some (.file bytes) →
    t'.find? q = some (.file bytes) ∨ fileAt q ∧ ∃ own, t'.find? q = some (.file own)
  new : ∀ q node, t.find? q = none → t'.find? q = some node →
    node = .dir ∨ fileAt q ∧ ∃ bytes, node = .file bytes

theorem Grows.rewrites (grows : Grows fileAt t t') : Rewrites fileAt t t' where
  places := by
    obtain ⟨extra, entries, new⟩ := grows
    refine ⟨extra.map Prod.fst, by simp [FileTree.places, entries], fun q member => ?_⟩
    obtain ⟨e, inExtra, rfl⟩ := List.mem_map.mp member
    exact (new e inExtra).1
  ways := grows.keepsWays
  files := fun _ _ held => .inl (grows.kept held)
  new := by
    intro q node absent held
    rcases grows.old_or_new held with old | ⟨-, kind⟩
    · simp [absent] at old
    · exact kind

namespace Rewrites

theorem weaken {fileAt' : Location → Prop} (wider : ∀ q, fileAt q → fileAt' q)
    (rewrites : Rewrites fileAt t t') : Rewrites fileAt' t t' :=
  ⟨rewrites.places, rewrites.ways,
    fun q bytes held => (rewrites.files q bytes held).imp id (And.imp (wider q) id),
    fun q node absent held => (rewrites.new q node absent held).imp id (And.imp (wider q) id)⟩

theorem absent (rewrites : Rewrites fileAt t t') (absent : t'.find? q = none) : t.find? q = none := by
  cases held : t.find? q with
  | none => rfl
  | some node =>
    cases node with
    | dir => simp [rewrites.ways.dir held] at absent
    | link target => simp [rewrites.ways.link held] at absent
    | file bytes =>
      rcases rewrites.files q bytes held with same | ⟨-, own, other⟩
      · simp [same] at absent
      · simp [other] at absent

theorem link_iff (rewrites : Rewrites fileAt t t') {target : String} :
    t'.find? q = some (.link target) ↔ t.find? q = some (.link target) := by
  refine ⟨fun held => ?_, rewrites.ways.link⟩
  cases old : t.find? q with
  | none => simpa using rewrites.new q _ old held
  | some node =>
    cases node with
    | dir => simp [rewrites.ways.dir old] at held
    | link target' => simpa [rewrites.ways.link old] using held
    | file bytes =>
      rcases rewrites.files q bytes old with same | ⟨-, own, other⟩
      · simp [same] at held
      · simp [other] at held

/-- A place where no file may be written holds what it held, or a new directory. -/
theorem held_of_not (rewrites : Rewrites fileAt t t') (closed : ¬ fileAt q)
    (held : t'.find? q = some node) : t.find? q = some node ∨ t.find? q = none ∧ node = .dir := by
  cases old : t.find? q with
  | none => exact .inr ⟨rfl, (rewrites.new q node old held).resolve_right fun new => closed new.1⟩
  | some before =>
    left
    cases before with
    | dir => rw [← held, rewrites.ways.dir old]
    | link target => rw [← held, rewrites.ways.link old]
    | file bytes =>
      rw [← held, (rewrites.files q bytes old).resolve_right fun new => closed new.1]

theorem kept (rewrites : Rewrites fileAt t t') (closed : ¬ fileAt q) (held : t.find? q = some node) :
    t'.find? q = some node := by
  cases node with
  | dir => exact rewrites.ways.dir held
  | link target => exact rewrites.ways.link held
  | file bytes => exact (rewrites.files q bytes held).resolve_right fun new => closed new.1

/-- What was there is there still, and only files have become other files. -/
theorem still (rewrites : Rewrites fileAt t t') (held : t.find? q = some node) :
    t'.find? q = some node ∨ ∃ bytes own, node = .file bytes ∧ t'.find? q = some (.file own) := by
  cases node with
  | dir => exact .inl (rewrites.ways.dir held)
  | link target => exact .inl (rewrites.ways.link held)
  | file bytes => exact (rewrites.files q bytes held).imp id fun ⟨_, own, other⟩ => ⟨bytes, own, rfl, other⟩

theorem grow (rewrites : Rewrites fileAt t u) (grows : Grows noFile u v) : Rewrites fileAt t v where
  places := by
    obtain ⟨more, places, new⟩ := rewrites.places
    obtain ⟨extra, places', new'⟩ := grows.rewrites.places
    refine ⟨more ++ extra, by rw [places', places, List.append_assoc], fun q member => ?_⟩
    rcases List.mem_append.mp member with earlier | later
    · exact new q earlier
    · exact rewrites.absent (new' q later)
  ways := fun q node held noFile => grows.kept (rewrites.ways q node held noFile)
  files := fun q bytes held => (rewrites.files q bytes held).imp grows.kept
    (And.imp id fun ⟨own, there⟩ => ⟨own, grows.kept there⟩)
  new := by
    intro q node absent held
    rcases grows.old_or_new held with old | ⟨-, dir | ⟨new, -⟩⟩
    · exact rewrites.new q node absent old
    · exact .inl dir
    · exact new.elim

/-- A file may be written at an allowed place, where a file is or nothing. -/
theorem insert (rewrites : Rewrites fileAt t u) (named : q ≠ []) (allowed : fileAt q)
    (open_ : u.find? q = none ∨ ∃ own, u.find? q = some (.file own)) (bytes : List UInt8) :
    Rewrites fileAt t (u.insert q (.file bytes)) where
  places := by
    obtain ⟨more, places, new⟩ := rewrites.places
    rw [places_insert]
    split
    · exact ⟨more, places, new⟩
    · rename_i unlisted
      have absent : u.find? q = none := by
        cases held : u.find? q with
        | none => rfl
        | some node => exact absurd (mem_places_of_find? named held) unlisted
      refine ⟨more ++ [q], by rw [places, List.append_assoc], fun r member => ?_⟩
      rcases List.mem_append.mp member with earlier | here
      · exact new r earlier
      · obtain rfl := List.mem_singleton.mp here
        exact rewrites.absent absent
  ways := by
    intro r node held noFile
    refine keepsWays_insert named _ (fun before there => ?_) r node (rewrites.ways r node held noFile)
      noFile
    rcases open_ with absent | ⟨own, file⟩
    · simp [absent] at there
    · rw [file, Option.some.injEq] at there
      exact ⟨own, there.symm⟩
  files := by
    intro r before held
    rw [find?_insert _ named]
    split
    · rename_i same
      subst same
      exact .inr ⟨allowed, bytes, rfl⟩
    · exact rewrites.files r before held
  new := by
    intro r node absent held
    rw [find?_insert _ named] at held
    split at held
    · rename_i same
      subst same
      cases held
      exact .inr ⟨allowed, bytes, rfl⟩
    · exact rewrites.new r node absent held

end Rewrites

/-! ### Where paths lead -/

/-- A file is reached also when it was written anew. -/
theorem Reaches.rewritten (ways : KeepsWays t t') {n : Nat} {here : Location} {names : List String}
    (reached : t.Reaches last n here names (.found place (.file bytes)))
    (held : t'.find? place = some (.file own)) :
    t'.Reaches last n here names (.found place (.file own)) := by
  generalize stop : Spot.found place (.file bytes) = spot at reached
  induction reached with
  | here _ =>
    cases stop
    exact .here held
  | up above _ ih => exact .up (ways.dir above) (ih stop)
  | free _ _ _ => contradiction
  | link _ _ _ _ => simp at stop
  | through above follows link passes _ ih =>
    exact .through (ways.dir above) follows (ways.link link) passes (ih stop)
  | down above follows dir _ ih => exact .down (ways.dir above) follows (ways.dir dir) (ih stop)
  | file above follows _ =>
    cases stop
    exact .file (ways.dir above) follows held

theorem status_rewritten (ways : KeepsWays t t') (found : t.status s p last = .ok (place, .file bytes))
    (held : t'.find? place = some (.file own)) : t'.status s p last = .ok (place, .file own) := by
  rw [status_eq_ok_iff] at found ⊢
  exact ⟨found.1, found.2.rewritten ways held⟩

namespace Rewrites

theorem status_dir (rewrites : Rewrites fileAt t t') (found : t.status s p last = .ok (place, .dir)) :
    t'.status s p last = .ok (place, .dir) :=
  status_kept rewrites.ways found (rewrites.ways.dir (holds_of_status found))

theorem status_file (rewrites : Rewrites fileAt t t')
    (found : t.status s p last = .ok (place, .file bytes)) :
    ∃ own, t'.status s p last = .ok (place, .file own) ∧ (own = bytes ∨ fileAt place) := by
  rcases rewrites.files place bytes (holds_of_status found) with same | ⟨allowed, own, other⟩
  · exact ⟨bytes, status_rewritten rewrites.ways found same, .inl rfl⟩
  · exact ⟨own, status_rewritten rewrites.ways found other, .inr allowed⟩

theorem status_kept (rewrites : Rewrites fileAt t t') (closed : ¬ fileAt place)
    (found : t.status s p last = .ok (place, node)) : t'.status s p last = .ok (place, node) :=
  FileTree.status_kept rewrites.ways found (rewrites.kept closed (holds_of_status found))

theorem status_still (rewrites : Rewrites fileAt t t') (found : t.status s p last = .ok (place, node)) :
    ∃ node', t'.status s p last = .ok (place, node') := by
  rcases rewrites.still (holds_of_status found) with same | ⟨bytes, own, rfl, other⟩
  · exact ⟨node, FileTree.status_kept rewrites.ways found same⟩
  · exact ⟨_, status_rewritten rewrites.ways found other⟩

end Rewrites

/-! ### Where paths are resolved to -/

/-- The steps that resolving may take for what is at a place. -/
def stepsAt (t : FileTree) (q : Location) : Nat :=
  match t.find? q with
  | some node => node.steps
  | none => 0

theorem stepsLeft_eq_sum (distinct : t.Distinct) (rooted : t.Rooted) :
    stepsLeft [] t.entries = (t.places.map t.stepsAt).sum := by
  have sum : ∀ es : List (Location × Node), stepsLeft [] es = (es.map fun e => e.2.steps).sum := by
    intro es
    induction es with
    | nil => rfl
    | cons e es ih => simp [stepsLeft, ih]
  rw [sum, places, List.map_map]
  refine congrArg List.sum (List.map_congr_left fun e member => ?_)
  have named : e.1 ≠ [] := by
    obtain ⟨here, name, own, -⟩ := rooted.above e member
    simp [own]
  simp [stepsAt, distinct.find?_of_mem named member]

namespace Rewrites

theorem stepsAt_eq (rewrites : Rewrites fileAt t t') (q : Location) : t'.stepsAt q = t.stepsAt q := by
  have noLink : ∀ u : FileTree, (∀ target, u.find? q ≠ some (.link target)) → u.stepsAt q = 0 := by
    intro u none_
    unfold stepsAt
    split
    · rename_i node held
      cases node with
      | link target => exact absurd held (none_ target)
      | dir => rfl
      | file bytes => rfl
    · rfl
  by_cases link : ∃ target, t.find? q = some (.link target)
  · obtain ⟨target, link⟩ := link
    simp [stepsAt, link, rewrites.ways.link link]
  · have none_ : ∀ target, t.find? q ≠ some (.link target) := by simpa using link
    rw [noLink t none_, noLink t' fun target held => none_ target (rewrites.link_iff.mp held)]

theorem resolveSteps_eq (rewrites : Rewrites fileAt t t') (distinct : t.Distinct)
    (distinct' : t'.Distinct) (rooted : t.Rooted) (rooted' : t'.Rooted) (names : List String) :
    t'.resolveSteps names = t.resolveSteps names := by
  obtain ⟨more, places, new⟩ := rewrites.places
  have none_ : (more.map t'.stepsAt).sum = 0 := by
    clear places
    induction more with
    | nil => rfl
    | cons q more ih =>
      obtain ⟨absent, later⟩ := List.forall_mem_cons.mp new
      have here : t'.stepsAt q = 0 := by rw [rewrites.stepsAt_eq, stepsAt, absent]
      simp [here, ih later]
  have same : t.places.map t'.stepsAt = t.places.map t.stepsAt :=
    List.map_congr_left fun q _ => rewrites.stepsAt_eq q
  rw [FileTree.resolveSteps_eq, FileTree.resolveSteps_eq, stepsLeft_eq_sum distinct rooted,
    stepsLeft_eq_sum distinct' rooted', places, List.map_append, List.sum_append, same,
    none_]
  rfl

/-- A path is resolved as it was, if the place that it was resolved to can be asked for. -/
theorem resolve_again (rewrites : Rewrites fileAt t t') (distinct : t.Distinct)
    (distinct' : t'.Distinct) (rooted : t.Rooted) (rooted' : t'.Rooted)
    (resolved : t.resolve s p = .ok place) (found : t'.status s (pathOf place) = .ok (q, node)) :
    t'.resolve s p = .ok place := by
  obtain ⟨r, before, rfl⟩ := resolve_eq_ok resolved
  unfold resolve
  rw [rewrites.resolveSteps_eq distinct distinct' rooted rooted',
    resolveFrom_congr fun _ _ => rewrites.link_iff, before]
  simp [found]

end Rewrites

/-! ### Names of resolved places -/

theorem textual_normalize {here : Location} {names : List String}
    (above : ∀ name ∈ here, Path.Textual name) (textual : ∀ name ∈ names, Path.Textual name) :
    ∀ name ∈ normalize here names, Path.Textual name := by
  induction names generalizing here with
  | nil => exact above
  | cons first rest ih =>
    obtain ⟨own, later⟩ := List.forall_mem_cons.mp textual
    unfold normalize
    refine ih ?_ later
    split
    · exact fun name member => above name ((List.dropLast_sublist here).subset member)
    · exact List.forall_mem_append.mpr ⟨above, by simpa using own⟩

/-- Places that are known for links have names that texts can hold. -/
def Seen.Textual (seen : Seen) : Prop :=
  ∀ q place, seen.lookup q = some (some place) → ∀ name ∈ place, Path.Textual name

theorem Seen.Textual.pending {seen : Seen} (textual : seen.Textual) (q : Location) :
    Seen.Textual ((q, none) :: seen) := by
  intro r place held
  rcases lookup_cons_some held with ⟨-, absurd_⟩ | ⟨-, before⟩
  · contradiction
  · exact textual r place before

theorem Seen.Textual.known {seen : Seen} (textual : seen.Textual) (q : Location)
    (own : ∀ name ∈ place, Path.Textual name) : Seen.Textual ((q, some place) :: seen) := by
  intro r place' held
  rcases lookup_cons_some held with ⟨-, same⟩ | ⟨-, before⟩
  · cases same
    exact own
  · exact textual r place' before

theorem resolveFrom_textual {fuel : Nat} {seen : Seen} {here : Location} {names : List String}
    {r : Resolved} (known : seen.Textual) (above : ∀ name ∈ here, Path.Textual name)
    (textual : ∀ name ∈ names, Path.Textual name)
    (resolved : t.resolveFrom fuel seen here names = .ok r) :
    (∀ name ∈ r.place, Path.Textual name) ∧ r.seen.Textual := by
  -- a link is followed with less fuel, and what it led to is kept for the names behind it
  induction fuel generalizing seen here names r with
  | zero =>
    cases resolved
    exact ⟨above, known⟩
  | succ fuel ih =>
    cases names with
    | nil =>
      cases resolved
      exact ⟨above, known⟩
    | cons name rest =>
      obtain ⟨own, later⟩ := List.forall_mem_cons.mp textual
      have next : ∀ other ∈ here ++ [name], Path.Textual other :=
        List.forall_mem_append.mpr ⟨above, by simpa using own⟩
      unfold resolveFrom at resolved
      split at resolved
      · have earlier : ∀ other ∈ here.dropLast, Path.Textual other := fun other member =>
          above other ((List.dropLast_sublist here).subset member)
        exact ih known earlier later resolved
      split at resolved
      · contradiction
      extract_lets place at resolved
      split at resolved
      · rename_i target link
        split at resolved
        · rename_i place' met
          exact ih known (known _ place' met) later resolved
        · cases resolved
          exact ⟨textual_normalize next later, known⟩
        · rename_i unmet
          rw [bind_eq_ok_iff] at resolved
          obtain ⟨inner, followed, resolved⟩ := resolved
          have target_ : ∀ other ∈ (targetOf here target).2, Path.Textual other := fun other =>
            Path.textual_of_mem_ofText
          have start : ∀ other ∈ (targetOf here target).1, Path.Textual other := by
            simp only [targetOf]
            split
            · simp
            · exact above
          obtain ⟨inside, seen'⟩ := ih (known.pending place) start target_ followed
          split at resolved
          · exact ih (seen'.known place inside) inside later resolved
          · cases resolved
            exact ⟨textual_normalize inside later, seen'⟩
      · exact ih known next later resolved

theorem resolve_textual (working : ∀ name ∈ s.workingDirectory, Path.Textual name)
    (textual : ∀ name ∈ p.names, Path.Textual name) (resolved : t.resolve s p = .ok place) :
    ∀ name ∈ place, Path.Textual name := by
  obtain ⟨r, found, rfl⟩ := resolve_eq_ok resolved
  refine (resolveFrom_textual (by simp [Seen.Textual]) ?_ textual found).1
  unfold origin
  split
  · simp
  · exact working

/-! ### Writing a file -/

/-- A file is written where one is, or at a free place; its path leads there. -/
theorem write_ok (rooted : t.Rooted) (written : t.write s p bytes = .ok w) :
    ∃ q, q ≠ [] ∧ (t.find? q = none ∨ ∃ own, t.find? q = some (.file own)) ∧
      w = t.insert q (.file bytes) ∧ w.Rooted ∧ KeepsWays t w ∧
      w.status s p = .ok (q, .file bytes) := by
  unfold FileTree.write at written
  split at written
  · rename_i q own found
    cases written
    have status : t.status s p = .ok (q, .file own) := by simp [FileTree.status, found]
    have held := holds_of_status status
    have named : q ≠ [] := by
      rintro rfl
      simp at held
    have ways : KeepsWays t (t.insert q (.file bytes)) :=
      keepsWays_insert named _ fun node there => ⟨own, by simpa [held] using there.symm⟩
    obtain ⟨here, name, same, follows, above⟩ := rooted.above _ (mem_of_find? named held)
    refine ⟨q, named, .inr ⟨own, held⟩, rfl, ?_, ways, ?_⟩
    · rw [show q = here ++ [name] from same] at held ⊢
      exact rooted.insert follows above _ (by simp [held])
    · exact status_rewritten ways status (by simp [find?_insert _ named])
  · contradiction
  · rename_i q free
    cases written
    obtain ⟨absent, rooted', ways, held⟩ := insert_free rooted free (.file bytes)
    obtain ⟨clean, reached⟩ := spot_eq_ok_iff.mp free
    refine ⟨q, ?_, .inl absent, rfl, rooted', ways, ?_⟩
    · rintro rfl
      simp at absent
    · exact status_eq_ok_iff.mpr ⟨clean, reached.filled ways held (by simp)⟩
  · contradiction

end Bindery.FileTree

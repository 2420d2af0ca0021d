import Bindery.Proofs.FileTree.Following

/- What is made. Directories are made at free places only, so making them lets a tree grow, and a path
   that was made leads to a directory. Below a directory without links the outcome depends only on
   what stands on the way. -/
namespace Bindery

@[simp] theorem Path.join_nil (p : Path) : p.join { names := [] } = p := by
  simp [Path.join, Path.isAbsolute]

theorem Path.parent_join_snoc (p : Path) (names : List String) (name : String) :
    (p.join { names := names ++ [name] }).parent = p.join { names := names } := by
  simp [Path.join, Path.isAbsolute, Path.parent, ← List.append_assoc]

namespace FileTree

variable {t t' : FileTree} {s : Surroundings} {p base : Path} {place : Location}

/-- No file is new. -/
def noFile (_ : Location) : Prop := False

/-! ### Single steps -/

theorem insert_free {last : Bool} (rooted : t.Rooted)
    (free : t.spot s p last = .ok (.free place)) (node : Node) :
    t.find? place = none ∧ (t.insert place node).Rooted ∧ KeepsWays t (t.insert place node) ∧
      (t.insert place node).find? place = some node := by
  obtain ⟨-, reached⟩ := spot_eq_ok_iff.mp free
  obtain ⟨absent, here, name, rfl, follows, above⟩ := reached.holds
  refine ⟨absent, rooted.insert follows above node (by simp [absent]), ?_, ?_⟩
  · exact keepsWays_insert (by simp) node (by simp [absent])
  · simp [find?_insert t]

theorem makeDirectory_ok (rooted : t.Rooted) (made : t.makeDirectory s p = .ok t') :
    Grows noFile t t' ∧ t'.Rooted ∧ (t.Distinct → t'.Distinct) ∧
      ∃ place, t'.status s p = .ok (place, .dir) := by
  unfold makeDirectory at made
  split at made
  · contradiction
  · rename_i place free
    cases made
    obtain ⟨absent, rooted', ways, held⟩ := insert_free rooted free .dir
    obtain ⟨clean, reached⟩ := spot_eq_ok_iff.mp free
    refine ⟨(Grows.refl t).insert absent (.inl rfl), rooted', fun distinct => distinct.insert _ _, place,
      ?_⟩
    exact status_eq_ok_iff.mpr ⟨clean, reached.free_of_stays.filled ways held (by simp)⟩
  · contradiction

theorem unlessDirectory_ok {fault : FileFault} (accepted : t.unlessDirectory s p fault = .ok t') :
    t' = t ∧ ∃ place, t.status s p = .ok (place, .dir) := by
  unfold unlessDirectory isDirectory at accepted
  cases found : t.status? s p with
  | error fault => simp [found, bind, Except.bind] at accepted
  | ok found' =>
    rcases found' with _ | ⟨place, node⟩
    · simp [found, bind, Except.bind, pure, Except.pure] at accepted
    · cases node with
      | dir =>
        simp only [found, bind, Except.bind, pure, Except.pure, ↓reduceIte, Except.ok.injEq] at accepted
        exact ⟨accepted.symm, place, status?_eq_some_iff.mp found⟩
      | file bytes => simp [found, bind, Except.bind, pure, Except.pure] at accepted
      | link target => simp [found, bind, Except.bind, pure, Except.pure] at accepted

/-! ### Directories -/

/-- What comes of making the directories of a path, also when that is refused on the way. -/
structure Made (t : FileTree) (s : Surroundings) (p : Path) (r : FileTree × Option FileFault) :
    Prop where
  grows : Grows noFile t r.1
  rooted : r.1.Rooted
  distinct : t.Distinct → r.1.Distinct
  leads : r.2 = none → ∃ place, r.1.status s p = .ok (place, .dir)

namespace Made

variable {r : FileTree × Option FileFault}

theorem refused (rooted : t.Rooted) (fault : FileFault) : Made t s p (t, some fault) :=
  ⟨.refl t, rooted, id, by simp⟩

theorem one (rooted : t.Rooted) (made : t.makeDirectory s p = .ok t') : Made t s p (t', none) := by
  obtain ⟨grows, rooted', distinct, leads⟩ := makeDirectory_ok rooted made
  exact ⟨grows, rooted', distinct, fun _ => leads⟩

theorem accepted {fault : FileFault} (rooted : t.Rooted)
    (there : t.unlessDirectory s p fault = .ok t') : Made t s p (t', none) := by
  obtain ⟨rfl, leads⟩ := unlessDirectory_ok there
  exact ⟨.refl t', rooted, id, fun _ => leads⟩

theorem after (before : Grows noFile t t') (kept : t.Distinct → t'.Distinct) (made : Made t' s p r) :
    Made t s p r :=
  ⟨before.trans made.grows, made.rooted, fun distinct => made.distinct (kept distinct), made.leads⟩

end Made

theorem makeDirectories_made (rooted : t.Rooted) (p : Path) (fuel : Nat) :
    Made t s p (t.makeDirectories s p fuel) := by
  induction fuel generalizing t p with
  | zero => exact .refused rooted _
  | succ fuel ih =>
    unfold makeDirectories
    split
    · rename_i t' made
      exact .one rooted made
    · split
      · split
        · exact .refused rooted _
        · have parent := ih rooted p.parent
          split
          · rename_i t' fault above
            rw [above] at parent
            exact ⟨parent.grows, parent.rooted, parent.distinct, by simp⟩
          · rename_i t' above
            rw [above] at parent
            refine .after parent.grows parent.distinct ?_
            split
            · rename_i made
              exact .one parent.rooted made
            · split
              · rename_i there
                exact .accepted parent.rooted there
              · exact .refused parent.rooted _
      · split
        · rename_i there
          exact .accepted rooted there
        · exact .refused rooted _

theorem ensureDirectory_made (rooted : t.Rooted) {r : FileTree × Option FileFault}
    (made : t.ensureDirectory s p = r) : Made t s p r := by
  rw [← made]
  exact makeDirectories_made rooted p _

/-! ### Below a directory without links -/

/-- A path leads to a directory of a rooted tree with no link in it. -/
structure Site (t : FileTree) (s : Surroundings) (base : Path) (place : Location) : Prop where
  rooted : t.Rooted
  leads : t.status s base = .ok (place, .dir)
  noLink : ∀ names target, t.find? (place ++ names) ≠ some (.link target)

/-- A path that leads somewhere ends at an entry also when its last link is not followed. -/
theorem Reaches.stays {n : Nat} {here place : Location} {names : List String} {node : Node}
    (reached : t.Reaches true n here names (.found place node)) :
    ∃ place' node', t.Reaches false n here names (.found place' node') := by
  generalize stop : Spot.found place node = spot at reached
  induction reached with
  | here held => exact ⟨_, _, .here held⟩
  | up above _ ih =>
    obtain ⟨place', node', reached⟩ := ih stop
    exact ⟨place', node', .up above reached⟩
  | free _ _ _ => contradiction
  | link _ _ _ stays => contradiction
  | @through n here name target rest spot above follows link _ _ ih =>
    obtain ⟨place', node', reached⟩ := ih stop
    by_cases atEnd : rest = []
    · subst atEnd
      exact ⟨_, _, .link above follows link rfl⟩
    · exact ⟨place', node', .through above follows link (fun none_ => absurd none_ atEnd) reached⟩
  | down above follows dir _ ih =>
    obtain ⟨place', node', reached⟩ := ih stop
    exact ⟨place', node', .down above follows dir reached⟩
  | file above follows held => exact ⟨_, _, .file above follows held⟩

namespace Site

variable {names : List String} {name : String} {last : Bool}

theorem dir (site : t.Site s base place) : t.find? place = some .dir := by
  obtain ⟨-, reached⟩ := status_eq_ok_iff.mp site.leads
  exact reached.holds

theorem keep (site : t.Site s base place) (ways : KeepsWays t t') (rooted : t'.Rooted)
    (links : ∀ q target, t'.find? q = some (.link target) → t.find? q = some (.link target)) :
    t'.Site s base place :=
  ⟨rooted, status_kept ways site.leads (ways.dir site.dir),
    fun names target held => site.noLink names target (links _ _ held)⟩

theorem grow {fileAt : Location → Prop} (site : t.Site s base place) (grows : Grows fileAt t t')
    (rooted : t'.Rooted) : t'.Site s base place :=
  site.keep grows.keepsWays rooted fun _ _ => grows.link_iff.mp

theorem spot_base (site : t.Site s base place) :
    ∃ place' node, t.spot s base false = .ok (.found place' node) := by
  obtain ⟨clean, reached⟩ := status_eq_ok_iff.mp site.leads
  obtain ⟨place', node, reached⟩ := reached.stays
  exact ⟨place', node, spot_eq_ok_iff.mpr ⟨clean, reached⟩⟩

theorem spot_found (site : t.Site s base place) (named : names ≠ []) {node : Node}
    (held : t.find? (place ++ names) = some node) :
    t.spot s (base.join { names := names }) last = .ok (.found (place ++ names) node) := by
  obtain ⟨m, same⟩ := spot_join site.leads
  rw [same last names (fun name member => (site.rooted.followable held name member).noNull)
    (fun none_ => absurd none_ named), follow_eq_ok_iff]
  refine site.rooted.reaches held fun _ target link => site.noLink names target ?_
  rw [held, link]

theorem spot_free (site : t.Site s base place) (follows : Followable name)
    (above : t.find? (place ++ names) = some .dir)
    (absent : t.find? (place ++ names ++ [name]) = none) :
    t.spot s (base.join { names := names ++ [name] }) last =
      .ok (.free (place ++ names ++ [name])) := by
  obtain ⟨m, same⟩ := spot_join site.leads
  have clean : ∀ other ∈ names ++ [name], '\x00' ∉ other.toList := by
    simp only [List.mem_append, List.mem_singleton]
    rintro other (member | rfl)
    · exact (site.rooted.followable above other member).noNull
    · exact follows.noNull
  rw [same last _ clean (by simp), follow_eq_ok_iff]
  exact site.rooted.reaches_free above follows absent

theorem spot_missing (site : t.Site s base place) (follows : ∀ other ∈ names ++ [name], Followable other)
    (clear : ∀ k, t.find? (place ++ names.take k) = none ∨ t.find? (place ++ names.take k) = some .dir)
    (absent : t.find? (place ++ names) = none) :
    t.spot s (base.join { names := names ++ [name] }) last = .error .noEntry := by
  obtain ⟨m, same⟩ := spot_join site.leads
  rw [same last _ (fun other member => (follows other member).noNull) (by simp)]
  exact follow_missing site.dir (fun other member => follows other (by simp [member])) clear absent

theorem status (site : t.Site s base place) {node : Node}
    (held : t.find? (place ++ names) = some node) :
    t.status s (base.join { names := names }) = .ok (place ++ names, node) := by
  by_cases top : names = []
  · subst top
    rw [List.append_nil, site.dir] at held
    cases held
    simpa using site.leads
  · rw [FileTree.status, site.spot_found top held]

/-- A directory that is there already is accepted. -/
theorem accepts (site : t.Site s base place) (held : t.find? (place ++ names) = some .dir)
    (fuel : Nat) :
    t.makeDirectories s (base.join { names := names }) (fuel + 1) = (t, none) := by
  have there : ∃ place' node,
      t.spot s (base.join { names := names }) false = .ok (.found place' node) := by
    by_cases top : names = []
    · simpa [top] using site.spot_base
    · exact ⟨_, _, site.spot_found top held⟩
  obtain ⟨place', node, there⟩ := there
  have accepted : ∀ fault, t.unlessDirectory s (base.join { names := names }) fault = .ok t :=
    fun fault => by
      simp [FileTree.unlessDirectory, isDirectory, status?, site.status held, bind, Except.bind, pure,
        Except.pure]
  simp [makeDirectories, makeDirectory, there, accepted]

theorem ensured (site : t.Site s base place) : t.ensureDirectory s base = (t, none) := by
  have dir : t.find? (place ++ []) = some .dir := by simpa using site.dir
  simpa [ensureDirectory] using site.accepts dir base.names.length

/-- A missing directory is made where the one above it is. -/
theorem makeDirectory (site : t.Site s base place) (follows : Followable name)
    (above : t.find? (place ++ names) = some .dir)
    (absent : t.find? (place ++ names ++ [name]) = none) :
    t.makeDirectory s (base.join { names := names ++ [name] }) =
      .ok (t.insert (place ++ names ++ [name]) .dir) := by
  simp [FileTree.makeDirectory, site.spot_free follows above absent]

/-- A path below a site ends at the place under its names, whether something is there or not. -/
theorem place_of_spot (site : t.Site s base place) (notUp : ∀ name ∈ names, name ≠ "..")
    (ends : names = [] → last = true) {spot : Spot}
    (found : t.spot s (base.join { names := names }) last = .ok spot) :
    spot.place = place ++ names := by
  obtain ⟨m, same⟩ := spot_join site.leads
  obtain ⟨clean, -⟩ := spot_eq_ok_iff.mp found
  have null : ∀ name ∈ names, '\x00' ∉ name.toList := fun name member =>
    clean name (by simp [Path.join, Path.isAbsolute, member])
  rw [same last names null ends, follow_eq_ok_iff] at found
  exact found.place_eq notUp site.noLink

/-- A path below a site leads to the place under its names. -/
theorem place_of_status (site : t.Site s base place) (notUp : ∀ name ∈ names, name ≠ "..")
    {q : Location} {node : Node} (found : t.status s (base.join { names := names }) = .ok (q, node)) :
    q = place ++ names :=
  site.place_of_spot notUp (fun _ => rfl) (spot_eq_ok_iff.mpr (status_eq_ok_iff.mp found))

/-- What a path below a site leads to is what stands under its names. -/
theorem find?_of_status (site : t.Site s base place) (notUp : ∀ name ∈ names, name ≠ "..")
    {q : Location} {node : Node} (found : t.status s (base.join { names := names }) = .ok (q, node)) :
    t.find? (place ++ names) = some node := by
  have held : t.find? q = some node := holds_of_status found
  rwa [site.place_of_status notUp found] at held

/-- A file is written where its directory is and no directory is in its place. -/
theorem write_eq_ok_iff (site : t.Site s base place) (follows : Followable name)
    (above : t.find? (place ++ names) = some .dir) {bytes : List UInt8} :
    t.write s (base.join { names := names ++ [name] }) bytes = .ok t' ↔
      t.find? (place ++ names ++ [name]) ≠ some .dir ∧
        t' = t.insert (place ++ names ++ [name]) (.file bytes) := by
  unfold FileTree.write
  cases held : t.find? (place ++ names ++ [name]) with
  | none => simp [site.spot_free follows above held, eq_comm]
  | some node =>
    have spot : t.spot s (base.join { names := names ++ [name] }) =
        .ok (.found (place ++ names ++ [name]) node) := by
      rw [List.append_assoc] at held ⊢
      exact site.spot_found (by simp) held
    cases node with
    | dir => simp [spot]
    | file own => simp [spot, eq_comm]
    | link target =>
      rw [List.append_assoc] at held
      exact absurd held (site.noLink _ _)

end Site

/-- All directories on the way down some names are there, and nothing else has changed. -/
structure Paved (t t' : FileTree) (place : Location) (names : List String) : Prop where
  dirs : ∀ k, t'.find? (place ++ names.take k) = some .dir
  rest : ∀ q, (∀ k, q ≠ place ++ names.take k) → t'.find? q = t.find? q

theorem take_snoc {α : Type} (xs : List α) (x : α) (k : Nat) :
    (xs ++ [x]).take (min k xs.length) = xs.take k := by
  rw [List.take_append_of_le_length (by omega)]
  simp [List.take_eq_take_iff]

namespace Paved

variable {names : List String} {name : String}

theorem whole (paved : Paved t t' place names) : t'.find? (place ++ names) = some .dir := by
  simpa using paved.dirs names.length

/-- What is behind the names is as it was. -/
theorem behind (paved : Paved t t' place names) :
    t'.find? (place ++ names ++ [name]) = t.find? (place ++ names ++ [name]) := by
  refine paved.rest _ fun k same => ?_
  have := congrArg List.length same
  simp only [List.length_append, List.length_take, List.length_singleton] at this
  omega

theorem snoc (paved : Paved t t' place names) :
    Paved t (t'.insert (place ++ names ++ [name]) .dir) place (names ++ [name]) := by
  constructor
  · intro k
    rw [find?_insert _ (by simp)]
    by_cases onWay : k ≤ names.length
    · rw [List.take_append_of_le_length onWay]
      split
      · rfl
      · exact paved.dirs k
    · rw [List.take_of_length_le (by simp; omega), ← List.append_assoc, if_pos rfl]
  · intro q other
    have last : q ≠ place ++ names ++ [name] := by
      simpa only [List.take_length, List.append_assoc] using other (names ++ [name]).length
    rw [find?_insert _ (by simp), if_neg last]
    refine paved.rest q fun k same => other (min k names.length) ?_
    rw [take_snoc, same]

end Paved

/-- Below a site directories are made wherever no file is in the way, and nothing else changes. -/
theorem Site.makes (site : t.Site s base place) {names : List String}
    (follows : ∀ name ∈ names, Followable name)
    (clear : ∀ k, t.find? (place ++ names.take k) = none ∨ t.find? (place ++ names.take k) = some .dir)
    {fuel : Nat} (enough : names.length < fuel) :
    ∃ t', t.makeDirectories s (base.join { names := names }) fuel = (t', none) ∧
      Paved t t' place names := by
  induction names using List.reverseRecOn generalizing fuel with
  | nil =>
    obtain ⟨fuel, rfl⟩ := Nat.exists_eq_add_one_of_ne_zero (show fuel ≠ 0 by omega)
    exact ⟨t, site.accepts (by simpa using site.dir) fuel, by simpa using site.dir, fun _ _ => rfl⟩
  | append_singleton names name ih =>
    obtain ⟨fuel, rfl⟩ := Nat.exists_eq_add_one_of_ne_zero (show fuel ≠ 0 by omega)
    have follows' : Followable name := follows name (by simp)
    have clear' : ∀ k, t.find? (place ++ names.take k) = none ∨
        t.find? (place ++ names.take k) = some .dir := by
      intro k
      have onWay := clear (min k names.length)
      rwa [take_snoc] at onWay
    have whole := clear (names ++ [name]).length
    rw [List.take_length, ← List.append_assoc] at whole
    rcases whole with absent | held
    swap
    · exact ⟨t, site.accepts (by simpa using held) fuel,
        site.rooted.dir_take (by simpa using held), fun _ _ => rfl⟩
    have above := clear' names.length
    rw [List.take_length] at above
    rcases above with missing | dir
    · have enough' : names.length < fuel := by simpa using enough
      obtain ⟨t', made, paved⟩ :=
        ih (fun other member => follows other (by simp [member])) clear' enough'
      have grown := makeDirectories_made (s := s) site.rooted (base.join { names := names }) fuel
      rw [made] at grown
      have site' : t'.Site s base place := site.grow grown.grows grown.rooted
      have last := site'.makeDirectory follows' paved.whole (paved.behind.trans absent)
      refine ⟨_, ?_, paved.snoc⟩
      have refused : t.makeDirectory s (base.join { names := names ++ [name] }) =
          .error ⟨.noEntry, base.join { names := names ++ [name] }⟩ := by
        simp [FileTree.makeDirectory, site.spot_missing follows clear' missing]
      have named : (base.join { names := names ++ [name] }).names ≠ [] := by
        simp [Path.join, Path.isAbsolute]
      simp [makeDirectories, refused, named, Path.parent_join_snoc, made, last]
    · have paved : Paved t t place names := ⟨site.rooted.dir_take dir, fun _ _ => rfl⟩
      refine ⟨_, ?_, paved.snoc⟩
      simp [makeDirectories, site.makeDirectory follows' dir absent]

end FileTree
end Bindery

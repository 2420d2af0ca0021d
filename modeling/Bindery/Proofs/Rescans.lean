import Bindery.Generation
import Bindery.Proofs.FileTree.Rewriting
import Mathlib.Data.List.Basic

/- Scanning a tree that was written to. New directories are no files, and files that were written are
   hidden where they lie below the output directory; so the settings, the rules and the source files
   are found again as they were. The exception are links: they may lead to what was written. -/
namespace Bindery

namespace Scan

/-! ### Tests that may fail -/

variable {α ε : Type} {test test' : α → Except ε Bool}

theorem keep_congr {as bs : List α} (same : ∀ a ∈ as, ∀ b, test a = .ok b → test' a = .ok b)
    (kept : keep test as = .ok bs) : keep test' as = .ok bs := by
  induction as generalizing bs with
  | nil => exact kept
  | cons a as ih =>
    obtain ⟨here, later⟩ := List.forall_mem_cons.mp same
    simp only [keep, bind_eq_ok_iff, pure, Except.pure, Except.ok.injEq] at kept ⊢
    obtain ⟨b, tested, more, rest, result⟩ := kept
    exact ⟨b, here b tested, more, ih later rest, result⟩

theorem keep_append {as bs cs : List α} (kept : keep test as = .ok bs)
    (none_ : ∀ c ∈ cs, test c = .ok false) : keep test (as ++ cs) = .ok bs := by
  induction as generalizing bs with
  | nil =>
    cases kept
    induction cs with
    | nil => rfl
    | cons c cs ih =>
      obtain ⟨here, later⟩ := List.forall_mem_cons.mp none_
      simp [keep, here, show keep test cs = .ok [] from ih later, bind, Except.bind, pure, Except.pure]
  | cons a as ih =>
    simp only [List.cons_append, keep, bind_eq_ok_iff, pure, Except.pure, Except.ok.injEq] at kept ⊢
    obtain ⟨b, tested, more, rest, result⟩ := kept
    exact ⟨b, tested, more, ih rest, result⟩

theorem mem_of_keep {as bs : List α} (kept : keep test as = .ok bs) {a : α} (member : a ∈ bs) :
    a ∈ as ∧ test a = .ok true := by
  induction as generalizing bs with
  | nil =>
    cases kept
    simp at member
  | cons a' as ih =>
    simp only [keep, bind_eq_ok_iff, pure, Except.pure, Except.ok.injEq] at kept
    obtain ⟨b, tested, more, rest, rfl⟩ := kept
    cases b with
    | false =>
      obtain ⟨inRest, holds⟩ := ih rest (by simpa using member)
      exact ⟨List.mem_cons_of_mem _ inRest, holds⟩
    | true =>
      rcases List.mem_cons.mp (by simpa using member) with rfl | later
      · exact ⟨by simp, tested⟩
      · obtain ⟨inRest, holds⟩ := ih rest later
        exact ⟨List.mem_cons_of_mem _ inRest, holds⟩

theorem mem_keep {as bs : List α} (kept : keep test as = .ok bs) {a : α} (member : a ∈ as)
    (holds : test a = .ok true) : a ∈ bs := by
  induction as generalizing bs with
  | nil => simp at member
  | cons a' as ih =>
    simp only [keep, bind_eq_ok_iff, pure, Except.pure, Except.ok.injEq] at kept
    obtain ⟨b, tested, more, rest, rfl⟩ := kept
    rcases List.mem_cons.mp member with rfl | later
    · obtain rfl : b = true := by simpa [holds] using tested.symm
      simp
    · have inMore := ih rest later
      cases b <;> simp [inMore]

end Scan

open FileTree

variable {t u : FileTree} {s : Surroundings} {root p : Path} {top : Location}
  {fileAt : Location → Prop}

/-! ### What lies below the root -/

theorem isBelow_iff {q : Location} : isBelow top q = true ↔ ∃ names, names ≠ [] ∧ q = top ++ names := by
  simp only [isBelow, Bool.and_eq_true, List.isPrefixOf_iff_prefix, decide_eq_true_eq]
  constructor
  · rintro ⟨⟨names, rfl⟩, longer⟩
    refine ⟨names, ?_, rfl⟩
    rintro rfl
    simp at longer
  · rintro ⟨names, named, rfl⟩
    have := List.length_pos_iff.mpr named
    exact ⟨List.prefix_append top names, by simp; omega⟩

/-- The paths of entries below a place under names for which `named` holds. -/
def pathsBelow (es : List (Location × Node)) (top : Location) (named : String → Bool) : List Path :=
  (es.filter fun x => isBelow top x.1).filterMap fun found =>
    if (found.1.getLast?.map named).getD false
    then some { names := found.1.drop top.length } else none

theorem below_eq (leads : t.status s root = .ok (top, .dir)) (named : String → Bool) :
    Scan.below t s root named = .ok (pathsBelow t.entries top named) := by
  simp [Scan.below, status?_eq_some_iff.mpr leads, bind, Except.bind, pure, Except.pure, pathsBelow,
    FileTree.below]

theorem pathsBelow_append (es es' : List (Location × Node)) (named : String → Bool) :
    pathsBelow (es ++ es') top named = pathsBelow es top named ++ pathsBelow es' top named := by
  simp [pathsBelow]

theorem mem_pathsBelow {es : List (Location × Node)} {named : String → Bool} :
    p ∈ pathsBelow es top named ↔
      ∃ names name node, p = { names := names ++ [name] } ∧ named name = true ∧
        (top ++ (names ++ [name]), node) ∈ es := by
  simp only [pathsBelow, List.mem_filterMap, List.mem_filter]
  constructor
  · rintro ⟨⟨q, node⟩, ⟨inTree, below⟩, own⟩
    obtain ⟨names, notEmpty, rfl⟩ := isBelow_iff.mp below
    obtain ⟨names, name, rfl⟩ := (List.eq_nil_or_concat' names).resolve_left notEmpty
    split at own
    · rename_i holds
      refine ⟨names, name, node, ?_, ?_, inTree⟩
      · simpa [eq_comm] using own
      · simpa [← List.append_assoc] using holds
    · contradiction
  · rintro ⟨names, name, node, rfl, holds, inTree⟩
    refine ⟨_, ⟨inTree, isBelow_iff.mpr ⟨names ++ [name], by simp, rfl⟩⟩, ?_⟩
    have last : (top ++ (names ++ [name])).getLast? = some name := by simp [← List.append_assoc]
    simp [last, holds]

/-- Only the places count. -/
theorem pathsBelow_congr {es es' : List (Location × Node)} {named : String → Bool}
    (same : es'.map Prod.fst = es.map Prod.fst) : pathsBelow es' top named = pathsBelow es top named := by
  have byPlaces : ∀ es : List (Location × Node), pathsBelow es top named =
      ((es.map Prod.fst).filter (isBelow top)).filterMap fun q =>
        if (q.getLast?.map named).getD false then some { names := q.drop top.length } else none := by
    intro es
    rw [List.filter_map, List.filterMap_map]
    rfl
  rw [byPlaces, byPlaces, same]

/-! ### Tests of files -/

def isFileNode : Node → Bool
  | .file _ => true
  | _ => false

def isLinkNode : Node → Bool
  | .link _ => true
  | _ => false

theorem isFile_of_asked {found : Option (Location × Node)} (asked : t.status? s p = .ok found) :
    t.isFile s p = .ok (found.any fun x => isFileNode x.2) := by
  rcases found with _ | ⟨q, node⟩
  · simp [isFile, asked, bind, Except.bind, pure, Except.pure]
  · cases node <;> simp [isFile, asked, isFileNode, bind, Except.bind, pure, Except.pure]

theorem isLink_of_asked {found : Option (Location × Node)}
    (asked : t.status? s p false = .ok found) :
    t.isLink s p = .ok (found.any fun x => isLinkNode x.2) := by
  rcases found with _ | ⟨q, node⟩
  · simp [isLink, asked, bind, Except.bind, pure, Except.pure]
  · cases node <;> simp [isLink, asked, isLinkNode, bind, Except.bind, pure, Except.pure]

/-- What stands below the root is a plain file exactly if it is a file. -/
theorem isPlainFile_of_held (rooted : t.Rooted) (leads : t.status s root = .ok (top, .dir))
    {names : List String} (named : names ≠ []) {node : Node}
    (held : t.find? (top ++ names) = some node) (noLink : ∀ target, node ≠ .link target) :
    Scan.isPlainFile t s (root.join { names := names }) = .ok (isFileNode node) := by
  have asked : ∀ last, t.status? s (root.join { names := names }) last =
      .ok (some (top ++ names, node)) := fun last =>
    status?_eq_some_iff.mpr (status_join rooted leads held (fun _ => noLink) named)
  simp only [Scan.isPlainFile, isFile_of_asked (asked true), isLink_of_asked (asked false), bind,
    Except.bind, pure, Except.pure]
  cases node <;> simp [isFileNode, isLinkNode] at noLink ⊢

/-- A link is no plain file, if it can be asked where it leads. -/
theorem isPlainFile_of_link (rooted : t.Rooted) (leads : t.status s root = .ok (top, .dir))
    {names : List String} (named : names ≠ []) {target : String}
    (held : t.find? (top ++ names) = some (.link target)) {found : Option (Location × Node)}
    (asked : t.status? s (root.join { names := names }) = .ok found) :
    Scan.isPlainFile t s (root.join { names := names }) = .ok false := by
  have itself : t.status? s (root.join { names := names }) false =
      .ok (some (top ++ names, .link target)) :=
    status?_eq_some_iff.mpr (status_join rooted leads held (by simp) named)
  simp [Scan.isPlainFile, isFile_of_asked asked, isLink_of_asked itself, isLinkNode, bind,
    Except.bind, pure, Except.pure]

theorem read_eq_ok_iff {bytes : List UInt8} :
    t.read s p = .ok bytes ↔ ∃ q, t.status s p = .ok (q, .file bytes) := by
  unfold FileTree.read
  rw [bind_eq_ok_iff]
  constructor
  · rintro ⟨⟨q, node⟩, found, own⟩
    cases node with
    | file held =>
      cases own
      exact ⟨q, found⟩
    | dir => contradiction
    | link target => contradiction
  · rintro ⟨q, found⟩
    exact ⟨_, found, rfl⟩

theorem status_of_isPlainFile (plain : Scan.isPlainFile t s p = .ok true) :
    ∃ q bytes, t.status s p = .ok (q, .file bytes) := by
  simp only [Scan.isPlainFile, FileTree.isFile, bind_eq_ok_iff, pure, Except.pure, Except.ok.injEq,
    Bool.and_eq_true] at plain
  obtain ⟨b, ⟨found, asked, isFile⟩, -, -, rfl, -⟩ := plain
  rcases found with _ | ⟨q, node⟩
  · contradiction
  · cases node with
    | file bytes => exact ⟨q, bytes, status?_eq_some_iff.mp asked⟩
    | dir => simp at isFile
    | link target => simp at isFile

/-- A plain file below the root is what stands under its names. -/
theorem held_of_isPlainFile (rooted : t.Rooted) (leads : t.status s root = .ok (top, .dir))
    {names : List String} (named : names ≠ []) (inTree : (t.find? (top ++ names)).isSome = true)
    (plain : Scan.isPlainFile t s (root.join { names := names }) = .ok true) :
    ∃ bytes, t.find? (top ++ names) = some (.file bytes) ∧
      t.status s (root.join { names := names }) = .ok (top ++ names, .file bytes) := by
  obtain ⟨node, held⟩ := Option.isSome_iff_exists.mp inTree
  obtain ⟨q, bytes, found⟩ := status_of_isPlainFile plain
  cases node with
  | link target =>
    rw [isPlainFile_of_link rooted leads named held (status?_eq_some_iff.mpr found)] at plain
    contradiction
  | dir =>
    rw [isPlainFile_of_held rooted leads named held (by simp)] at plain
    contradiction
  | file own => exact ⟨own, held, status_join rooted leads held (by simp) named⟩

theorem staysWithin_of_status (rooted : t.Rooted) (leads : t.status s root = .ok (top, .dir))
    {q : Location} {bytes : List UInt8} (found : t.status s p = .ok (q, .file bytes)) :
    Scan.staysWithin t s root p = .ok (top.isPrefixOf q) := by
  simp [Scan.staysWithin, resolve_of_status rooted found (by simp),
    resolve_of_status rooted leads (by simp)]

/-! ### Links that are asked for again -/

/-- Names of files that a scan looks at wherever they are. -/
def isScanned (name : String) : Bool :=
  name == Scan.ignoreFileName || name.endsWith Scan.sourceExtension

/-- Links below the root that led nowhere have not come to matter: settings and rules of the root are
    no nearer, and other files that a scan looks at can still be asked for. -/
structure LinksStay (t u : FileTree) (s : Surroundings) (root : Path) (top : Location) : Prop where
  own : ∀ name ∈ [Settings.fileName, Scan.ignoreFileName], ∀ target,
    t.find? (top ++ [name]) = some (.link target) →
    t.status? s (root.child name) = .ok none → u.status? s (root.child name) = .ok none
  below : ∀ names name target, t.find? (top ++ (names ++ [name])) = some (.link target) →
    isScanned name = true → t.status? s (root.join { names := names ++ [name] }) = .ok none →
    ∃ found, u.status? s (root.join { names := names ++ [name] }) = .ok found

/-- A link of the root itself is found to lead where it led. -/
def Steady (t u : FileTree) (s : Surroundings) (root : Path) (top : Location) (name : String) : Prop :=
  ∀ target, t.find? (top ++ [name]) = some (.link target) → ∀ found,
    t.status? s (root.child name) = .ok found → u.status? s (root.child name) = .ok found

/-- Links of a name below the root that led nowhere can still be asked for. -/
def Askable (t u : FileTree) (s : Surroundings) (root : Path) (top : Location) (name : String) : Prop :=
  ∀ names target, t.find? (top ++ (names ++ [name])) = some (.link target) →
    t.status? s (root.join { names := names ++ [name] }) = .ok none →
    ∃ found, u.status? s (root.join { names := names ++ [name] }) = .ok found

/-- The links that a scan comes to look at, with or without rules in all directories. -/
structure LinksAgain (t u : FileTree) (s : Surroundings) (root : Path) (top : Location)
    (nested : Bool) : Prop where
  rules : nested = false → Steady t u s root top Scan.ignoreFileName
  nestedRules : nested = true → Askable t u s root top Scan.ignoreFileName
  sources : ∀ name, name.endsWith Scan.sourceExtension = true → Askable t u s root top name

theorem LinksStay.steady (links : LinksStay t u s root top) (grows : Grows fileAt t u) {name : String}
    (looked : name ∈ [Settings.fileName, Scan.ignoreFileName]) : Steady t u s root top name := by
  intro target held found asked
  cases found with
  | none => exact links.own name looked target held asked
  | some found => exact status?_eq_some_iff.mpr (grows.status_kept (status?_eq_some_iff.mp asked))

theorem LinksStay.again (links : LinksStay t u s root top) (grows : Grows fileAt t u) (nested : Bool) :
    LinksAgain t u s root top nested where
  rules _ := links.steady grows (by simp)
  nestedRules _ := fun names target held => links.below names _ target held (by simp [isScanned])
  sources name ends := fun names target held =>
    links.below names name target held (by simp [isScanned, ends])

/- In a tree without links none can come to matter. -/
section NoLinks

variable (noLinks : ∀ e ∈ t.entries, isLinkNode e.2 = false)
include noLinks

theorem noLink_of_noLinks {q : Location} (named : q ≠ []) (target : String) :
    t.find? q ≠ some (.link target) := by
  intro held
  simpa [isLinkNode] using noLinks _ (mem_of_find? named held)

theorem LinksStay.of_noLinks : LinksStay t u s root top where
  own _ _ target held := absurd held (noLink_of_noLinks noLinks (by simp) target)
  below _ _ target held := absurd held (noLink_of_noLinks noLinks (by simp) target)

theorem Steady.of_noLinks (name : String) : Steady t u s root top name :=
  fun target held => absurd held (noLink_of_noLinks noLinks (by simp) target)

theorem Askable.of_noLinks (name : String) : Askable t u s root top name :=
  fun _ target held => absurd held (noLink_of_noLinks noLinks (by simp) target)

theorem LinksAgain.of_noLinks (nested : Bool) : LinksAgain t u s root top nested :=
  ⟨fun _ => .of_noLinks noLinks _, fun _ => .of_noLinks noLinks _, fun _ _ => .of_noLinks noLinks _⟩

end NoLinks

/-! ### Trees that were written to -/

theorem child_eq_join (p : Path) (name : String) : p.child name = p.join { names := [name] } := by
  simp [Path.child, Path.join, Path.isAbsolute]

/-- A source tree, and what it has become by writing files. -/
structure Regrown (fileAt : Location → Prop) (t u : FileTree) (s : Surroundings) (root : Path)
    (top : Location) : Prop where
  rooted : t.Rooted
  rooted' : u.Rooted
  rewrites : Rewrites fileAt t u
  leads : t.status s root = .ok (top, .dir)

/-- A free place of the root leads nowhere. -/
theorem status?_free (leads : t.status s root = .ok (top, .dir)) {name : String}
    (follows : Followable name) (absent : t.find? (top ++ [name]) = none) :
    t.status? s (root.child name) = .ok none := by
  obtain ⟨m, same⟩ := spot_join leads
  have free : t.follow true m top [name] = .ok (.free (top ++ [name])) :=
    follow_eq_ok_iff.mpr (.free (holds_of_status leads) follows absent)
  have spot := same true [name] (by simpa using follows.noNull) (by simp)
  rw [free] at spot
  simp [child_eq_join, FileTree.status?, FileTree.status, spot, FileError.isAbsence]

namespace Regrown

theorem leads' (regrown : Regrown fileAt t u s root top) : u.status s root = .ok (top, .dir) :=
  regrown.rewrites.status_dir regrown.leads

/-- What the root has under a name is found as it was, unless a directory was made there. -/
theorem child_same (regrown : Regrown fileAt t u s root top) {name : String} (follows : Followable name)
    (closed : ¬ fileAt (top ++ [name])) (steady : Steady t u s root top name)
    {found : Option (Location × Node)} (asked : t.status? s (root.child name) = .ok found) :
    u.status? s (root.child name) = .ok found ∨
      found = none ∧ ∃ q, u.status? s (root.child name) = .ok (some (q, .dir)) := by
  have missing : t.find? (top ++ [name]) = none → found = none := by
    intro absent
    rw [status?_free regrown.leads follows absent] at asked
    cases asked
    rfl
  cases held : u.find? (top ++ [name]) with
  | none =>
    rw [missing (regrown.rewrites.absent held)]
    exact .inl (status?_free regrown.leads' follows held)
  | some node =>
    rcases regrown.rewrites.held_of_not closed held with old | ⟨absent, rfl⟩
    · by_cases link : ∃ target, node = .link target
      · obtain ⟨target, rfl⟩ := link
        exact .inl (steady target old found asked)
      · left
        have noLink : ∀ target, node ≠ .link target := fun target same => link ⟨target, same⟩
        have before : t.status s (root.join { names := [name] }) = .ok (top ++ [name], node) :=
          status_join regrown.rooted regrown.leads old (fun _ => noLink) (by simp)
        have after : u.status s (root.join { names := [name] }) = .ok (top ++ [name], node) :=
          status_join regrown.rooted' regrown.leads' held (fun _ => noLink) (by simp)
        rw [child_eq_join] at asked ⊢
        rw [← asked, status?_eq_some_iff.mpr before, status?_eq_some_iff.mpr after]
    · refine .inr ⟨missing absent, top ++ [name], ?_⟩
      rw [child_eq_join]
      exact status?_eq_some_iff.mpr
        (status_join regrown.rooted' regrown.leads' held (by simp) (by simp))

theorem load (regrown : Regrown fileAt t u s root top) {settings : Settings}
    (closed : ¬ fileAt (top ++ [Settings.fileName])) (steady : Steady t u s root top Settings.fileName)
    (loaded : Settings.load t s root = .ok settings) : Settings.load u s root = .ok settings := by
  unfold Settings.load at loaded ⊢
  simp only [bind_eq_ok_iff, mapError_eq_ok_iff] at loaded ⊢
  obtain ⟨found, asked, result⟩ := loaded
  rcases regrown.child_same (by decide) closed steady asked with same | ⟨rfl, q, dir⟩
  · exact ⟨found, same, result⟩
  · exact ⟨_, dir, result⟩

/-! #### Scans -/

theorem isPlainFile_same (regrown : Regrown fileAt t u s root top) {names : List String}
    {name : String} (askable : Askable t u s root top name)
    (inTree : (t.find? (top ++ (names ++ [name]))).isSome = true) {b : Bool}
    (tested : Scan.isPlainFile t s (root.join { names := names ++ [name] }) = .ok b) :
    Scan.isPlainFile u s (root.join { names := names ++ [name] }) = .ok b := by
  obtain ⟨node, held⟩ := Option.isSome_iff_exists.mp inTree
  by_cases link : ∃ target, node = .link target
  · obtain ⟨target, rfl⟩ := link
    have asked : ∃ found, t.status? s (root.join { names := names ++ [name] }) = .ok found := by
      simp only [Scan.isPlainFile, FileTree.isFile, bind_eq_ok_iff] at tested
      obtain ⟨-, ⟨found, asked, -⟩, -⟩ := tested
      exact ⟨found, asked⟩
    have asked' : ∃ found, u.status? s (root.join { names := names ++ [name] }) = .ok found := by
      obtain ⟨found, asked⟩ := asked
      cases found with
      | some found =>
        obtain ⟨node', still⟩ := regrown.rewrites.status_still (status?_eq_some_iff.mp asked)
        exact ⟨_, status?_eq_some_iff.mpr still⟩
      | none => exact askable names target held asked
    obtain ⟨found, asked⟩ := asked
    obtain ⟨found', asked'⟩ := asked'
    rw [isPlainFile_of_link regrown.rooted regrown.leads (by simp) held asked] at tested
    rw [isPlainFile_of_link regrown.rooted' regrown.leads' (by simp) (regrown.rewrites.ways.link held)
      asked', tested]
  · have noLink : ∀ target, node ≠ .link target := fun target same => link ⟨target, same⟩
    rw [isPlainFile_of_held regrown.rooted regrown.leads (by simp) held noLink] at tested
    rcases regrown.rewrites.still held with same | ⟨bytes, own, rfl, other⟩
    · rw [isPlainFile_of_held regrown.rooted' regrown.leads' (by simp) same noLink, tested]
    · rw [isPlainFile_of_held regrown.rooted' regrown.leads' (by simp) other (by simp), ← tested]
      rfl

theorem isSource_same (regrown : Regrown fileAt t u s root top) {o : Scan.Options}
    {rules : List Glob.IgnoreFile} {names : List String} {name : String}
    (askable : Askable t u s root top name)
    (inTree : (t.find? (top ++ (names ++ [name]))).isSome = true) {b : Bool}
    (tested : Scan.isSource t s root o rules { names := names ++ [name] } = .ok b) :
    Scan.isSource u s root o rules { names := names ++ [name] } = .ok b := by
  unfold Scan.isSource at tested ⊢
  simp only [bind_eq_ok_iff, mapError_eq_ok_iff] at tested ⊢
  obtain ⟨plain, isPlain, rest⟩ := tested
  refine ⟨plain, regrown.isPlainFile_same askable inTree isPlain, ?_⟩
  cases plain with
  | false => exact rest
  | true =>
    obtain ⟨q, bytes, found⟩ := status_of_isPlainFile isPlain
    obtain ⟨own, found', -⟩ := regrown.rewrites.status_file found
    have within := staysWithin_of_status regrown.rooted regrown.leads found
    have within' := staysWithin_of_status regrown.rooted' regrown.leads' found'
    rw [within] at rest
    rw [within']
    exact rest

/-- What is new below the root is a directory, or a file where one may be. -/
theorem pathsBelow_grown (regrown : Regrown fileAt t u s root top) (named : String → Bool) :
    ∃ more, pathsBelow u.entries top named = pathsBelow t.entries top named ++ more ∧
      ∀ p ∈ more, ∃ names name node, p = { names := names ++ [name] } ∧ named name = true ∧
        u.find? (top ++ (names ++ [name])) = some node ∧
        (node = .dir ∨ fileAt (top ++ (names ++ [name])) ∧ ∃ bytes, node = .file bytes) := by
  obtain ⟨extra, places, new⟩ := regrown.rewrites.places
  have listed : u.entries.map Prod.fst =
      (t.entries ++ extra.map fun q => (q, Node.dir)).map Prod.fst := by
    simpa [FileTree.places, Function.comp_def] using places
  refine ⟨pathsBelow (extra.map fun q => (q, .dir)) top named,
    by rw [pathsBelow_congr listed, pathsBelow_append], fun p member => ?_⟩
  obtain ⟨names, name, node, rfl, holds, inExtra⟩ := mem_pathsBelow.mp member
  have isNew : top ++ (names ++ [name]) ∈ extra := by
    obtain ⟨q, inExtra, same⟩ := List.mem_map.mp inExtra
    rw [Prod.mk.injEq] at same
    exact same.1 ▸ inExtra
  have inTree := find?_isSome_of_mem_places (places ▸ List.mem_append_right t.places isNew)
  obtain ⟨node', held⟩ := Option.isSome_iff_exists.mp inTree
  exact ⟨names, name, node', rfl, holds, held, regrown.rewrites.new _ node' (new _ isNew) held⟩

theorem readIgnoreFile_same {rules : Glob.IgnoreFile}
    (same : ∀ found, t.status s p = .ok found → u.status s p = .ok found)
    (read : Scan.readIgnoreFile t s p = .ok rules) : Scan.readIgnoreFile u s p = .ok rules := by
  unfold Scan.readIgnoreFile at read ⊢
  rw [bind_eq_ok_iff] at read ⊢
  obtain ⟨bytes, held, rest⟩ := read
  obtain ⟨q, found⟩ := read_eq_ok_iff.mp (mapError_eq_ok_iff.mp held)
  exact ⟨bytes, mapError_eq_ok_iff.mpr (read_eq_ok_iff.mpr ⟨q, same _ found⟩), rest⟩

theorem readIgnoreFiles_same {ps : List Path} {rules : List Glob.IgnoreFile}
    (same : ∀ p ∈ ps, ∀ found, t.status s p = .ok found → u.status s p = .ok found)
    (read : Scan.readIgnoreFiles t s ps = .ok rules) : Scan.readIgnoreFiles u s ps = .ok rules := by
  induction ps generalizing rules with
  | nil => exact read
  | cons p ps ih =>
    obtain ⟨first, others⟩ := List.forall_mem_cons.mp same
    simp only [Scan.readIgnoreFiles, bind_eq_ok_iff] at read ⊢
    obtain ⟨own, here, more, later, result⟩ := read
    exact ⟨own, readIgnoreFile_same first here, more, ih others later, result⟩

/-- The rules in force are the same. -/
theorem ignoreFiles (regrown : Regrown fileAt t u s root top) {nested : Bool}
    (links : LinksAgain t u s root top nested)
    (noRules : ∀ q, fileAt q → q.getLast? ≠ some Scan.ignoreFileName)
    {rules : List Glob.IgnoreFile} (read : Scan.ignoreFiles t s root nested = .ok rules) :
    Scan.ignoreFiles u s root nested = .ok rules := by
  unfold Scan.ignoreFiles at read ⊢
  cases nested with
  | true =>
    simp only [↓reduceIte, below_eq regrown.leads, below_eq regrown.leads', bind_eq_ok_iff,
      mapError_eq_ok_iff] at read ⊢
    obtain ⟨_, ⟨⟩, plain, kept, read⟩ := read
    obtain ⟨more, paths, new⟩ := regrown.pathsBelow_grown (· == Scan.ignoreFileName)
    refine ⟨_, rfl, plain, ?_, readIgnoreFiles_same (fun p member found leads => ?_) read⟩
    · rw [paths]
      refine Scan.keep_append (Scan.keep_congr (fun p member b tested => ?_) kept) fun p member => ?_
      · obtain ⟨names, name, node, rfl, named, inTree⟩ := mem_pathsBelow.mp member
        rw [beq_iff_eq] at named
        subst named
        exact regrown.isPlainFile_same (links.nestedRules rfl) (find?_isSome_of_mem inTree) tested
      · obtain ⟨names, name, node, rfl, named, held, rfl | ⟨isNew, -⟩⟩ := new p member
        · exact isPlainFile_of_held regrown.rooted' regrown.leads' (by simp) held (by simp)
        · refine absurd ?_ (noRules _ isNew)
          simpa [← List.append_assoc] using named
    · obtain ⟨rule, isPlain, rfl⟩ := List.mem_map.mp member
      obtain ⟨inBelow, tested⟩ := Scan.mem_of_keep kept (List.mem_mergeSort.mp isPlain)
      obtain ⟨names, name, node, rfl, named, inTree⟩ := mem_pathsBelow.mp inBelow
      rw [beq_iff_eq] at named
      subst named
      obtain ⟨bytes, -, itself⟩ := held_of_isPlainFile regrown.rooted regrown.leads (by simp)
        (find?_isSome_of_mem inTree) tested
      rw [itself] at leads
      cases leads
      exact regrown.rewrites.status_kept (fun isNew => noRules _ isNew (by simp)) itself
  | false =>
    simp only [Bool.false_eq_true, ↓reduceIte, bind_eq_ok_iff, mapError_eq_ok_iff] at read ⊢
    obtain ⟨there, tested, read⟩ := read
    obtain ⟨found, asked, result⟩ : ∃ found, t.status? s (root.child Scan.ignoreFileName) = .ok found ∧
        found.any (fun x => isFileNode x.2) = there := by
      have defined := tested
      simp only [FileTree.isFile, bind_eq_ok_iff] at defined
      obtain ⟨found, asked, -⟩ := defined
      rw [isFile_of_asked asked, Except.ok.injEq] at tested
      exact ⟨found, asked, tested⟩
    have closed : ¬ fileAt (top ++ [Scan.ignoreFileName]) := fun isNew => noRules _ isNew (by simp)
    rcases regrown.child_same (by decide) closed (links.rules rfl) asked with same | ⟨rfl, q, dir⟩
    · refine ⟨there, by rw [isFile_of_asked same, result], ?_⟩
      cases there with
      | false => exact read
      | true =>
        simp only [↓reduceIte, bind_eq_ok_iff] at read ⊢
        obtain ⟨own, here, rest⟩ := read
        refine ⟨own, readIgnoreFile_same (fun leads there => ?_) here, rest⟩
        rw [status?_eq_some_iff.mpr there] at asked
        cases asked
        exact status?_eq_some_iff.mp same
    · refine ⟨there, ?_, ?_⟩
      · rw [isFile_of_asked dir, ← result]
        rfl
      · simp only [Option.any_none] at result
        subst result
        exact read

/-- A directory is no source file, and neither is a file below the output directory. -/
theorem isSource_new (regrown : Regrown fileAt t u s root top) {o : Scan.Options}
    {rules : List Glob.IgnoreFile} {names : List String} (named : names ≠ []) {node : Node}
    (held : u.find? (top ++ names) = some node)
    (hidden : node = .dir ∨ (Path.ofText o.outputDirectory).isUnder { names := names } = true ∧
      ∃ bytes, node = .file bytes) :
    Scan.isSource u s root o rules { names := names } = .ok false := by
  unfold Scan.isSource
  rcases hidden with rfl | ⟨under, bytes, rfl⟩
  · have plain := isPlainFile_of_held regrown.rooted' regrown.leads' named held (by simp)
    simp [plain, isFileNode, bind, Except.bind, pure, Except.pure]
  · have plain := isPlainFile_of_held regrown.rooted' regrown.leads' named held (by simp)
    obtain ⟨q, own, found⟩ := status_of_isPlainFile plain
    have within := staysWithin_of_status regrown.rooted' regrown.leads' found
    simp only [plain, isFileNode, within, under, mapError_ok, bind, Except.bind, pure, Except.pure,
      Bool.not_true, Bool.false_eq_true, ↓reduceIte]
    split <;> rfl

/-- The source files are the same. -/
theorem sources (regrown : Regrown fileAt t u s root top) {o : Scan.Options} {ps : List Path}
    (links : LinksAgain t u s root top o.nestedIgnore)
    (noRules : ∀ q, fileAt q → q.getLast? ≠ some Scan.ignoreFileName)
    (hidden : ∀ names, fileAt (top ++ names) →
      (Path.ofText o.outputDirectory).isUnder { names := names } = true)
    (scanned : Scan.sources t s root o = .ok ps) : Scan.sources u s root o = .ok ps := by
  unfold Scan.sources at scanned ⊢
  simp only [below_eq regrown.leads, below_eq regrown.leads', bind_eq_ok_iff,
    mapError_eq_ok_iff] at scanned ⊢
  obtain ⟨rules, read, _, ⟨⟩, kept, tested, result⟩ := scanned
  obtain ⟨more, paths, new⟩ := regrown.pathsBelow_grown (·.endsWith Scan.sourceExtension)
  refine ⟨rules, regrown.ignoreFiles links noRules read, _, rfl, kept, ?_, result⟩
  rw [paths]
  refine Scan.keep_append (Scan.keep_congr (fun p member b own => ?_) tested) fun p member => ?_
  · obtain ⟨names, name, node, rfl, named, inTree⟩ := mem_pathsBelow.mp member
    exact regrown.isSource_same (links.sources name named) (find?_isSome_of_mem inTree) own
  · obtain ⟨names, name, node, rfl, -, held, kind⟩ := new p member
    exact regrown.isSource_new (by simp) held (kind.imp id (And.imp (hidden _) id))

end Regrown

end Bindery

import Bindery.Proofs.ExactVerification

/- What a scan finds, told without the order in which it looks. Source files are found by what they are,
   where they stand and what they are called; and a scan returns them exactly if all that it has to look
   at can be looked at. It follows every link that has the name of a source file, to see that it is
   none; so one that cannot be followed keeps all source files from being found. -/
namespace Bindery.Scan

open FileTree

/-! ### Tests that may fail -/

section Tests

variable {α ε : Type} {test : α → Except ε Bool}

theorem mem_keep_iff {as bs : List α} (kept : keep test as = .ok bs) {a : α} :
    a ∈ bs ↔ a ∈ as ∧ test a = .ok true :=
  ⟨mem_of_keep kept, fun ⟨member, holds⟩ => mem_keep kept member holds⟩

theorem keep_defined_iff {as : List α} :
    Defined (keep test as) ↔ ∀ a ∈ as, Defined (test a) := by
  induction as with
  | nil => simp [Defined, keep]
  | cons a as ih =>
    rw [List.forall_mem_cons, ← ih]
    simp only [Defined, keep, bind_eq_ok_iff, pure, Except.pure, Except.ok.injEq]
    constructor
    · rintro ⟨_, b, here, more, later, -⟩
      exact ⟨⟨b, here⟩, more, later⟩
    · rintro ⟨⟨b, here⟩, more, later⟩
      exact ⟨_, b, here, more, later, rfl⟩

end Tests

variable {t : FileTree} {s : Surroundings} {root p : Path} {top : Location} {o : Options}
  {rules : List Glob.IgnoreFile} {names : List String}

/-! ### What lies below the root -/

/-- What lies below the root under such a name is what is found there. -/
theorem mem_below_iff {named : String → Bool} :
    p ∈ pathsBelow t.entries top named ↔
      ∃ above name node, p = { names := above ++ [name] } ∧ named name = true ∧
        t.find? (top ++ (above ++ [name])) = some node := by
  rw [mem_pathsBelow]
  constructor
  · rintro ⟨above, name, node, rfl, holds, inTree⟩
    obtain ⟨own, held⟩ := Option.isSome_iff_exists.mp (find?_isSome_of_mem inTree)
    exact ⟨above, name, own, rfl, holds, held⟩
  · rintro ⟨above, name, node, rfl, holds, held⟩
    exact ⟨above, name, node, rfl, holds, mem_of_find? (by simp) held⟩

theorem asked_of_isFile (tested : Defined (t.isFile s p)) : ∃ found, t.status? s p = .ok found := by
  obtain ⟨there, tested⟩ := tested
  obtain ⟨found, asked, -⟩ := bind_eq_ok_iff.mp tested
  exact ⟨found, asked⟩

theorem asked_of_isPlainFile (tested : Defined (isPlainFile t s p)) :
    ∃ found, t.status? s p = .ok found := by
  obtain ⟨plain, tested⟩ := tested
  obtain ⟨there, isFile, -⟩ := bind_eq_ok_iff.mp tested
  exact asked_of_isFile ⟨there, isFile⟩

theorem asked_of_isSource (tested : Defined (isSource t s root o rules p)) :
    ∃ found, t.status? s (root.join p) = .ok found := by
  obtain ⟨b, tested⟩ := tested
  obtain ⟨plain, isPlain, -⟩ := bind_eq_ok_iff.mp tested
  exact asked_of_isPlainFile ⟨plain, mapError_eq_ok_iff.mp isPlain⟩

/-! ### Source files -/

/-- A file under the name of a source file: it is no link, directories lead to it from the root, it does
    not lead out of the root, and it does not stand below the output directory. -/
structure Candidate (t : FileTree) (s : Surroundings) (root : Path) (top : Location) (output p : Path) :
    Prop where
  relative : p.slashes = 0
  file : ∃ bytes, t.find? (top ++ p.names) = some (.file bytes)
  reached : ∀ k < p.names.length, t.find? (top ++ p.names.take k) = some .dir
  named : ∃ name, p.names.getLast? = some name ∧ name.endsWith sourceExtension = true
  within : ∃ base place, t.resolve s root = .ok base ∧ t.resolve s (root.join p) = .ok place ∧
    base <+: place
  apart : output.parts = [] ∨ ¬ output.parts <+: p.names

/-- Whether the rules ignore a path below the root. -/
def ignored (s : Surroundings) (root : Path) (rules : List Glob.IgnoreFile) (p : Path) :
    Except Glob.Expression.Fault Bool :=
  isIgnored (normalize (origin s (root.join p)) (root.join p).names) rules

/-- A candidate that no rule and no pattern takes out. -/
structure SourceFile (t : FileTree) (s : Surroundings) (root : Path) (top : Location) (o : Options)
    (rules : List Glob.IgnoreFile) (p : Path) : Prop
    extends Candidate t s root top (Path.ofText o.outputDirectory) p where
  kept : ignored s root rules p = .ok false
  included : o.included = [] ∨ ∃ pat ∈ o.included, Glob.Wildcard.isMatch pat p.text = true
  notExcluded : ∀ pat ∈ o.excluded, Glob.Wildcard.isMatch pat p.text = false

theorem passes_iff {includes excludes : List String} {path : String} :
    passes includes excludes path = true ↔
      (includes = [] ∨ ∃ pat ∈ includes, Glob.Wildcard.isMatch pat path = true) ∧
        ∀ pat ∈ excludes, Glob.Wildcard.isMatch pat path = false := by
  simp [passes]

theorem isUnder_eq_false_iff {output : Path} (relative : p.slashes = 0) :
    output.isUnder p = false ↔ output.parts = [] ∨ ¬ output.parts <+: p.names := by
  have parts : p.parts = p.names := by simp [Path.parts, Path.isAbsolute, relative]
  rw [Path.isUnder, parts, Bool.and_eq_false_iff, Bool.not_eq_false', List.isEmpty_iff,
    ← Bool.not_eq_true, List.isPrefixOf_iff_prefix]

theorem Candidate.mem_below {output : Path} (candidate : Candidate t s root top output p) :
    p ∈ pathsBelow t.entries top (·.endsWith sourceExtension) := by
  obtain ⟨bytes, held⟩ := candidate.file
  obtain ⟨name, last, named⟩ := candidate.named
  obtain ⟨slashes, names⟩ := p
  obtain ⟨names, rfl⟩ := List.getLast?_eq_some_iff.mp last
  obtain rfl : slashes = 0 := candidate.relative
  exact mem_below_iff.mpr ⟨names, name, _, rfl, named, held⟩

section Rooted

variable (rooted : t.Rooted) (leads : t.status s root = .ok (top, .dir))
include rooted leads

/-- A file below the root is found by its names. -/
theorem status_of_held {name : String} {bytes : List UInt8}
    (held : t.find? (top ++ (names ++ [name])) = some (.file bytes)) :
    t.status s (root.join { names := names ++ [name] }) =
      .ok (top ++ (names ++ [name]), .file bytes) := by
  apply status_join rooted leads held
  · intro _ target same
    cases same
  · simp

/-- A file that stands under such a name, and not below the output directory, is a candidate. -/
theorem candidate_of_held {output : Path} {name : String} {bytes : List UInt8}
    (held : t.find? (top ++ (names ++ [name])) = some (.file bytes))
    (named : name.endsWith sourceExtension = true)
    (apart : output.isUnder { names := names ++ [name] } = false) :
    Candidate t s root top output { names := names ++ [name] } where
  relative := rfl
  file := ⟨bytes, held⟩
  reached k less := by
    rw [← List.append_assoc] at held
    have short : k ≤ names.length := by simpa [Nat.lt_succ_iff] using less
    rw [List.take_append_of_le_length short]
    exact rooted.dir_take (rooted.above_of_find? held).2 k
  named := ⟨name, by simp, named⟩
  within := by
    have found := status_of_held rooted leads held
    exact ⟨top, _, resolve_of_status rooted leads (by simp),
      resolve_of_status rooted found (by simp), List.prefix_append ..⟩
  apart := (isUnder_eq_false_iff rfl).mp apart

/-- Rules and patterns decide about a candidate. -/
theorem isSource_candidate
    (candidate : Candidate t s root top (Path.ofText o.outputDirectory) p) :
    isSource t s root o rules p =
      (ignored s root rules p).mapError .expression >>= fun taken =>
        .ok (!taken && passes o.included o.excluded p.text) := by
  obtain ⟨names, name, -, rfl, -, -⟩ := mem_below_iff.mp candidate.mem_below
  obtain ⟨bytes, held⟩ := candidate.file
  have found := status_of_held rooted leads held
  have plain := isPlainFile_of_held rooted leads (by simp) held (by simp)
  have apart := (isUnder_eq_false_iff candidate.relative).mpr candidate.apart
  simp only [isSource, plain, isFileNode, staysWithin_of_status rooted leads found, apart, ignored]
  cases isIgnored (normalize (origin s (root.join { names := names ++ [name] }))
    (root.join { names := names ++ [name] }).names) rules with
  | error fault => simp [bind, Except.bind]
  | ok taken => cases taken <;> simp [bind, Except.bind, pure, Except.pure]

/-- A directory, a link that can be followed, and a file below the output directory are no source
    files. -/
theorem isSource_other {name : String} {node : Node}
    (held : t.find? (top ++ (names ++ [name])) = some node)
    (named : name.endsWith sourceExtension = true)
    (answers : ∀ target, node = .link target →
      ∃ found, t.status? s (root.join { names := names ++ [name] }) = .ok found)
    (other : ¬ Candidate t s root top (Path.ofText o.outputDirectory) { names := names ++ [name] }) :
    isSource t s root o rules { names := names ++ [name] } = .ok false := by
  cases node with
  | dir =>
    simp [isSource, isPlainFile_of_held rooted leads (by simp) held (by simp), isFileNode, bind,
      Except.bind, pure, Except.pure]
  | link target =>
    obtain ⟨found, asked⟩ := answers target rfl
    simp [isSource, isPlainFile_of_link rooted leads (by simp) held asked, bind, Except.bind, pure,
      Except.pure]
  | file bytes =>
    have under : (Path.ofText o.outputDirectory).isUnder { names := names ++ [name] } = true := by
      by_contra apart
      exact other (candidate_of_held rooted leads held named (Bool.not_eq_true _ ▸ apart))
    have found := status_of_held rooted leads held
    simp [isSource, isPlainFile_of_held rooted leads (by simp) held (by simp), isFileNode,
      staysWithin_of_status rooted leads found, under, bind, Except.bind, pure, Except.pure]

/-- What stands below the root is a source file exactly if its description says so. -/
theorem isSource_iff (member : p ∈ pathsBelow t.entries top (·.endsWith sourceExtension)) :
    isSource t s root o rules p = .ok true ↔ SourceFile t s root top o rules p := by
  by_cases candidate : Candidate t s root top (Path.ofText o.outputDirectory) p
  · rw [isSource_candidate rooted leads candidate, bind_eq_ok_iff]
    simp only [mapError_eq_ok_iff, Except.ok.injEq, Bool.and_eq_true, Bool.not_eq_true', passes_iff]
    constructor
    · rintro ⟨_, kept, rfl, included, notExcluded⟩
      exact ⟨candidate, kept, included, notExcluded⟩
    · rintro ⟨-, kept, included, notExcluded⟩
      exact ⟨false, kept, rfl, included, notExcluded⟩
  · obtain ⟨names, name, node, rfl, named, held⟩ := mem_below_iff.mp member
    constructor
    · intro holds
      have asked := asked_of_isSource ⟨true, holds⟩
      rw [isSource_other rooted leads held named (fun _ _ => asked) candidate] at holds
      contradiction
    · intro source
      exact absurd source.toCandidate candidate

theorem isSource_defined_iff (member : p ∈ pathsBelow t.entries top (·.endsWith sourceExtension)) :
    Defined (isSource t s root o rules p) ↔
      (∀ target, t.find? (top ++ p.names) = some (.link target) →
        ∃ found, t.status? s (root.join p) = .ok found) ∧
      (Candidate t s root top (Path.ofText o.outputDirectory) p → Defined (ignored s root rules p)) := by
  obtain ⟨names, name, node, rfl, named, held⟩ := mem_below_iff.mp member
  constructor
  · intro tested
    constructor
    · intro _ _
      exact asked_of_isSource tested
    · intro candidate
      obtain ⟨b, tested⟩ := tested
      rw [isSource_candidate rooted leads candidate, bind_eq_ok_iff] at tested
      obtain ⟨taken, decided, -⟩ := tested
      exact ⟨taken, mapError_eq_ok_iff.mp decided⟩
  · rintro ⟨answers, decides⟩
    by_cases candidate :
        Candidate t s root top (Path.ofText o.outputDirectory) { names := names ++ [name] }
    · obtain ⟨taken, decided⟩ := decides candidate
      rw [isSource_candidate rooted leads candidate, decided]
      exact ⟨_, rfl⟩
    · have follows : ∀ target, node = .link target →
          ∃ found, t.status? s (root.join { names := names ++ [name] }) = .ok found := by
        intro target link
        exact answers target (link ▸ held)
      exact ⟨false, isSource_other rooted leads held named follows candidate⟩

end Rooted

/-! ### Rules in force -/

/-- Whether rules are read from what has these names below the root. -/
def isRule (nested : Bool) (names : List String) : Bool :=
  names.getLast? == some ignoreFileName && (nested || names.length == 1)

/-- Whether what has these names below the root has the name of a source file. -/
def isNamedSource (names : List String) : Bool := names.getLast?.any (·.endsWith sourceExtension)

/-- Links below the root under names for which `looked` holds can be asked where they lead. -/
def LinksAnswer (t : FileTree) (s : Surroundings) (root : Path) (top : Location)
    (looked : List String → Bool) : Prop :=
  ∀ names target, looked names = true → t.find? (top ++ names) = some (.link target) →
    ∃ found, t.status? s (root.join { names := names }) = .ok found

/-- The files that rules are read from: in all directories plain ones, in the root alone also one that
    a link leads to. -/
def RuleFile (t : FileTree) (s : Surroundings) (root : Path) (top : Location) (nested : Bool)
    (names : List String) : Prop :=
  isRule nested names = true ∧
    if nested then ∃ bytes, t.find? (top ++ names) = some (.file bytes)
    else ∃ q bytes, t.status s (root.join { names := names }) = .ok (q, .file bytes)

theorem isRule_false_iff : isRule false names = true ↔ names = [ignoreFileName] := by
  simp only [isRule, Bool.false_or, Bool.and_eq_true, beq_iff_eq]
  constructor
  · rintro ⟨last, single⟩
    obtain ⟨name, rfl⟩ := List.length_eq_one_iff.mp single
    simpa using last
  · rintro rfl
    exact ⟨rfl, rfl⟩

theorem isRule_true_iff :
    isRule true names = true ↔ ∃ above, names = above ++ [ignoreFileName] := by
  simp [isRule, List.getLast?_eq_some_iff]

theorem isNamedSource_iff : isNamedSource names = true ↔
    ∃ above name, names = above ++ [name] ∧ name.endsWith sourceExtension = true := by
  unfold isNamedSource
  constructor
  · intro named
    cases last : names.getLast? with
    | none => simp [last] at named
    | some name =>
      obtain ⟨above, rfl⟩ := List.getLast?_eq_some_iff.mp last
      exact ⟨above, name, rfl, by simpa using named⟩
  · rintro ⟨above, name, rfl, ends⟩
    simpa using ends

theorem leads_to_file_iff {found : Option (Location × Node)} :
    (found.any fun x => isFileNode x.2) = true ↔ ∃ q bytes, found = some (q, .file bytes) := by
  rcases found with _ | ⟨q, node⟩
  · simp
  · cases node <;> simp [isFileNode]

theorem readIgnoreFiles_defined_iff {ps : List Path} :
    Defined (readIgnoreFiles t s ps) ↔ ∀ p ∈ ps, Defined (readIgnoreFile t s p) := by
  induction ps with
  | nil => simp [Defined, readIgnoreFiles]
  | cons p ps ih =>
    rw [List.forall_mem_cons, ← ih]
    simp only [Defined, readIgnoreFiles, bind_eq_ok_iff, pure, Except.pure, Except.ok.injEq]
    constructor
    · rintro ⟨_, own, here, more, later, -⟩
      exact ⟨⟨own, here⟩, more, later⟩
    · rintro ⟨⟨own, here⟩, more, later⟩
      exact ⟨_, own, here, more, later, rfl⟩

section Rooted

variable (rooted : t.Rooted) (leads : t.status s root = .ok (top, .dir))
include rooted leads

/-- Only of a link it may be impossible to ask where it leads. -/
theorem asked_of_held (named : names ≠ []) {node : Node} (held : t.find? (top ++ names) = some node)
    (answers : ∀ target, node = .link target →
      ∃ found, t.status? s (root.join { names := names }) = .ok found) :
    ∃ found, t.status? s (root.join { names := names }) = .ok found := by
  by_cases link : ∃ target, node = .link target
  · obtain ⟨target, same⟩ := link
    exact answers target same
  · exact ⟨_, status?_eq_some_iff.mpr
      (status_join rooted leads held (fun _ target same => link ⟨target, same⟩) named)⟩

theorem isPlainFile_defined_iff (named : names ≠ []) {node : Node}
    (held : t.find? (top ++ names) = some node) :
    Defined (isPlainFile t s (root.join { names := names })) ↔
      ∀ target, node = .link target →
        ∃ found, t.status? s (root.join { names := names }) = .ok found := by
  constructor
  · intro tested _ _
    exact asked_of_isPlainFile tested
  · intro answers
    by_cases link : ∃ target, node = .link target
    · obtain ⟨target, rfl⟩ := link
      obtain ⟨found, asked⟩ := answers target rfl
      exact ⟨false, isPlainFile_of_link rooted leads named held asked⟩
    · exact ⟨_, isPlainFile_of_held rooted leads named held fun target same => link ⟨target, same⟩⟩

/-- Plain files can be told from others under the names of rules, if links can be followed there. -/
theorem plainRules_defined_iff :
    Defined (keep (fun p => isPlainFile t s (root.join p))
      (pathsBelow t.entries top (· == ignoreFileName))) ↔ LinksAnswer t s root top (isRule true) := by
  rw [keep_defined_iff]
  constructor
  · intro tested names target rule held
    obtain ⟨above, rfl⟩ := isRule_true_iff.mp rule
    have member : ({ names := above ++ [ignoreFileName] } : Path) ∈
        pathsBelow t.entries top (· == ignoreFileName) :=
      mem_below_iff.mpr ⟨above, _, _, rfl, by simp, held⟩
    exact (isPlainFile_defined_iff rooted leads (by simp) held).mp (tested _ member) target rfl
  · intro answers p member
    obtain ⟨above, name, node, rfl, named, held⟩ := mem_below_iff.mp member
    obtain rfl : name = ignoreFileName := by simpa using named
    apply (isPlainFile_defined_iff rooted leads (by simp) held).mpr
    intro target link
    exact answers _ target (isRule_true_iff.mpr ⟨above, rfl⟩) (link ▸ held)

/-- The plain files under these names are those that rules are read from. -/
theorem mem_plainRules {kept : List Path}
    (tested : keep (fun p => isPlainFile t s (root.join p))
      (pathsBelow t.entries top (· == ignoreFileName)) = .ok kept) :
    p ∈ kept ↔ ∃ names, p = { names := names } ∧ RuleFile t s root top true names := by
  rw [mem_keep_iff tested, mem_below_iff]
  constructor
  · rintro ⟨⟨above, name, node, rfl, named, held⟩, plain⟩
    obtain rfl : name = ignoreFileName := by simpa using named
    have there : (t.find? (top ++ (above ++ [ignoreFileName]))).isSome = true := by simp [held]
    obtain ⟨bytes, file, -⟩ := held_of_isPlainFile rooted leads (by simp) there plain
    exact ⟨_, rfl, isRule_true_iff.mpr ⟨above, rfl⟩, bytes, file⟩
  · rintro ⟨names, rfl, rule, bytes, held⟩
    obtain ⟨above, rfl⟩ := isRule_true_iff.mp rule
    constructor
    · exact ⟨above, _, _, rfl, by simp, held⟩
    · exact isPlainFile_of_held rooted leads (by simp) held (by simp)

/-- The rules of all directories can be read if their links can be followed and their files be read. -/
theorem nestedRules_defined_iff :
    Defined (ignoreFiles t s root true) ↔
      LinksAnswer t s root top (isRule true) ∧
      ∀ names, RuleFile t s root top true names →
        Defined (readIgnoreFile t s (root.join { names := names })) := by
  have read : ∀ kept, keep (fun p => isPlainFile t s (root.join p))
      (pathsBelow t.entries top (· == ignoreFileName)) = .ok kept →
      (Defined (readIgnoreFiles t s ((sortPaths kept).map root.join)) ↔
        ∀ names, RuleFile t s root top true names →
          Defined (readIgnoreFile t s (root.join { names := names }))) := by
    intro kept tested
    simp only [readIgnoreFiles_defined_iff, List.forall_mem_map, sortPaths, List.mem_mergeSort,
      mem_plainRules rooted leads tested]
    constructor
    · intro each names rule
      exact each _ ⟨names, rfl, rule⟩
    · rintro each _ ⟨names, rfl, rule⟩
      exact each names rule
  rw [← plainRules_defined_iff rooted leads]
  constructor
  · rintro ⟨rules, ruled⟩
    simp only [ignoreFiles, ↓reduceIte, below_eq leads, bind_eq_ok_iff, mapError_eq_ok_iff] at ruled
    obtain ⟨_, ⟨⟩, kept, tested, result⟩ := ruled
    exact ⟨⟨kept, tested⟩, (read kept tested).mp ⟨rules, result⟩⟩
  · rintro ⟨⟨kept, tested⟩, each⟩
    obtain ⟨rules, result⟩ := (read kept tested).mpr each
    refine ⟨rules, ?_⟩
    simp only [ignoreFiles, ↓reduceIte, below_eq leads, bind_eq_ok_iff, mapError_eq_ok_iff]
    exact ⟨_, rfl, kept, tested, result⟩

/-- What has the name of the rules in the root can be asked for, if no link keeps it from that. -/
theorem ownRules_asked_iff :
    (∃ found, t.status? s (root.child ignoreFileName) = .ok found) ↔
      LinksAnswer t s root top (isRule false) := by
  rw [child_eq_join]
  constructor
  · intro asked names target rule _
    rwa [isRule_false_iff.mp rule]
  · intro answers
    cases held : t.find? (top ++ [ignoreFileName]) with
    | none =>
      rw [← child_eq_join]
      exact ⟨none, status?_free leads (by decide) held⟩
    | some node =>
      apply asked_of_held rooted leads (by simp) held
      intro target link
      exact answers _ target (by decide) (link ▸ held)

theorem ownRules_defined_iff :
    Defined (ignoreFiles t s root false) ↔
      LinksAnswer t s root top (isRule false) ∧
      ∀ names, RuleFile t s root top false names →
        Defined (readIgnoreFile t s (root.join { names := names })) := by
  rw [← ownRules_asked_iff rooted leads]
  constructor
  · rintro ⟨rules, ruled⟩
    simp only [ignoreFiles, Bool.false_eq_true, ↓reduceIte, bind_eq_ok_iff,
      mapError_eq_ok_iff] at ruled
    obtain ⟨there, tested, read⟩ := ruled
    have asked := asked_of_isFile ⟨there, tested⟩
    refine ⟨asked, ?_⟩
    rintro names ⟨rule, q, bytes, found⟩
    obtain rfl := isRule_false_iff.mp rule
    rw [← child_eq_join] at found ⊢
    rw [isFile_of_asked (status?_eq_some_iff.mpr found)] at tested
    cases tested
    simp only [Option.any_some, isFileNode, ↓reduceIte, bind_eq_ok_iff] at read
    obtain ⟨own, here, -⟩ := read
    exact ⟨own, here⟩
  · rintro ⟨⟨found, asked⟩, each⟩
    have tested := isFile_of_asked asked
    simp only [Defined, ignoreFiles, Bool.false_eq_true, ↓reduceIte, bind_eq_ok_iff,
      mapError_eq_ok_iff, tested, Except.ok.injEq, exists_eq_left']
    cases there : found.any fun x => isFileNode x.2 with
    | false => exact ⟨[], rfl⟩
    | true =>
      obtain ⟨q, bytes, rfl⟩ := leads_to_file_iff.mp there
      rw [child_eq_join] at asked
      obtain ⟨own, read⟩ :=
        each [ignoreFileName] ⟨by decide, q, bytes, status?_eq_some_iff.mp asked⟩
      rw [← child_eq_join] at read
      exact ⟨[own], by simp [read, bind, Except.bind, pure, Except.pure]⟩

end Rooted

/-! ### The whole scan -/

/-- All that a scan has to look at can be looked at: links can be asked where they lead, rules can be
    read, and they decide about the candidates. -/
structure Surveyable (t : FileTree) (s : Surroundings) (root : Path) (top : Location) (o : Options) :
    Prop where
  ruleLinks : LinksAnswer t s root top (isRule o.nestedIgnore)
  sourceLinks : LinksAnswer t s root top isNamedSource
  rules : ∀ names, RuleFile t s root top o.nestedIgnore names →
    Defined (readIgnoreFile t s (root.join { names := names }))
  decides : ∀ rules, ignoreFiles t s root o.nestedIgnore = .ok rules →
    ∀ p, Candidate t s root top (Path.ofText o.outputDirectory) p → Defined (ignored s root rules p)

theorem rules_defined_iff (rooted : t.Rooted) (leads : t.status s root = .ok (top, .dir))
    (nested : Bool) :
    Defined (ignoreFiles t s root nested) ↔
      LinksAnswer t s root top (isRule nested) ∧
      ∀ names, RuleFile t s root top nested names →
        Defined (readIgnoreFile t s (root.join { names := names })) := by
  cases nested with
  | false => exact ownRules_defined_iff rooted leads
  | true => exact nestedRules_defined_iff rooted leads

/-- With given rules, all files under names of source files can be tested. -/
theorem kept_defined_iff (rooted : t.Rooted) (leads : t.status s root = .ok (top, .dir)) :
    Defined (keep (isSource t s root o rules)
      (pathsBelow t.entries top (·.endsWith sourceExtension))) ↔
      LinksAnswer t s root top isNamedSource ∧
      ∀ p, Candidate t s root top (Path.ofText o.outputDirectory) p →
        Defined (ignored s root rules p) := by
  rw [keep_defined_iff]
  constructor
  · intro tested
    constructor
    · intro names target named held
      obtain ⟨above, name, rfl, ends⟩ := isNamedSource_iff.mp named
      have member : ({ names := above ++ [name] } : Path) ∈
          pathsBelow t.entries top (·.endsWith sourceExtension) :=
        mem_below_iff.mpr ⟨above, name, _, rfl, ends, held⟩
      exact ((isSource_defined_iff rooted leads member).mp (tested _ member)).1 target held
    · intro p candidate
      have member := candidate.mem_below
      exact ((isSource_defined_iff rooted leads member).mp (tested p member)).2 candidate
  · rintro ⟨answers, decides⟩ p member
    apply (isSource_defined_iff rooted leads member).mpr
    constructor
    · intro target held
      obtain ⟨above, name, node, rfl, ends, -⟩ := mem_below_iff.mp member
      exact answers _ target (isNamedSource_iff.mpr ⟨above, name, rfl, ends⟩) held
    · exact decides p

theorem sources_eq_ok_iff (leads : t.status s root = .ok (top, .dir)) {ps : List Path} :
    sources t s root o = .ok ps ↔
      ∃ rules kept, ignoreFiles t s root o.nestedIgnore = .ok rules ∧
        keep (isSource t s root o rules) (pathsBelow t.entries top (·.endsWith sourceExtension)) =
          .ok kept ∧ sortPaths kept = ps := by
  simp only [sources, below_eq leads, bind_eq_ok_iff, mapError_eq_ok_iff, pure, Except.pure,
    Except.ok.injEq, exists_eq_left']
  constructor
  · rintro ⟨rules, inForce, kept, tested, sorted⟩
    exact ⟨rules, kept, inForce, tested, sorted⟩
  · rintro ⟨rules, kept, inForce, tested, sorted⟩
    exact ⟨rules, inForce, kept, tested, sorted⟩

theorem mem_sources_iff (rooted : t.Rooted) (leads : t.status s root = .ok (top, .dir)) {ps : List Path}
    (scanned : sources t s root o = .ok ps) :
    ∃ rules, ignoreFiles t s root o.nestedIgnore = .ok rules ∧
      ∀ p, p ∈ ps ↔ SourceFile t s root top o rules p := by
  obtain ⟨rules, kept, inForce, tested, rfl⟩ := (sources_eq_ok_iff leads).mp scanned
  refine ⟨rules, inForce, ?_⟩
  intro p
  rw [sortPaths, List.mem_mergeSort, mem_keep_iff tested]
  constructor
  · rintro ⟨member, holds⟩
    exact (isSource_iff rooted leads member).mp holds
  · intro source
    have member := source.mem_below
    exact ⟨member, (isSource_iff rooted leads member).mpr source⟩

theorem sources_defined_iff (rooted : t.Rooted) (leads : t.status s root = .ok (top, .dir)) :
    (∃ ps, sources t s root o = .ok ps) ↔ Surveyable t s root top o := by
  constructor
  · rintro ⟨ps, scanned⟩
    obtain ⟨rules, kept, inForce, tested, -⟩ := (sources_eq_ok_iff leads).mp scanned
    obtain ⟨ruleLinks, readable⟩ := (rules_defined_iff rooted leads _).mp ⟨rules, inForce⟩
    obtain ⟨sourceLinks, decides⟩ := (kept_defined_iff rooted leads).mp ⟨kept, tested⟩
    have decided : ∀ rules, ignoreFiles t s root o.nestedIgnore = .ok rules →
        ∀ p, Candidate t s root top (Path.ofText o.outputDirectory) p →
          Defined (ignored s root rules p) := by
      intro rules' inForce'
      obtain rfl := Except.ok.inj (inForce.symm.trans inForce')
      exact decides
    exact ⟨ruleLinks, sourceLinks, readable, decided⟩
  · rintro ⟨ruleLinks, sourceLinks, readable, decides⟩
    obtain ⟨rules, inForce⟩ := (rules_defined_iff rooted leads _).mpr ⟨ruleLinks, readable⟩
    obtain ⟨kept, tested⟩ := (kept_defined_iff rooted leads).mpr ⟨sourceLinks, decides rules inForce⟩
    exact ⟨_, (sources_eq_ok_iff leads).mpr ⟨rules, kept, inForce, tested, rfl⟩⟩

/- A scan is exact. What it returns are the source files, each once and in the strict order of their paths,
   and nothing else. It returns if and only if all that it has to look at can be looked at. -/
theorem scan_is_exact (wellFormed : t.WellFormed) (distinct : t.Distinct)
    (leads : t.status s root = .ok (top, .dir)) (o : Options) :
    (∀ ps, sources t s root o = .ok ps →
      ps.Pairwise (fun p q => p.text < q.text) ∧
      ∃ rules, ignoreFiles t s root o.nestedIgnore = .ok rules ∧
        ∀ p, p ∈ ps ↔ SourceFile t s root top o rules p) ∧
    ((∃ ps, sources t s root o = .ok ps) ↔ Surveyable t s root top o) := by
  constructor
  · intro ps scanned
    constructor
    · exact Generation.sources_ascending wellFormed distinct scanned
    · exact mem_sources_iff wellFormed.rooted leads scanned
  · exact sources_defined_iff wellFormed.rooted leads

/-- A tree under a link, with names that sort apart from the order of places: beside source files there are
    links to a file, to a directory and to nothing, an output directory with neighbours of a like
    name, a file that is ignored and one that is excluded. -/
def variedTree : FileTree :=
  ⟨[(["tree"], .dir), (["way"], .link "tree"), (["tree", "a"], .dir), (["tree", "out"], .dir),
    (["tree", "out2"], .dir), (["tree", "a-b.py"], .file []), (["tree", "a.py"], .file []),
    (["tree", "a", "b.py"], .file []), (["tree", "a", "test_b.py"], .file []),
    (["tree", "again.py"], .link "a.py"), (["tree", "other"], .link "a"),
    (["tree", "nowhere.py"], .link "missing"), (["tree", "notes"], .file []),
    (["tree", "old.py"], .file []), (["tree", "out.py"], .file []),
    (["tree", "out", "c.py"], .file []), (["tree", "out2", "c.py"], .file []),
    (["tree", ".gitignore"], .file (Text.Utf8.ofString "old.py\n"))]⟩

def variedOptions : Options := ⟨"out", ["*.py"], ["*test_*"], false⟩

def variedSources : List Path :=
  [⟨0, ["a-b.py"]⟩, ⟨0, ["a.py"]⟩, ⟨0, ["a", "b.py"]⟩, ⟨0, ["out.py"]⟩, ⟨0, ["out2", "c.py"]⟩]

theorem variedTree_scanned :
    variedTree.WellFormed ∧ variedTree.Distinct ∧
    variedTree.status ⟨[], "/home"⟩ ⟨0, ["way"]⟩ = .ok (["tree"], .dir) ∧
    sources variedTree ⟨[], "/home"⟩ ⟨0, ["way"]⟩ variedOptions = .ok variedSources ∧
    variedSources.Pairwise (fun p q => p.text < q.text) ∧
    ∃ rules, ignoreFiles variedTree ⟨[], "/home"⟩ ⟨0, ["way"]⟩ false = .ok rules ∧
      ∀ p, p ∈ variedSources ↔
        SourceFile variedTree ⟨[], "/home"⟩ ⟨0, ["way"]⟩ ["tree"] variedOptions rules p := by
  have wellFormed : variedTree.WellFormed := by decide +kernel
  have distinct : variedTree.Distinct := by decide +kernel
  have leads : variedTree.status ⟨[], "/home"⟩ ⟨0, ["way"]⟩ = .ok (["tree"], .dir) :=
    eq_ok_of_toOption (by decide +kernel)
  have ruled : ∃ rules, ignoreFiles variedTree ⟨[], "/home"⟩ ⟨0, ["way"]⟩ false = .ok rules ∧
      (keep (isSource variedTree ⟨[], "/home"⟩ ⟨0, ["way"]⟩ variedOptions rules)
        (pathsBelow variedTree.entries ["tree"] (·.endsWith sourceExtension))).toOption =
          some variedSources := by decide +kernel
  obtain ⟨rules, inForce, kept⟩ := ruled
  have sorted : sortPaths variedSources = variedSources :=
    List.mergeSort_of_pairwise (by decide +kernel)
  have scanned : sources variedTree ⟨[], "/home"⟩ ⟨0, ["way"]⟩ variedOptions = .ok variedSources :=
    (sources_eq_ok_iff leads).mpr ⟨rules, _, inForce, eq_ok_of_toOption kept, sorted⟩
  obtain ⟨exact_, -⟩ := scan_is_exact wellFormed distinct leads variedOptions
  exact ⟨wellFormed, distinct, leads, scanned, exact_ _ scanned⟩

/-- A source file beside a link of the given name to a name that is too long. -/
def overlongBeside (name : String) : FileTree :=
  ⟨[(["tree"], .dir), (["tree", "m.py"], .file []), (["tree", name], .link Verification.longName)]⟩

/-- Without rules the file is a source file. -/
theorem source_beside {name : String} (nested : Bool) (rooted : (overlongBeside name).Rooted)
    (leads : (overlongBeside name).status ⟨[], "/home"⟩ ⟨0, ["tree"]⟩ = .ok (["tree"], .dir)) :
    SourceFile (overlongBeside name) ⟨[], "/home"⟩ ⟨0, ["tree"]⟩ ["tree"] { nestedIgnore := nested } []
      ⟨0, ["m.py"]⟩ := by
  have held : (overlongBeside name).find? (["tree"] ++ ([] ++ ["m.py"])) = some (.file []) := rfl
  have apart : (Path.ofText ".pymodgen").isUnder { names := [] ++ ["m.py"] } = false := by
    decide +kernel
  exact ⟨candidate_of_held rooted leads held (by decide +kernel) apart, rfl, .inl rfl, by simp⟩

theorem overlongBeside_refuses {name : String}
    (link : (overlongBeside name).find? ["tree", name] = some (.link Verification.longName))
    (follows : Followable name) :
    (overlongBeside name).status? ⟨[], "/home"⟩ (Path.join ⟨0, ["tree"]⟩ ⟨0, [name]⟩) =
      .error ⟨.nameTooLong, ⟨0, ["tree", name]⟩⟩ :=
  Verification.status?_overlong rfl link (by decide) follows

/-- The link keeps it from being found: one with the name of a source file, which is looked at like
    one, and one with the name of rules, wherever these are looked for. -/
theorem overlongBeside_not_scanned :
    ((overlongBeside "x.py").WellFormed ∧ (overlongBeside "x.py").Distinct ∧
      (overlongBeside "x.py").status ⟨[], "/home"⟩ ⟨0, ["tree"]⟩ = .ok (["tree"], .dir) ∧
      ignoreFiles (overlongBeside "x.py") ⟨[], "/home"⟩ ⟨0, ["tree"]⟩ false = .ok [] ∧
      SourceFile (overlongBeside "x.py") ⟨[], "/home"⟩ ⟨0, ["tree"]⟩ ["tree"] {} [] ⟨0, ["m.py"]⟩ ∧
      ¬ ∃ ps, sources (overlongBeside "x.py") ⟨[], "/home"⟩ ⟨0, ["tree"]⟩ {} = .ok ps) ∧
    (overlongBeside ".gitignore").WellFormed ∧ (overlongBeside ".gitignore").Distinct ∧
      (overlongBeside ".gitignore").status ⟨[], "/home"⟩ ⟨0, ["tree"]⟩ = .ok (["tree"], .dir) ∧
      ∀ nested,
        SourceFile (overlongBeside ".gitignore") ⟨[], "/home"⟩ ⟨0, ["tree"]⟩ ["tree"]
          { nestedIgnore := nested } [] ⟨0, ["m.py"]⟩ ∧
        ¬ ∃ ps, sources (overlongBeside ".gitignore") ⟨[], "/home"⟩ ⟨0, ["tree"]⟩
          { nestedIgnore := nested } = .ok ps := by
  have wellFormed : (overlongBeside "x.py").WellFormed := by decide +kernel
  have wellFormed' : (overlongBeside ".gitignore").WellFormed := by decide +kernel
  have leads : (overlongBeside "x.py").status ⟨[], "/home"⟩ ⟨0, ["tree"]⟩ = .ok (["tree"], .dir) :=
    eq_ok_of_toOption (by decide +kernel)
  have leads' : (overlongBeside ".gitignore").status ⟨[], "/home"⟩ ⟨0, ["tree"]⟩ =
      .ok (["tree"], .dir) := eq_ok_of_toOption (by decide +kernel)
  refine ⟨⟨wellFormed, by decide +kernel, leads, eq_ok_of_toOption (by decide +kernel),
      source_beside false wellFormed.rooted leads, ?_⟩,
    wellFormed', by decide +kernel, leads', fun nested =>
      ⟨source_beside nested wellFormed'.rooted leads', ?_⟩⟩
  · rw [sources_defined_iff wellFormed.rooted leads]
    intro surveyable
    obtain ⟨found, asked⟩ :=
      surveyable.sourceLinks ["x.py"] Verification.longName (by decide +kernel) rfl
    have refused := @overlongBeside_refuses "x.py" rfl (by decide)
    simp [refused] at asked
  · rw [sources_defined_iff wellFormed'.rooted leads']
    intro surveyable
    obtain ⟨found, asked⟩ :=
      surveyable.ruleLinks [".gitignore"] Verification.longName (by cases nested <;> decide) rfl
    have refused := @overlongBeside_refuses ".gitignore" rfl (by decide)
    simp [refused] at asked

end Bindery.Scan

import Mathlib.Data.List.Sort
import Bindery.Proofs.SourceFiles

/- Rules below the root. They stand beside those of the root and take nothing back: a path is passed over
   as soon as one file of rules ignores it, whatever the others say. So fewer files are sources with them.
   That rests on the rules of the root being read either way, and they are not where they are behind a
   link: it is followed only when no other rules are looked for. -/
namespace Bindery.Scan

open FileTree

variable {t : FileTree} {s : Surroundings} {root p : Path} {top : Location} {o : Options}
  {rules : List Glob.IgnoreFile} {names : List String}

/-! ### Several files of rules -/

/-- A file of rules does not ignore a path: it has nothing to say about it, or takes it back. -/
def Spares (names : List String) (f : Glob.IgnoreFile) : Prop :=
  f.ignores? names = .ok none ∨ f.ignores? names = .ok (some false)

/-- A path is kept if all files of rules spare it, in whatever order they are asked. -/
theorem isIgnored_eq_false_iff : isIgnored names rules = .ok false ↔ ∀ f ∈ rules, Spares names f := by
  induction rules with
  | nil => simp [isIgnored]
  | cons f fs ih =>
    rw [List.forall_mem_cons, ← ih, isIgnored, bind_eq_ok_iff]
    constructor
    · rintro ⟨verdict, own, rest⟩
      rcases verdict with _ | _ | _
      · exact ⟨.inl own, rest⟩
      · exact ⟨.inr own, rest⟩
      · cases rest
    · rintro ⟨own | own, rest⟩
      · exact ⟨none, own, rest⟩
      · exact ⟨some false, own, rest⟩

theorem ignored_of_subset {fewer : List Glob.IgnoreFile} (subset : fewer ⊆ rules)
    (kept : ignored s root rules p = .ok false) : ignored s root fewer p = .ok false := by
  have spared := isIgnored_eq_false_iff.mp kept
  apply isIgnored_eq_false_iff.mpr
  intro f member
  exact spared f (subset member)

theorem mem_readIgnoreFiles {ps : List Path} {fs : List Glob.IgnoreFile}
    (read : readIgnoreFiles t s ps = .ok fs) {f : Glob.IgnoreFile} :
    f ∈ fs ↔ ∃ p ∈ ps, readIgnoreFile t s p = .ok f := by
  induction ps generalizing fs with
  | nil =>
    obtain rfl := Except.ok.inj read
    simp
  | cons p ps ih =>
    simp only [readIgnoreFiles, bind_eq_ok_iff, pure, Except.pure, Except.ok.injEq] at read
    obtain ⟨own, here, more, later, rfl⟩ := read
    rw [List.mem_cons, ih later]
    simp [here, eq_comm]

/-! ### The rules of the root among those of all directories -/

/-- Under the name of the root's rules there is a link, and it leads to a file. -/
def LinkedRules (t : FileTree) (s : Surroundings) (root : Path) (top : Location) : Prop :=
  ∃ target q bytes, t.find? (top ++ [ignoreFileName]) = some (.link target) ∧
    t.status s (root.child ignoreFileName) = .ok (q, .file bytes)

section Rooted

variable (rooted : t.Rooted) (leads : t.status s root = .ok (top, .dir))
include rooted leads

/-- The rules in force come from the files that rules are read from. -/
theorem mem_rules_iff {nested : Bool} (inForce : ignoreFiles t s root nested = .ok rules)
    {f : Glob.IgnoreFile} :
    f ∈ rules ↔ ∃ names, RuleFile t s root top nested names ∧
      readIgnoreFile t s (root.join { names := names }) = .ok f := by
  cases nested with
  | true =>
    simp only [ignoreFiles, ↓reduceIte, below_eq leads, bind_eq_ok_iff, mapError_eq_ok_iff] at inForce
    obtain ⟨_, ⟨⟩, kept, tested, read⟩ := inForce
    simp only [mem_readIgnoreFiles read, List.mem_map, sortPaths, List.mem_mergeSort,
      mem_plainRules rooted leads tested]
    constructor
    · rintro ⟨_, ⟨_, ⟨names, rfl, rule⟩, rfl⟩, own⟩
      exact ⟨names, rule, own⟩
    · rintro ⟨names, rule, own⟩
      exact ⟨_, ⟨_, ⟨names, rfl, rule⟩, rfl⟩, own⟩
  | false =>
    simp only [ignoreFiles, Bool.false_eq_true, ↓reduceIte, bind_eq_ok_iff,
      mapError_eq_ok_iff] at inForce
    obtain ⟨there, tested, read⟩ := inForce
    obtain ⟨found, asked⟩ := asked_of_isFile ⟨there, tested⟩
    obtain rfl := Except.ok.inj ((isFile_of_asked asked).symm.trans tested)
    have leadsToFile : (found.any fun x => isFileNode x.2) = true ↔
        RuleFile t s root top false [ignoreFileName] := by
      rw [leads_to_file_iff, RuleFile, ← child_eq_join]
      constructor
      · rintro ⟨q, bytes, rfl⟩
        exact ⟨by decide, q, bytes, status?_eq_some_iff.mp asked⟩
      · rintro ⟨-, q, bytes, found'⟩
        have again := asked.symm.trans (status?_eq_some_iff.mpr found')
        exact ⟨q, bytes, Except.ok.inj again⟩
    cases file : found.any fun x => isFileNode x.2 with
    | true =>
      simp only [file, ↓reduceIte, bind_eq_ok_iff, pure, Except.pure, Except.ok.injEq] at read
      obtain ⟨own, here, rfl⟩ := read
      rw [child_eq_join] at here
      rw [List.mem_singleton]
      constructor
      · rintro rfl
        exact ⟨_, leadsToFile.mp file, here⟩
      · rintro ⟨names, ⟨rule, -⟩, other⟩
        obtain rfl := isRule_false_iff.mp rule
        exact Except.ok.inj (other.symm.trans here)
    | false =>
      simp only [file, Bool.false_eq_true, ↓reduceIte, pure, Except.pure, Except.ok.injEq] at read
      subst read
      simp only [List.not_mem_nil, false_iff, not_exists, not_and]
      intro names rule
      obtain rfl := isRule_false_iff.mp rule.1
      exact absurd (leadsToFile.mpr rule) (by simp [file])

/-- Where they are not behind a link, the rules of the root are among those of all directories. -/
theorem RuleFile.nested (unlinked : ¬ LinkedRules t s root top)
    (rule : RuleFile t s root top false names) : RuleFile t s root top true names := by
  obtain ⟨own, q, bytes, found⟩ := rule
  obtain rfl := isRule_false_iff.mp own
  refine ⟨by decide, ?_⟩
  cases held : t.find? (top ++ [ignoreFileName]) with
  | none =>
    have free := status?_free leads (by decide) held
    rw [child_eq_join] at free
    have again := free.symm.trans (status?_eq_some_iff.mpr found)
    cases again
  | some node =>
    by_cases link : ∃ target, node = .link target
    · obtain ⟨target, rfl⟩ := link
      rw [← child_eq_join] at found
      exact absurd ⟨target, q, bytes, held, found⟩ unlinked
    · have itself : t.status s (root.join { names := [ignoreFileName] }) =
          .ok (top ++ [ignoreFileName], node) :=
        status_join rooted leads held (fun _ target same => link ⟨target, same⟩) (by simp)
      obtain ⟨-, rfl⟩ := Prod.mk.inj (Except.ok.inj (itself.symm.trans found))
      exact ⟨bytes, rfl⟩

/-- Then they can be read when those of all directories can. -/
theorem ownRules_defined (unlinked : ¬ LinkedRules t s root top)
    (ruled : Defined (ignoreFiles t s root true)) : Defined (ignoreFiles t s root false) := by
  obtain ⟨links, readable⟩ := (rules_defined_iff rooted leads true).mp ruled
  apply (rules_defined_iff rooted leads false).mpr
  constructor
  · intro names target rule held
    obtain rfl := isRule_false_iff.mp rule
    exact links _ target (by decide) held
  · intro names rule
    exact readable names (rule.nested rooted leads unlinked)

theorem ownRules_subset (unlinked : ¬ LinkedRules t s root top)
    {own all : List Glob.IgnoreFile} (inForce : ignoreFiles t s root false = .ok own)
    (nested : ignoreFiles t s root true = .ok all) : own ⊆ all := by
  intro f member
  obtain ⟨names, rule, read⟩ := (mem_rules_iff rooted leads inForce).mp member
  exact (mem_rules_iff rooted leads nested).mpr ⟨names, rule.nested rooted leads unlinked, read⟩

end Rooted

/-! ### Two scans -/

theorem sublist_of_ascending {ps qs : List Path} (ascending : ps.Pairwise fun p q => p.text < q.text)
    (ascending' : qs.Pairwise fun p q => p.text < q.text) (subset : ps ⊆ qs) : ps.Sublist qs := by
  have apart : ps.Nodup := by
    apply ascending.imp
    rintro p _ less rfl
    exact lt_irrefl _ less
  have antisymmetric : Std.Antisymm fun p q : Path => p.text < q.text :=
    ⟨fun _ _ less more => absurd more (lt_asymm less)⟩
  exact List.sublist_of_subperm_of_pairwise (List.subperm_of_subset apart subset) ascending ascending'

/-- The options with rules looked for in all directories, or in the root alone. -/
def Options.nesting (o : Options) (nested : Bool) : Options := { o with nestedIgnore := nested }

section Rooted

variable (rooted : t.Rooted) (leads : t.status s root = .ok (top, .dir))
include rooted leads

/-- A scan with the rules of the root alone comes to an end if these decide about all candidates; what the
    links are asked is less than before. -/
theorem own_scan_defined_iff (scanned : Defined (sources t s root (o.nesting true)))
    (inForce : ignoreFiles t s root false = .ok rules) :
    Defined (sources t s root (o.nesting false)) ↔
      ∀ p, Candidate t s root top (Path.ofText o.outputDirectory) p →
        Defined (ignored s root rules p) := by
  have nested := (sources_defined_iff rooted leads).mp scanned
  obtain ⟨ruleLinks, readable⟩ := (rules_defined_iff rooted leads false).mp ⟨rules, inForce⟩
  constructor
  · intro ended
    have own := (sources_defined_iff rooted leads).mp ended
    exact own.decides rules inForce
  · intro decides
    apply (sources_defined_iff rooted leads).mpr
    refine ⟨ruleLinks, nested.sourceLinks, readable, ?_⟩
    intro rules' inForce'
    obtain rfl := Except.ok.inj (inForce.symm.trans inForce')
    exact decides

end Rooted

/- Rules below the root only take more files out. Unless the rules of the root are behind a link, each
   file that is found with them is a source file without them as well; a scan without them finds all
   of these, in the same order, and what else it finds was ignored below the root. It comes to an end if
   the rules of the root decide about those candidates that were ignored: they may not have been asked. -/
theorem nested_rules_ignore_more (wellFormed : t.WellFormed) (distinct : t.Distinct)
    (leads : t.status s root = .ok (top, .dir)) (unlinked : ¬ LinkedRules t s root top)
    {ps : List Path} (scanned : sources t s root (o.nesting true) = .ok ps) :
    ∃ own all, ignoreFiles t s root false = .ok own ∧ ignoreFiles t s root true = .ok all ∧
      (∀ p ∈ ps, SourceFile t s root top (o.nesting false) own p) ∧
      (∀ qs, sources t s root (o.nesting false) = .ok qs →
        ps.Sublist qs ∧ ∀ p ∈ qs, p ∉ ps → ignored s root all p = .ok true) ∧
      ((∃ qs, sources t s root (o.nesting false) = .ok qs) ↔
        ∀ p, Candidate t s root top (Path.ofText o.outputDirectory) p →
          ignored s root all p = .ok true → Defined (ignored s root own p)) := by
  obtain ⟨all, nested, members⟩ := mem_sources_iff wellFormed.rooted leads scanned
  obtain ⟨own, inForce⟩ := ownRules_defined wellFormed.rooted leads unlinked ⟨all, nested⟩
  have subset := ownRules_subset wellFormed.rooted leads unlinked inForce nested
  have decides := ((sources_defined_iff wellFormed.rooted leads).mp ⟨ps, scanned⟩).decides all nested
  have kept : ∀ p ∈ ps, SourceFile t s root top (o.nesting false) own p := by
    intro p member
    have source := (members p).mp member
    exact ⟨source.toCandidate, ignored_of_subset subset source.kept, source.included,
      source.notExcluded⟩
  refine ⟨own, all, inForce, nested, kept, ?_, ?_⟩
  · intro qs scanned'
    obtain ⟨own', inForce', members'⟩ := mem_sources_iff wellFormed.rooted leads scanned'
    obtain rfl := Except.ok.inj (inForce.symm.trans inForce')
    constructor
    · apply sublist_of_ascending (Generation.sources_ascending wellFormed distinct scanned)
        (Generation.sources_ascending wellFormed distinct scanned')
      intro p member
      exact (members' p).mpr (kept p member)
    · intro p member missing
      have source := (members' p).mp member
      obtain ⟨taken, decided⟩ := decides p source.toCandidate
      cases taken with
      | true => exact decided
      | false =>
        have again : SourceFile t s root top (o.nesting true) all p :=
          ⟨source.toCandidate, decided, source.included, source.notExcluded⟩
        exact absurd ((members p).mpr again) missing
  · rw [← Defined, own_scan_defined_iff wellFormed.rooted leads ⟨ps, scanned⟩ inForce]
    constructor
    · intro decides' p candidate _
      exact decides' p candidate
    · intro asked p candidate
      obtain ⟨taken, decided⟩ := decides p candidate
      cases taken with
      | true => exact asked p candidate decided
      | false => exact ⟨false, ignored_of_subset subset decided⟩

/-! ### Trees that tell the two scans apart -/

theorem sortPaths_of_ordered {ps : List Path} (ordered : ps.Pairwise fun p q => p.text ≤ q.text) :
    sortPaths ps = ps := by
  apply List.mergeSort_of_pairwise
  apply ordered.imp
  intro p q least
  exact decide_eq_true least

/-- What is found with the rules of the root, where files are listed in the order of their paths. -/
theorem own_sources_of_parts (leads : t.status s root = .ok (top, .dir)) {ps : List Path}
    (tested : ∃ own, ignoreFiles t s root false = .ok own ∧
      (keep (isSource t s root (o.nesting false) own)
        (pathsBelow t.entries top (·.endsWith sourceExtension))).toOption = some ps)
    (ordered : ps.Pairwise fun p q => p.text ≤ q.text) :
    sources t s root (o.nesting false) = .ok ps := by
  obtain ⟨own, inForce, kept⟩ := tested
  exact (sources_eq_ok_iff leads).mpr
    ⟨own, ps, inForce, eq_ok_of_toOption kept, sortPaths_of_ordered ordered⟩

/-- What is found with the rules of all directories, where their files are listed in that order too. -/
theorem nested_sources_of_parts (leads : t.status s root = .ok (top, .dir)) (plain : List Path)
    {ps : List Path} (found : (keep (fun p => isPlainFile t s (root.join p))
      (pathsBelow t.entries top (· == ignoreFileName))).toOption = some plain)
    (tested : ∃ all, readIgnoreFiles t s (plain.map root.join) = .ok all ∧
      (keep (isSource t s root (o.nesting true) all)
        (pathsBelow t.entries top (·.endsWith sourceExtension))).toOption = some ps)
    (ordered : plain.Pairwise fun p q => p.text ≤ q.text)
    (ordered' : ps.Pairwise fun p q => p.text ≤ q.text) :
    sources t s root (o.nesting true) = .ok ps := by
  obtain ⟨all, read, kept⟩ := tested
  rw [← sortPaths_of_ordered ordered] at read
  have inForce : ignoreFiles t s root true = .ok all := by
    simp only [ignoreFiles, ↓reduceIte, below_eq leads, bind_eq_ok_iff, mapError_eq_ok_iff]
    exact ⟨_, rfl, plain, eq_ok_of_toOption found, read⟩
  exact (sources_eq_ok_iff leads).mpr
    ⟨all, ps, inForce, eq_ok_of_toOption kept, sortPaths_of_ordered ordered'⟩

/-- The root ignores a name. A directory takes that name back and ignores another one. -/
def retractingTree : FileTree :=
  ⟨[(["tree"], .dir), (["tree", ".gitignore"], .file (Text.Utf8.ofString "old.py\n")),
    (["tree", "a"], .dir),
    (["tree", "a", ".gitignore"], .file (Text.Utf8.ofString "!old.py\nb.py\n")),
    (["tree", "a", "b.py"], .file []), (["tree", "a", "c.py"], .file []),
    (["tree", "a", "old.py"], .file []), (["tree", "b.py"], .file [])]⟩

theorem retractingTree_ignores_more :
    retractingTree.WellFormed ∧ retractingTree.Distinct ∧
    retractingTree.status ⟨[], "/home"⟩ ⟨0, ["tree"]⟩ = .ok (["tree"], .dir) ∧
    ¬ LinkedRules retractingTree ⟨[], "/home"⟩ ⟨0, ["tree"]⟩ ["tree"] ∧
    sources retractingTree ⟨[], "/home"⟩ ⟨0, ["tree"]⟩ (Options.nesting {} true) =
      .ok [⟨0, ["a", "c.py"]⟩, ⟨0, ["b.py"]⟩] ∧
    sources retractingTree ⟨[], "/home"⟩ ⟨0, ["tree"]⟩ (Options.nesting {} false) =
      .ok [⟨0, ["a", "b.py"]⟩, ⟨0, ["a", "c.py"]⟩, ⟨0, ["b.py"]⟩] ∧
    ([⟨0, ["a", "c.py"]⟩, ⟨0, ["b.py"]⟩] : List Path).Sublist
      [⟨0, ["a", "b.py"]⟩, ⟨0, ["a", "c.py"]⟩, ⟨0, ["b.py"]⟩] := by
  have wellFormed : retractingTree.WellFormed := by decide +kernel
  have distinct : retractingTree.Distinct := by decide +kernel
  have leads : retractingTree.status ⟨[], "/home"⟩ ⟨0, ["tree"]⟩ = .ok (["tree"], .dir) :=
    eq_ok_of_toOption (by decide +kernel)
  have unlinked : ¬ LinkedRules retractingTree ⟨[], "/home"⟩ ⟨0, ["tree"]⟩ ["tree"] := by
    rintro ⟨target, q, bytes, link, -⟩
    cases link
  have nested : sources retractingTree ⟨[], "/home"⟩ ⟨0, ["tree"]⟩ (Options.nesting {} true) =
      .ok [⟨0, ["a", "c.py"]⟩, ⟨0, ["b.py"]⟩] := by
    apply nested_sources_of_parts leads [⟨0, [".gitignore"]⟩, ⟨0, ["a", ".gitignore"]⟩]
    all_goals decide +kernel
  have own : sources retractingTree ⟨[], "/home"⟩ ⟨0, ["tree"]⟩ (Options.nesting {} false) =
      .ok [⟨0, ["a", "b.py"]⟩, ⟨0, ["a", "c.py"]⟩, ⟨0, ["b.py"]⟩] := by
    apply own_sources_of_parts leads
    all_goals decide +kernel
  obtain ⟨rules, all, -, -, -, finds, -⟩ :=
    nested_rules_ignore_more wellFormed distinct leads unlinked nested
  exact ⟨wellFormed, distinct, leads, unlinked, nested, own, (finds _ own).1⟩

/-- The rules of the root are behind a link. -/
def linkedTree : FileTree :=
  ⟨[(["tree"], .dir), (["tree", "rules"], .file (Text.Utf8.ofString "m.py\n")),
    (["tree", ".gitignore"], .link "rules"), (["tree", "m.py"], .file [])]⟩

/-- A rule of the root is no expression. It is not asked about the file in the directory, which is
    ignored there, nor about the other one, which a rule behind it takes back. -/
def brokenTree : FileTree :=
  ⟨[(["tree"], .dir), (["tree", "#"], .dir),
    (["tree", "#", ".gitignore"], .file (Text.Utf8.ofString "p.py\n")),
    (["tree", "#", "p.py"], .file []),
    (["tree", ".gitignore"], .file (Text.Utf8.ofString "[z-a]\n!q.py\n")),
    (["tree", "q.py"], .file [])]⟩

/-- Files that are found with the rules of all directories and not with those of the root: one that only
    rules behind a link ignore, and one of a scan that the broken rule stops. -/
theorem linkedTree_ignores_less :
    (linkedTree.WellFormed ∧ linkedTree.Distinct ∧
      linkedTree.status ⟨[], "/home"⟩ ⟨0, ["tree"]⟩ = .ok (["tree"], .dir) ∧
      sources linkedTree ⟨[], "/home"⟩ ⟨0, ["tree"]⟩ (Options.nesting {} true) =
        .ok [⟨0, ["m.py"]⟩] ∧
      sources linkedTree ⟨[], "/home"⟩ ⟨0, ["tree"]⟩ (Options.nesting {} false) = .ok []) ∧
    brokenTree.WellFormed ∧ brokenTree.Distinct ∧
      brokenTree.status ⟨[], "/home"⟩ ⟨0, ["tree"]⟩ = .ok (["tree"], .dir) ∧
      sources brokenTree ⟨[], "/home"⟩ ⟨0, ["tree"]⟩ (Options.nesting {} true) =
        .ok [⟨0, ["q.py"]⟩] ∧
      ∀ qs, sources brokenTree ⟨[], "/home"⟩ ⟨0, ["tree"]⟩ (Options.nesting {} false) ≠ .ok qs := by
  have leads : linkedTree.status ⟨[], "/home"⟩ ⟨0, ["tree"]⟩ = .ok (["tree"], .dir) :=
    eq_ok_of_toOption (by decide +kernel)
  have leads' : brokenTree.status ⟨[], "/home"⟩ ⟨0, ["tree"]⟩ = .ok (["tree"], .dir) :=
    eq_ok_of_toOption (by decide +kernel)
  refine ⟨⟨by decide +kernel, by decide +kernel, leads, ?_, ?_⟩, by decide +kernel, by decide +kernel,
    leads', ?_, ?_⟩
  · apply nested_sources_of_parts leads []
    all_goals decide +kernel
  · apply own_sources_of_parts leads
    all_goals decide +kernel
  · apply nested_sources_of_parts leads'
      [⟨0, ["#", ".gitignore"]⟩, ⟨0, [".gitignore"]⟩]
    all_goals decide +kernel
  · intro qs scanned
    obtain ⟨own, kept, inForce, tested, -⟩ := (sources_eq_ok_iff leads').mp scanned
    have refused : ∃ own, ignoreFiles brokenTree ⟨[], "/home"⟩ ⟨0, ["tree"]⟩ false = .ok own ∧
        (keep (isSource brokenTree ⟨[], "/home"⟩ ⟨0, ["tree"]⟩ (Options.nesting {} false) own)
          (pathsBelow brokenTree.entries ["tree"] (·.endsWith sourceExtension))).toOption = none := by
      decide +kernel
    obtain ⟨own', inForce', refused⟩ := refused
    obtain rfl := Except.ok.inj (inForce.symm.trans inForce')
    simp [tested, Except.toOption] at refused

end Bindery.Scan

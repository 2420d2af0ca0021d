import Bindery.CommandLine.Run
import Bindery.Proofs.ModuleNames
import Bindery.Proofs.MovedSpans

/- A file that is expanded alone. The command that expands one file and the generation of a tree take the
   same steps, under different paths: what the one prints the other writes, and the problems that
   they tell are the same but for the path. -/
namespace Bindery

/-! ### Expansions under other names -/

namespace Expansion

/-- What a body that is read comes to, by what its declarations come to. -/
theorem ofSource_cases (source : String) (path moduleName : Option String) :
    (∃ d, Declaration.ofSource source path = .error (.unreadable d) ∧
      ofSource source path moduleName = .error (.problems ⟨d, []⟩)) ∨
    (∃ f, Declaration.ofSource source path = .error (.source f) ∧
      ofSource source path moduleName = .error (.registry (.source f))) ∨
    ∃ ds, Declaration.ofSource source path = .ok ds ∧
      ofSource source path moduleName = (ofDeclarations source path moduleName ds).1 := by
  rcases read : Declaration.ofSource source path with (d | f) | ds
  · exact .inl ⟨d, rfl, by simp [ofSource, read, bind, Except.bind, Fault.ofRead]⟩
  · exact .inr (.inl ⟨f, rfl, by simp [ofSource, read, bind, Except.bind, Fault.ofRead]⟩)
  · exact .inr (.inr ⟨ds, rfl, ofSource_read read⟩)

/-- A name that is derived can as well be given. -/
theorem ofSource_named {source : String} {path moduleName : Option String} {e : Expansion}
    (expanded : ofSource source path moduleName = .ok e) :
    ofSource source path (some e.moduleName) = .ok e := by
  obtain ⟨ds, read, found⟩ := bind_eq_ok_iff.mp expanded
  refine bind_eq_ok_iff.mpr ⟨ds, read, ?_⟩
  rw [name_of_ok found]
  exact found

/-- What keeps declarations from being expanded is the same under every name. -/
theorem ofDeclarations_refused {source : String} {path moduleName : Option String}
    {ds : List Declaration} {fault : Fault}
    (refused : (ofDeclarations source path moduleName ds).1 = .error fault) (other : Option String) :
    (ofDeclarations source path other ds).1 = .error fault := by
  unfold ofDeclarations at refused ⊢
  cases walked : Walk.ofDeclarations ds with
  | error stop => simpa [walked] using refused
  | ok w =>
    cases collected : Diagnostic.Batch.ofList? w.diagnostics with
    | some batch => simpa [walked, collected] using refused
    | none =>
      -- the name stands only in the tail, which is put together without fault
      simp only [walked, collected, expandedSource] at refused ⊢
      cases written : Glue.registrations w.registry.entries with
      | error f => simpa [written, bind, Except.bind] using refused
      | ok statements => simp [written, bind, Except.bind, pure, Except.pure] at refused

theorem ofSource_refused {source : String} {path moduleName : Option String} {fault : Fault}
    (refused : ofSource source path moduleName = .error fault) (other : Option String) :
    ofSource source path other = .error fault := by
  rcases bind_eq_error_iff.mp refused with early | ⟨ds, read, late⟩
  · exact bind_eq_error_iff.mpr (.inl early)
  · exact bind_eq_error_iff.mpr (.inr ⟨ds, read, ofDeclarations_refused late other⟩)

/-- What keeps a source from being expanded is the same under every path, but for its places. -/
theorem ofSource_refused_elsewhere {source : String} {before moduleName : Option String} {fault : Fault}
    (refused : ofSource source before moduleName = .error fault) (other path : Option String) :
    ofSource source path other = .error (fault.moved path) := by
  have moved := ofSource_moved path source "" before
  rw [ofSource_refused refused (some ""), movedOutcome_error] at moved
  exact ofSource_refused moved other

/-- The same items, under conditions of the same structure. -/
def SameItems (e e' : Expansion) : Prop :=
  List.Forall₂ (fun a b : Entry => a.item = b.item ∧ Guard.sameList a.guards b.guards = true)
    e.registry.entries e'.registry.entries

theorem sameList_moved_self (path : Option String) (guards : List Guard) :
    Guard.sameList (guards.map (·.moved path)) guards = true := by
  induction guards with
  | nil => rfl
  | cons g gs ih =>
    simp only [List.map_cons, Guard.sameList, ih, Bool.and_true]
    exact beq_self_eq_true g.key

theorem sameItems_moved (path : Option String) (e : Expansion) : SameItems (e.moved path) e := by
  unfold SameItems
  rw [moved, Registry.moved, List.forall₂_map_left_iff, List.forall₂_same]
  exact fun entry _ => ⟨rfl, sameList_moved_self path entry.guards⟩

end Expansion

/-! ### The command -/

namespace CommandLine

open Generation (readSource)

variable {t : FileTree} {s : Surroundings} {level : Log.Level} {file source : String}
  {name output : Option String}

theorem ofExpansion_debug {path : Option String} {ds : List Declaration}
    {found : Except Expansion.Fault Expansion} : ∀ l ∈ Log.ofExpansion path ds found, l.level = .debug := by
  intro l member
  rcases List.mem_append.mp member with registered | expanded
  · obtain ⟨e, -, rfl⟩ := List.mem_map.mp registered
    rfl
  · cases found with
    | ok e =>
      obtain rfl := List.mem_singleton.mp expanded
      rfl
    | error fault => simp at expanded

section

variable (read : readSource t s (Path.ofText file) = .ok source)
include read

theorem read_of_readSource : ∃ bytes, t.read s (Path.ofText file) = .ok bytes := by
  obtain ⟨bytes, found, -⟩ := bind_eq_ok_iff.mp read
  exact ⟨bytes, mapError_eq_ok_iff.mp found⟩

theorem expand_problems (level : Log.Level) (output : Option String) {batch : Diagnostic.Batch}
    (refused : Expansion.ofSource source (some (Path.ofText file).text) name = .error (.problems batch)) :
    ∃ lines : List Log.Line, (∀ l ∈ lines, l.level = .debug) ∧ expand t s level file name output =
      .told t problemsFound (Log.shown level lines ++ batchLines batch) := by
  obtain ⟨bytes, legible⟩ := read_of_readSource read
  rcases Expansion.ofSource_cases source (some (Path.ofText file).text) name with
    ⟨d, parsed, found⟩ | ⟨f, parsed, found⟩ | ⟨ds, parsed, found⟩
  · obtain rfl : ⟨d, []⟩ = batch := by simpa [found] using refused
    refine ⟨[], by simp, ?_⟩
    simp [expand, legible, read, parsed, batchLines, Diagnostic.Batch.toList, Log.shown]
  · simp [found] at refused
  · rw [found] at refused
    exact ⟨_, ofExpansion_debug, by simp [expand, legible, read, parsed, refused]; rfl⟩

theorem expand_fault (level : Log.Level) (output : Option String) {fault : Registry.Fault}
    (refused : Expansion.ofSource source (some (Path.ofText file).text) name = .error (.registry fault)) :
    ∃ lines : List Log.Line, (∀ l ∈ lines, l.level = .debug) ∧ expand t s level file name output =
      { exit := .error (.registry fault), errors := Log.shown level lines, tree := t } := by
  obtain ⟨bytes, legible⟩ := read_of_readSource read
  rcases Expansion.ofSource_cases source (some (Path.ofText file).text) name with
    ⟨d, parsed, found⟩ | ⟨f, parsed, found⟩ | ⟨ds, parsed, found⟩
  · simp [found] at refused
  · obtain rfl : .source f = fault := by simpa [found] using refused
    exact ⟨[], by simp, by simp [expand, legible, read, parsed, Log.shown]⟩
  · rw [found] at refused
    exact ⟨_, ofExpansion_debug, by simp [expand, legible, read, parsed, refused]; rfl⟩

theorem expand_expanded (level : Log.Level) {e : Expansion}
    (expanded : Expansion.ofSource source (some (Path.ofText file).text) name = .ok e) :
    ∃ lines : List Log.Line, (∀ l ∈ lines, l.level = .debug) ∧ expand t s level file name none =
      { exit := .ok success, output := e.source, errors := Log.shown level lines, tree := t } := by
  obtain ⟨bytes, legible⟩ := read_of_readSource read
  obtain ⟨ds, parsed, found⟩ := bind_eq_ok_iff.mp expanded
  rw [mapError_eq_ok_iff] at parsed
  exact ⟨_, ofExpansion_debug, by simp [expand, legible, read, parsed, found]; rfl⟩

end

/-! ### Words -/

theorem named_ne (word : String) (short : '=' ∉ word.toList) (name : String) :
    "--name=" ++ name ≠ word := by
  rintro rfl
  simp at short

theorem cutAtEquals?_named (name : String) : cutAtEquals? ("--name=" ++ name) = some ("--name", name) := by
  simp [cutAtEquals?]

theorem flag?_named {f : Form} (plain : ∀ e ∈ f.spellings, '=' ∉ e.1.toList) (name : String) :
    f.flag? ("--name=" ++ name) = none :=
  List.lookup_eq_none_iff.mpr fun e member => by
    simpa using named_ne e.1 (plain e member) name

theorem expandForm_kindOf (name : String) : kindOf expandForm ("--name=" ++ name) =
    .ok (.flag ⟨some nameFlag, "--name", some name⟩) := by
  have known : expandForm.flag? "--name" = some nameFlag := by decide
  simp [kindOf, exactFlag?, flag?_named (f := expandForm) (by decide) name, cutAtEquals?_named, known]

theorem mainForm_kindOf (name : String) : ∃ kind, kindOf mainForm ("--name=" ++ name) = .ok kind := by
  have unknown : mainForm.flag? "--name" = none := by decide
  have none_ : candidates mainForm ("--name=" ++ name) = [] := by
    have chars : ("--name=" ++ name).toList = '-' :: '-' :: ("name=".toList ++ name.toList) := by simp
    have longer : ∀ e ∈ mainForm.spellings, e.1.startsWith "--name" = false := by decide +kernel
    simp only [candidates, chars, List.filterMap_eq_nil_iff]
    intro e member
    rw [cutAtEquals?_named]
    simp only [longer e member, Bool.false_eq_true, if_false]
  simp only [kindOf, exactFlag?, flag?_named (f := mainForm) (by decide) name, cutAtEquals?_named, none_]
  simp [unknown]
  split <;> exact ⟨_, rfl⟩

theorem resolveFlag_named (name : String) :
    resolveFlag expandForm nameFlag ⟨some nameFlag, "--name", some name⟩ = .ok (nameFlag, some name) := by
  have takes : nameFlag.asksHelp = false := rfl
  by_cases none_ : name = ""
  · simp [resolveFlag, none_, takes]
  · obtain ⟨c, rest, chars⟩ := List.exists_cons_of_ne_nil (mt String.toList_eq_nil_iff.mp none_)
    have whole : String.ofList (c :: rest) = name := by rw [← chars, String.ofList_toList]
    simp [resolveFlag, none_, chars, lastOfCluster, takes, whole]

theorem expandForm_read (name file : String) : expandForm.read ["--name=" ++ name, "--", file] =
    .ok { values := [("--name", name)], operand := some [file] } := by
  have classified : classify expandForm ["--name=" ++ name, "--", file] =
      .ok [⟨"--name=" ++ name, .flag ⟨some nameFlag, "--name", some name⟩⟩, ⟨"--", .separator⟩,
        ⟨file, .operand⟩] := by
    simp [classify, named_ne "--" (by decide) name, expandForm_kindOf]
    rfl
  have read : readFlag expandForm {} ("--name=" ++ name) ⟨some nameFlag, "--name", some name⟩
      [⟨"--", .separator⟩, ⟨file, .operand⟩] =
      .ok ({ values := [("--name", name)] }, [⟨"--", .separator⟩, ⟨file, .operand⟩]) := by
    simp only [readFlag, resolveFlag_named]
    rfl
  have words : readWords expandForm 4 {}
      [⟨"--name=" ++ name, .flag ⟨some nameFlag, "--name", some name⟩⟩, ⟨"--", .separator⟩,
        ⟨file, .operand⟩] = .ok { values := [("--name", name)], operand := some [file] } :=
    bind_eq_ok_iff.mpr ⟨_, read, rfl⟩
  simp only [Form.read, classified]
  exact bind_eq_ok_iff.mpr ⟨_, rfl, bind_eq_ok_iff.mpr ⟨_, words, rfl⟩⟩

theorem mainForm_read (name file : String) :
    mainForm.read ["expand", "--name=" ++ name, "--", file] =
      .ok { operand := some ["expand", "--name=" ++ name, "--", file] } := by
  obtain ⟨kind, known⟩ := mainForm_kindOf name
  have command : kindOf mainForm "expand" = .ok .operand := rfl
  have classified : classify mainForm ["expand", "--name=" ++ name, "--", file] =
      .ok [⟨"expand", .operand⟩, ⟨"--name=" ++ name, kind⟩, ⟨"--", .separator⟩, ⟨file, .operand⟩] := by
    simp [classify, named_ne "--" (by decide) name, known, command]
    rfl
  simp only [Form.read, classified]
  cases kind <;> rfl

/-- A command line that asks for the expansion of a file under a name. -/
theorem ofWords_expand (name file : String) :
    Invocation.ofWords ["expand", "--name=" ++ name, "--", file] =
      .ok { request := .expand file (some name) none } := by
  have command : readCommand "expand" ["--name=" ++ name, "--", file] =
      .ok (.expand file (some name) none, []) := by
    simp only [readCommand, expandForm_read]
    rfl
  simp only [Invocation.ofWords, mainForm_read]
  exact bind_eq_ok_iff.mpr ⟨_, rfl, bind_eq_ok_iff.mpr ⟨_, command, rfl⟩⟩

end CommandLine

/-! ### Beside a generation -/

namespace Path

theorem namesOf_slash (cs : List Char) : namesOf ('/' :: cs) = namesOf cs := by
  simp [namesOf, Text.splitAt]

theorem namesOf_intercalate {names : List String} (textual : ∀ name ∈ names, Textual name) :
    namesOf ("/".intercalate names).toList = names := by
  by_cases top : names = []
  · subst top
    decide
  · have read := congrArg Path.names (ofText_text textual)
    simpa only [text, top, root, ofText, List.isEmpty_iff, decide_true, Bool.true_and, if_false,
      List.replicate_zero, String.ofList_nil, String.empty_append] using read

theorem leading_eq {k : Nat} {cs : List Char} (few : k ≤ 2) (bare : leading cs = 0) :
    leading (List.replicate k '/' ++ cs) = k := by
  have none_ : (cs.takeWhile (· = '/')).length = 0 := by
    dsimp only [leading] at bare
    split at bare
    · exact bare
    · cases bare
  have count : ((List.replicate k '/' ++ cs).takeWhile (· = '/')).length = k := by
    rw [List.takeWhile_append_of_pos (by simp), List.length_append, none_, List.length_replicate, Nat.add_zero]
  simp only [leading, count, few, if_true]

theorem namesOf_replicate (k : Nat) (cs : List Char) :
    namesOf (List.replicate k '/' ++ cs) = namesOf cs := by
  induction k with
  | zero => rfl
  | succ k ih => rw [List.replicate_succ, List.cons_append, namesOf_slash, ih]

/-- A path is read back from its text. -/
theorem ofText_text_of_textual {p : Path} (few : p.slashes ≤ 2)
    (textual : ∀ name ∈ p.names, Textual name) : ofText p.text = p := by
  obtain ⟨slashes, names⟩ := p
  by_cases relative : slashes = 0
  · subst relative
    exact ofText_text textual
  · have written : (text ⟨slashes, names⟩).toList =
        List.replicate slashes '/' ++ ("/".intercalate names).toList := by
      rw [text, if_neg (by simp [relative]), String.toList_append, root, String.toList_ofList]
    rw [ofText, written, leading_eq few (leading_intercalate textual), namesOf_replicate,
      namesOf_intercalate textual]

end Path

namespace Generation

variable {t : FileTree} {s : Surroundings} {root : Path} {out : Option Path} {settings : Option Settings}
  {chosen : Settings} {place : Path} {sources : List Path} {r : Path}

theorem readSource_congr {p q : Path} (same : t.read s p = t.read s q) :
    readSource t s p = readSource t s q := by
  unfold readSource
  rw [same]

/-- A source file is read by the command when it is given the text of its path. -/
theorem ofText_source (wellFormed : t.WellFormed) (few : root.slashes ≤ 2)
    (textual : ∀ name ∈ root.names, Path.Textual name)
    (prepared : prepare t s root out settings = .ok (chosen, place, sources)) (member : r ∈ sources) :
    Path.ofText (root.join r).text = root.join r := by
  obtain ⟨-, -, skipped, -, scanned⟩ := prepare_eq_ok_iff.mp prepared
  obtain ⟨names, name, rfl, -, writable⟩ := sourcePath_of_mem wellFormed scanned member
  refine Path.ofText_text_of_textual few fun other inPath => ?_
  rcases List.mem_append.mp inPath with above | below
  · exact textual other above
  · exact (writable other below).textual

/-- The problems of a file are among those of the generation, unless a fault stops it. -/
theorem run_of_problems {ds : List Diagnostic}
    (prepared : prepare t s root out settings = .ok (chosen, place, sources)) (member : r ∈ sources)
    (examined : (examine t s root chosen r).1 = .ok (.problems ds)) (some_ : ds ≠ []) :
    (∃ found, (run t s root out settings).result = .error (.problems found) ∧ ds <:+: found.toList) ∨
      ∃ fault, (run t s root out settings).result = .error (.registry fault) := by
  rcases surveyed : Survey.along t s root chosen {} sources with ⟨v, _ | fault⟩
  · have own : problemsOf r.text (readSource t s (root.join r)) = ds := (examine_diagnostics examined).symm
    have collected := Survey.along_diagnostics surveyed
    obtain ⟨before, after, rfl⟩ := List.append_of_mem member
    rw [List.nil_append, List.flatMap_append, List.flatMap_cons, own] at collected
    have among : ds <:+: v.diagnostics := ⟨_, _, by rw [collected, List.append_assoc]⟩
    obtain ⟨found, batch⟩ : ∃ found, Diagnostic.Batch.ofList? v.diagnostics = some found := by
      refine Option.ne_none_iff_exists'.mp fun none_ => some_ ?_
      rw [(Diagnostic.Batch.ofList?_eq_none_iff _).mp none_] at among
      exact List.infix_nil.mp among
    have whole := Diagnostic.Batch.ofList?_eq_some_iff.mp batch
    refine .inl ⟨found, ?_, whole ▸ among⟩
    exact run_problems_iff.mpr (plan_problems_iff.mpr ⟨_, _, _, _, prepared, surveyed, whole⟩)
  · refine .inr ⟨fault, ?_⟩
    simp [run, plan, prepared, surveyed]

theorem run_of_fault {fault : Registry.Fault}
    (prepared : prepare t s root out settings = .ok (chosen, place, sources)) (member : r ∈ sources)
    (examined : (examine t s root chosen r).1 = .error fault) :
    ∃ first, (run t s root out settings).result = .error (.registry first) := by
  rcases surveyed : Survey.along t s root chosen {} sources with ⟨v, _ | first⟩
  · obtain ⟨finding, ended⟩ := Survey.along_examined surveyed r member
    simp [examined] at ended
  · exact ⟨first, by simp [run, plan, prepared, surveyed]⟩

/-- A plan writes the text of every file that is expanded. -/
theorem written_of_expanded {p : Plan} {b : Body}
    (prepared : prepare t s root out settings = .ok (chosen, place, sources)) (member : r ∈ sources)
    (examined : (examine t s root chosen r).1 = .ok (.expanded b))
    (planned : (plan t s root out settings).1 = .ok p) :
    (p.out.join (Path.ofText b.path), Text.Utf8.ofString b.expansion.source) ∈ p.files := by
  obtain ⟨chosen', place', sources', v, prepared', surveyed, -, rfl⟩ := plan_ok_iff.mp planned
  rw [prepared, Except.ok.injEq, Prod.mk.injEq, Prod.mk.injEq] at prepared'
  obtain ⟨rfl, rfl, rfl⟩ := prepared'
  have inSurvey : b ∈ v.bodies := by
    rw [Survey.along_bodies surveyed, List.nil_append]
    exact List.mem_filterMap.mpr ⟨r, member, Survey.bodyOf_eq_some_iff.mpr examined⟩
  exact List.mem_append_left _ (List.mem_map_of_mem inSurvey)

end Generation

namespace CommandLine

open Generation

/-- A command line prints a text, and changes nothing. -/
def Prints (t : FileTree) (s : Surroundings) (words : List String) (text : String) : Prop :=
  (run t s words).exit = .ok success ∧ (run t s words).output = text ∧ (run t s words).tree = t

/-- A command line tells problems, behind nothing but lines for debugging, and changes nothing. -/
def Tells (t : FileTree) (s : Surroundings) (words : List String) (level : Log.Level)
    (batch : Diagnostic.Batch) : Prop :=
  ∃ lines : List Log.Line, (∀ l ∈ lines, l.level = .debug) ∧
    run t s words = .told t problemsFound (Log.shown level lines ++ batchLines batch)

/-- The expansion of a file alone, set beside the generation of a tree. -/
structure AloneAsInTree (t : FileTree) (s : Surroundings) (root : Path) (out : Option Path)
    (settings : Option Settings) (chosen : Settings) (r : Path) (file : String) : Prop where
  /-- There is a command line for every name. -/
  asked : ∀ name, Invocation.ofWords ["expand", "--name=" ++ name, "--", file] =
    .ok { request := .expand file (some name) none }
  /-- Under the same name, the command prints what the generation writes. -/
  printed : ∀ b, (examine t s root chosen r).1 = .ok (.expanded b) →
    (∀ words level, Invocation.ofWords words =
        .ok ⟨level, .expand file (some b.expansion.moduleName) none⟩ →
      Prints t s words b.expansion.source) ∧
    ∀ p, (plan t s root out settings).1 = .ok p →
      (p.out.join (Path.ofText b.path), Text.Utf8.ofString b.expansion.source) ∈ p.files
  /-- Under any name, the command tells the problems that the generation tells among all others. -/
  told : ∀ source ds, readSource t s (root.join r) = .ok source →
    (examine t s root chosen r).1 = .ok (.problems ds) →
    ∃ batch : Diagnostic.Batch, batch.toList = ds ∧
      (∀ words level name output, Invocation.ofWords words = .ok ⟨level, .expand file name output⟩ →
        Tells t s words level (batch.moved (some (Path.ofText file).text))) ∧
      ((∃ found, (Generation.run t s root out settings).result = .error (.problems found) ∧
          ds <:+: found.toList) ∨
        ∃ fault, (Generation.run t s root out settings).result = .error (.registry fault))
  /-- A fault that is no problem stops both. -/
  stopped : ∀ source fault, readSource t s (root.join r) = .ok source →
    (examine t s root chosen r).1 = .error fault →
    (∀ words level name output, Invocation.ofWords words = .ok ⟨level, .expand file name output⟩ →
      (run t s words).exit = .error (.registry fault)) ∧
    ∃ first, (Generation.run t s root out settings).result = .error (.registry first)

/- The expansion of one file agrees with the generation of a tree. For every source file that a
   generation goes over, and every path that reads the same, the command prints what the generation
   writes, or tells the problems that it tells, with the command's path in place of the file's. This
   is so because no path decides anything: under a name that is given, any source is expanded
   under one path as under any other, to the same text and the same items under the same
   conditions, or to the same problems but for their path. -/
theorem expansion_agrees_with_generation :
    (∀ (t : FileTree) (s : Surroundings) (root : Path) (out : Option Path) (settings : Option Settings)
        (chosen : Settings) (place : Path) (sources : List Path),
      prepare t s root out settings = .ok (chosen, place, sources) →
      ∀ r ∈ sources, ∀ file, t.read s (Path.ofText file) = t.read s (root.join r) →
        AloneAsInTree t s root out settings chosen r file) ∧
    ∀ (source name : String) (before path : Option String),
      Expansion.ofSource source path (some name) =
        movedOutcome (·.moved path) (·.moved path) (Expansion.ofSource source before (some name)) ∧
      ∀ e, Expansion.ofSource source before (some name) = .ok e →
        (e.moved path).source = e.source ∧ Expansion.SameItems (e.moved path) e := by
  refine ⟨fun t s root out settings chosen place sources prepared r member file same =>
      ⟨fun name => ofWords_expand name file, ?_, ?_, ?_⟩,
    fun source name before path => ⟨Expansion.ofSource_moved path source name before,
      fun e _ => ⟨rfl, Expansion.sameItems_moved path e⟩⟩⟩
  · intro b examined
    refine ⟨fun words level asked => ?_, fun p planned =>
      written_of_expanded prepared member examined planned⟩
    obtain ⟨source, read, -, found⟩ := expansion_of_expanded examined
    have moved := Expansion.ofSource_moved (some (Path.ofText file).text) source
      b.expansion.moduleName (some r.text)
    rw [Expansion.ofSource_named found] at moved
    obtain ⟨lines, -, outcome⟩ := expand_expanded (readSource_congr same ▸ read) level moved
    have ran : run t s words = expand t s level file (some b.expansion.moduleName) none := by
      simp only [run, asked, runRequest]
    rw [Prints, ran, outcome]
    exact ⟨rfl, rfl, rfl⟩
  · intro source ds read examined
    obtain ⟨batch, found, rfl⟩ : ∃ batch,
        Expansion.ofSource source (some r.text) (chosen.nameOf? r.text) = .error (.problems batch) ∧
          ds = batch.toList := by
      simpa [examined] using examine_of_read chosen read
    refine ⟨batch, rfl, fun words level name output asked => ?_,
      run_of_problems prepared member examined (by simp [Diagnostic.Batch.toList])⟩
    obtain ⟨lines, debug, outcome⟩ := expand_problems (readSource_congr same ▸ read) level output
      (Expansion.ofSource_refused_elsewhere found name _)
    exact ⟨lines, debug, by simp only [run, asked, runRequest, outcome]⟩
  · intro source fault read examined
    have found : Expansion.ofSource source (some r.text) (chosen.nameOf? r.text) =
        .error (.registry fault) := by
      simpa [examined] using examine_of_read chosen read
    refine ⟨fun words level name output asked => ?_, run_of_fault prepared member examined⟩
    obtain ⟨lines, -, outcome⟩ := expand_fault (readSource_congr same ▸ read) level output
      (Expansion.ofSource_refused_elsewhere found name _)
    simp only [run, asked, runRequest, outcome]

/-- A tree whose one file gives a binding an argument that it does not have. -/
def refusedTree : FileTree :=
  ⟨[(["tree"], .dir),
    (["tree", "a.py"], .file (Text.Utf8.ofString "@pyfunction(nam='b')\ndef a():\n    pass\n"))]⟩

/-- What is wrong with it, in the file of a path. -/
def refusedName (path : String) : Diagnostic :=
  { message := "@pyfunction got unrecognized argument 'nam', expected one of: name"
    span := ⟨some path, some 1, some 13⟩ }

theorem refusedTree_prepared :
    prepare refusedTree ⟨[], "/home"⟩ ⟨1, ["tree"]⟩ none none =
      .ok ({}, FileTree.pathOf ["tree", ".pymodgen"], [⟨0, ["a.py"]⟩]) := by
  rw [← show Scan.sortPaths [⟨0, ["a.py"]⟩] = [⟨0, ["a.py"]⟩] from List.mergeSort_singleton _]
  exact prepare_of_parts ".pymodgen" [] [⟨0, ["a.py"]⟩] (by decide +kernel)

theorem trees_expanded_alone :
    (∃ p text, (plan neighbourTree ⟨[], "/home"⟩ ⟨0, ["tree"]⟩ none none).1 = .ok p ∧
      Prints neighbourTree ⟨[], "/home"⟩
        ["expand", "--name=now", "--", "tree/.pymodgen-kept/now.py"] text ∧
      (p.out.join ⟨0, [".pymodgen-kept", "now.py"]⟩, Text.Utf8.ofString text) ∈ p.files) ∧
    ∃ batch, batch.toList = [refusedName "/tree/a.py"] ∧
      Tells refusedTree ⟨[], "/home"⟩ ["expand", "--name=b", "--", "/tree/a.py"] .warning batch := by
  constructor
  · obtain ⟨prepared, planned⟩ :=
      neighbourTree_planned none (FileTree.pathOf ["tree", ".pymodgen"]) (by decide +kernel)
    have own := ofText_source (by decide) (by decide) (by decide) prepared
      (List.mem_singleton_self _)
    have agrees := expansion_agrees_with_generation.1 _ _ _ _ _ _ _ _ prepared _
      (List.mem_singleton_self _) "tree/.pymodgen-kept/now.py" (congrArg _ own)
    obtain ⟨b, found, named⟩ : ∃ b, Survey.bodyOf neighbourTree ⟨[], "/home"⟩ ⟨0, ["tree"]⟩ {}
        ⟨0, [".pymodgen-kept", "now.py"]⟩ = some b ∧ b.expansion.moduleName = "now" :=
      Option.map_eq_some_iff.mp (by decide +kernel)
    have examined := Survey.bodyOf_eq_some_iff.mp found
    obtain ⟨prints, written⟩ := agrees.printed b examined
    refine ⟨_, b.expansion.source, planned, prints _ .warning ?_, ?_⟩
    · rw [named]
      exact agrees.asked "now"
    · have there := written _ planned
      rwa [examine_path examined, Path.ofText_text (by decide)] at there
  · have own := ofText_source (by decide) (by decide) (by decide) refusedTree_prepared
      (List.mem_singleton_self _)
    have agrees := expansion_agrees_with_generation.1 _ _ _ _ _ _ _ _ refusedTree_prepared _
      (List.mem_singleton_self _) "/tree/a.py" (congrArg _ own)
    obtain ⟨finding, examined, wrong⟩ : ∃ finding,
        (examine refusedTree ⟨[], "/home"⟩ ⟨1, ["tree"]⟩ {} ⟨0, ["a.py"]⟩).1 = .ok finding ∧
          finding.diagnostics = [refusedName "a.py"] := by
      decide +kernel
    have problems : finding = .problems [refusedName "a.py"] := by
      cases finding <;> simp_all [Finding.diagnostics]
    obtain ⟨source, read⟩ : ∃ source, readSource refusedTree ⟨[], "/home"⟩
        (Path.join ⟨1, ["tree"]⟩ ⟨0, ["a.py"]⟩) = .ok source := ⟨_, rfl⟩
    obtain ⟨batch, same, tells, -⟩ := agrees.told source _ read (problems ▸ examined)
    refine ⟨_, ?_, tells _ .warning (some "b") none (agrees.asked "b")⟩
    rw [Diagnostic.Batch.toList_moved, same]
    rfl

end CommandLine
end Bindery

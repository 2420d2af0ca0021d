import Bindery.Proofs.KeptSources
import Bindery.Proofs.Walks

/- The manifests of a run. A survey without problems has a body for every source file that binds
   something, in the order of the files; and a body has an entry for every annotation that binds. So
   each manifest can be told from the other, and both from the source files. What is written is read
   back as long as no two of the paths lead to one file. -/
namespace Bindery

/-- An expansion has an entry for every binding annotation, in textual order. -/
theorem Expansion.entries_of_ok {source : String} {path moduleName : Option String}
    {ds : List Declaration} {e : Expansion}
    (expanded : (ofDeclarations source path moduleName ds).1 = .ok e) :
    e.registry.entries.map some = (Declaration.bindings ds).map fun p => p.1.entryOf p.2 := by
  obtain ⟨w, ended, clean, registry⟩ := walk_of_ok expanded
  have fits := Walk.fits_of_ok ended
  rw [Walk.ofDeclarations_fits fits, Except.ok.injEq] at ended
  subst ended
  rw [registry]
  exact Declaration.entries_of_no_report clean

/-! ### Records as texts -/

namespace Json

theorem renderEntries_eq (entries : List (String × Json.Value)) :
    renderEntries entries = entries.map fun e => (e.1, quoted e.1 ++ ":" ++ e.2.render) := by
  induction entries with
  | nil => rfl
  | cons e rest ih =>
    obtain ⟨key, v⟩ := e
    rw [renderEntries, ih]
    rfl

theorem sortEntries_least {α : Type} {entries : List (String × α)} {key : String}
    (member : key ∈ entries.map Prod.fst) (least : ∀ other ∈ entries.map Prod.fst, key ≤ other) :
    ∃ a rest, (key, a) ∈ entries ∧ sortEntries entries = (key, a) :: rest := by
  have perm : List.Perm (sortEntries entries) entries := List.mergeSort_perm entries _
  have sorted : (sortEntries entries).Pairwise fun a b => decide (a.1 ≤ b.1) = true := by
    refine List.pairwise_mergeSort (fun a b c first second => ?_) (fun a b => ?_) entries
    · exact decide_eq_true (le_trans (of_decide_eq_true first) (of_decide_eq_true second))
    · simpa using le_total a.1 b.1
  obtain ⟨e, inEntries, rfl⟩ := List.mem_map.mp member
  rw [← perm.mem_iff] at inEntries
  cases inOrder : sortEntries entries with
  | nil => simp [inOrder] at inEntries
  | cons first rest =>
    rw [inOrder] at perm sorted inEntries
    have inFirst : first ∈ entries := perm.mem_iff.mp (by simp)
    have notLater : first.1 ≤ e.1 := by
      rcases List.mem_cons.mp inEntries with rfl | later
      · exact le_refl _
      · exact of_decide_eq_true (List.rel_of_pairwise_cons sorted later)
    rw [← le_antisymm notLater (least first.1 (List.mem_map_of_mem inFirst))]
    exact ⟨first.2, rest, inFirst, rfl⟩

/-- The text of an object begins with its least key. -/
theorem render_least {entries : List (String × Json.Value)} {key : String}
    (member : key ∈ entries.map Prod.fst) (least : ∀ other ∈ entries.map Prod.fst, key ≤ other) :
    ∃ more, (Json.Value.object entries).render.toList = '\x7b' :: (quoted key).toList ++ more := by
  have keys : (renderEntries entries).map Prod.fst = entries.map Prod.fst := by
    rw [renderEntries_eq, List.map_map]
    rfl
  obtain ⟨text, rest, inTexts, sorted⟩ := sortEntries_least (keys ▸ member) (keys ▸ least)
  obtain ⟨v, rfl⟩ : ∃ v : Json.Value, quoted key ++ ":" ++ v.render = text := by
    rw [renderEntries_eq, List.mem_map] at inTexts
    obtain ⟨e, -, same⟩ := inTexts
    cases same
    exact ⟨e.2, rfl⟩
  obtain ⟨more, joined⟩ : ∃ more, commas ((quoted key ++ ":" ++ v.render) :: rest.map Prod.snd) =
      quoted key ++ more := by
    cases rest with
    | nil => exact ⟨":" ++ v.render, by simp [commas, String.append_assoc]⟩
    | cons next rest =>
      rw [commas, String.intercalate_cons_of_ne_nil (by simp), String.append_assoc, String.append_assoc,
        String.append_assoc]
      exact ⟨_, rfl⟩
  rw [Json.Value.render, sorted, List.map_cons, joined]
  exact ⟨more.toList ++ "\x7d".toList, by simp [String.toList_append]⟩

end Json

namespace Manifest

theorem bytes_least {entries : List (String × Json.Value)} {key : String}
    (member : key ∈ entries.map Prod.fst) (least : ∀ other ∈ entries.map Prod.fst, key ≤ other)
    (vs : List Json.Value) : ∃ more,
      bytes (.object entries :: vs) = Text.Utf8.encode ('\x7b' :: (Json.quoted key).toList) ++ more := by
  obtain ⟨more, rendered⟩ := Json.render_least member least
  refine ⟨Text.Utf8.encode (more ++ '\n' :: (String.join (vs.map fun v => v.render ++ "\n")).toList), ?_⟩
  simp [bytes, text, Text.Utf8.ofString, Text.Utf8.encode, rendered]

/-- Records of bindings are not written as records of modules are: other keys come first. -/
theorem bytes_ne {rs : List BindingRecord} (some_ : rs ≠ []) (ms : List ModuleRecord) :
    bytes (rs.map BindingRecord.value) ≠ bytes (ms.map ModuleRecord.value) := by
  obtain ⟨r, rest, rfl⟩ := List.exists_cons_of_ne_nil some_
  obtain ⟨more, begins⟩ : ∃ more, bytes (r.value :: rest.map BindingRecord.value) =
      Text.Utf8.encode ('\x7b' :: (Json.quoted "declaration").toList) ++ more :=
    bytes_least (by simp) (by simp only [List.map_cons, List.map_nil]; decide +kernel) _
  intro same
  rw [List.map_cons, begins] at same
  cases ms with
  | nil => simp [bytes, text, Text.Utf8.ofString, Text.Utf8.encode] at same
  | cons m ms =>
    obtain ⟨more', begins'⟩ : ∃ more, bytes (m.value :: ms.map ModuleRecord.value) =
        Text.Utf8.encode ('\x7b' :: (Json.quoted "binding_count").toList) ++ more :=
      bytes_least (by simp) (by simp only [List.map_cons, List.map_nil]; decide +kernel) _
    rw [List.map_cons, begins'] at same
    have third := congrArg (·[2]?) same
    rw [List.getElem?_append_left (by decide +kernel),
      List.getElem?_append_left (by decide +kernel)] at third
    exact absurd third (by decide +kernel)

end Manifest
namespace Generation

open FileTree

variable {t t' : FileTree} {s : Surroundings} {root directory : Path} {top place : Location}
  {out : Option Path} {settings : Option Settings} {chosen : Settings} {r : Path} {b : Body}

/-! ### Bodies -/

theorem bindings_ne_nil {ds : List Declaration} (binds : hasBindings ds = true) :
    Declaration.bindings ds ≠ [] := by
  simp only [hasBindings, List.any_eq_true] at binds
  obtain ⟨d, inBody, a, inDeclaration, isBinding⟩ := binds
  refine List.ne_nil_of_mem (a := (d, a)) ?_
  simp only [Declaration.bindings, List.mem_flatMap, List.mem_map, List.mem_filter]
  exact ⟨d, inBody, a, ⟨inDeclaration, isBinding⟩, rfl⟩

/-- The declarations of a source file that is not passed over: it mentions a binding directive, and
    there is an annotation that binds. -/
def Binds (t : FileTree) (s : Surroundings) (root r : Path) (ds : List Declaration) : Prop :=
  ∃ source, readSource t s (root.join r) = .ok source ∧ mentionsBinding source = true ∧
    Declaration.ofSource source (some r.text) = .ok ds ∧ hasBindings ds = true

theorem examine_of_binds (chosen : Settings) {ds : List Declaration} (binds : Binds t s root r ds) :
    ∃ source, examine t s root chosen r = expand chosen r.text source ds := by
  obtain ⟨source, read, mentions, parsed, some_⟩ := binds
  exact ⟨source, by simp [examine, read, mentions, parsed, some_]⟩

theorem expand_expanded {path source : String} {ds : List Declaration}
    (expanded : (expand chosen path source ds).1 = .ok (.expanded b)) :
    b.path = path ∧
      b.expansion.registry.entries.map some = (Declaration.bindings ds).map fun p => p.1.entryOf p.2 := by
  refine ⟨expand_path expanded, ?_⟩
  unfold expand at expanded
  rcases found : (Expansion.ofDeclarations source (some path) (chosen.nameOf? path) ds).1 with
    (batch | fault) | e
  · simp [found] at expanded
  · simp [found] at expanded
  · simp only [found, Except.ok.injEq, Finding.expanded.injEq] at expanded
    rw [← expanded]
    exact Expansion.entries_of_ok found

theorem expand_ok {path source : String} {ds : List Declaration} {finding : Finding}
    (expanded : (expand chosen path source ds).1 = .ok finding) :
    (∃ b, finding = .expanded b) ∨ ∃ batch : Diagnostic.Batch, finding = .problems batch.toList := by
  unfold expand at expanded
  rcases found : (Expansion.ofDeclarations source (some path) (chosen.nameOf? path) ds).1 with
    (batch | fault) | e
  · simp only [found, Except.ok.injEq] at expanded
    exact .inr ⟨batch, expanded.symm⟩
  · simp [found] at expanded
  · simp only [found, Except.ok.injEq] at expanded
    exact .inl ⟨_, expanded.symm⟩

theorem binds_of_expanded (expanded : (examine t s root chosen r).1 = .ok (.expanded b)) :
    ∃ ds, Binds t s root r ds ∧ b.path = r.text ∧
      b.expansion.registry.entries.map some =
        (Declaration.bindings ds).map fun p => p.1.entryOf p.2 := by
  unfold examine at expanded
  extract_lets path at expanded
  split at expanded
  · simp at expanded
  rename_i source read
  split at expanded
  · simp at expanded
  rename_i mentions
  split at expanded
  · simp at expanded
  · simp at expanded
  rename_i ds parsed
  split at expanded
  · rename_i some_
    exact ⟨ds, ⟨source, read, by simpa using mentions, parsed, some_⟩, expand_expanded expanded⟩
  · simp at expanded

/-! ### Surveys without problems -/

namespace Survey

def bodyOf (t : FileTree) (s : Surroundings) (root : Path) (chosen : Settings) (r : Path) :
    Option Body :=
  match (examine t s root chosen r).1 with
  | .ok (.expanded b) => some b
  | _ => none

theorem bodyOf_eq_some_iff :
    bodyOf t s root chosen r = some b ↔ (examine t s root chosen r).1 = .ok (.expanded b) := by
  unfold bodyOf
  split
  · rename_i own examined
    simp [examined]
  · rename_i other
    simpa using other b

/-- A survey has the bodies of the files, in their order. -/
theorem along_bodies {v v' : Survey} {ps : List Path} (ended : along t s root chosen v ps = (v', none)) :
    v'.bodies = v.bodies ++ ps.filterMap (bodyOf t s root chosen) := by
  induction ps generalizing v with
  | nil =>
    simp only [along, Prod.mk.injEq, and_true] at ended
    simp [ended]
  | cons p ps ih =>
    unfold along at ended
    split at ended
    · simp at ended
    · rename_i finding log examined
      rw [ih ended, List.filterMap_cons]
      cases finding <;> simp [add, bodyOf, examined]

theorem along_examined {v v' : Survey} {ps : List Path}
    (ended : along t s root chosen v ps = (v', none)) :
    ∀ p ∈ ps, ∃ finding, (examine t s root chosen p).1 = .ok finding := by
  induction ps generalizing v with
  | nil => simp
  | cons p ps ih =>
    unfold along at ended
    split at ended
    · simp at ended
    · rename_i finding log examined
      exact List.forall_mem_cons.mpr ⟨⟨finding, by rw [examined]⟩, ih ended⟩

/-- Where there are no problems, every file that binds something is expanded. -/
theorem bodyOf_isSome {v : Survey} {ps : List Path} (ended : along t s root chosen {} ps = (v, none))
    (clean : v.diagnostics = []) (member : r ∈ ps) {ds : List Declaration}
    (binds : Binds t s root r ds) : ∃ b, bodyOf t s root chosen r = some b := by
  obtain ⟨finding, examined⟩ := along_examined ended r member
  -- the survey collects the problems of all files, so this one has none
  have own := examine_diagnostics examined
  have collected := along_diagnostics ended
  rw [clean, eq_comm, List.nil_append, List.flatMap_eq_nil_iff] at collected
  rw [collected r member] at own
  obtain ⟨source, same⟩ := examine_of_binds chosen binds
  rcases expand_ok (same ▸ examined) with ⟨b, rfl⟩ | ⟨batch, rfl⟩
  · exact ⟨b, bodyOf_eq_some_iff.mpr examined⟩
  · simp [Finding.diagnostics, Diagnostic.Batch.toList] at own

end Survey

/-! ### The order of the files -/

theorem nodup_pathsBelow (distinct : t.Distinct) (named : String → Bool) :
    (pathsBelow t.entries top named).Nodup := by
  have places : (t.entries.filter fun e => isBelow top e.1).Pairwise fun e e' => e.1 ≠ e'.1 :=
    (List.pairwise_map.mp distinct).filter _
  refine List.pairwise_filterMap.mpr (places.imp_of_mem ?_)
  intro e e' member member' other p own p' own' same
  obtain ⟨names, -, whole⟩ := isBelow_iff.mp (List.mem_filter.mp member).2
  obtain ⟨names', -, whole'⟩ := isBelow_iff.mp (List.mem_filter.mp member').2
  simp only [Option.ite_none_right_eq_some, Option.some.injEq] at own own'
  rw [← own.2, ← own'.2, whole, whole', List.drop_left, List.drop_left, Path.mk.injEq] at same
  exact other (by rw [whole, whole', same.2])

theorem keep_sublist {α ε : Type} {test : α → Except ε Bool} {as bs : List α}
    (kept : Scan.keep test as = .ok bs) : bs.Sublist as := by
  induction as generalizing bs with
  | nil =>
    cases kept
    exact .slnil
  | cons a as ih =>
    simp only [Scan.keep, bind_eq_ok_iff, pure, Except.pure, Except.ok.injEq] at kept
    obtain ⟨b, -, more, rest, rfl⟩ := kept
    cases b with
    | false => exact (ih rest).cons a
    | true => exact (ih rest).cons_cons a

theorem nodup_sources (distinct : t.Distinct) {o : Scan.Options} {ps : List Path}
    (scanned : Scan.sources t s root o = .ok ps) : ps.Nodup := by
  cases ps with
  | nil => exact List.nodup_nil
  | cons first rest =>
    obtain ⟨top, leads⟩ := leads_of_mem_sources scanned (List.mem_cons_self ..)
    simp only [Scan.sources, below_eq leads, bind_eq_ok_iff, mapError_eq_ok_iff, pure, Except.pure,
      Except.ok.injEq] at scanned
    obtain ⟨rules, -, _, rfl, kept, tested, sorted⟩ := scanned
    rw [← sorted]
    exact (List.mergeSort_perm kept _).nodup_iff.mpr
      ((nodup_pathsBelow distinct _).sublist (keep_sublist tested))

/-- The source files come in the strict order of their paths. -/
theorem sources_ascending (wellFormed : t.WellFormed) (distinct : t.Distinct) {o : Scan.Options}
    {ps : List Path} (scanned : Scan.sources t s root o = .ok ps) :
    ps.Pairwise fun p q => p.text < q.text := by
  refine ((sources_ordered scanned).and (nodup_sources distinct scanned)).imp_of_mem ?_
  rintro p q first second ⟨ordered, other⟩
  refine lt_of_le_of_ne ordered fun same => other ?_
  rw [← (sourcePath_of_mem wellFormed scanned first).ofText_text, same,
    (sourcePath_of_mem wellFormed scanned second).ofText_text]

/-! ### Records -/

namespace Plan

variable {p : Plan}

theorem modules_eq (ascending : p.bodies.Pairwise fun a b => a.path < b.path) :
    p.modules = p.bodies.map Body.moduleRecord := by
  exact List.mergeSort_of_pairwise
    (List.pairwise_map.mpr (ascending.imp fun less => decide_eq_true (le_of_lt less)))

/-- The binding records of a file are those of its body. -/
theorem filter_records {bodies : List Body} (distinct : bodies.Pairwise fun a b => a.path ≠ b.path)
    (member : b ∈ bodies) :
    (bodies.flatMap Body.bindingRecords).filter (fun x => x.path = b.path) = b.bindingRecords := by
  have own : ∀ c : Body, c.path = b.path →
      c.bindingRecords.filter (fun x => x.path = b.path) = c.bindingRecords := by
    intro c same
    refine List.filter_eq_self.mpr fun x inBody => ?_
    obtain ⟨e, -, rfl⟩ := List.mem_map.mp inBody
    simpa using same
  have others : ∀ bodies : List Body, (∀ c ∈ bodies, c.path ≠ b.path) →
      (bodies.flatMap Body.bindingRecords).filter (fun x => x.path = b.path) = [] := by
    intro bodies apart
    refine List.filter_eq_nil_iff.mpr fun x inBodies => ?_
    obtain ⟨c, inList, inBody⟩ := List.mem_flatMap.mp inBodies
    obtain ⟨e, -, rfl⟩ := List.mem_map.mp inBody
    simpa using apart c inList
  induction bodies with
  | nil => simp at member
  | cons c rest ih =>
    obtain ⟨apart, later⟩ := List.pairwise_cons.mp distinct
    rw [List.flatMap_cons, List.filter_append]
    rcases List.mem_cons.mp member with rfl | inRest
    · rw [own b rfl, others rest fun c inRest => (apart c inRest).symm, List.append_nil]
    · have none_ := others [c] (by simpa using apart b inRest)
      rw [List.flatMap_singleton] at none_
      rw [none_, List.nil_append, ih later inRest]

/-- What the records of a plan say of each other, and of the source files. -/
structure Agrees (p : Plan) (t : FileTree) (s : Surroundings) (root : Path) (sources : List Path) :
    Prop where
  ascending : p.modules.Pairwise fun m m' => m.path < m'.path
  modules : p.modules = p.bodies.map Body.moduleRecord
  grouped : p.bindings = p.modules.flatMap fun m => p.bindings.filter fun x => x.path = m.path
  counted : ∀ m ∈ p.modules, 1 ≤ m.bindingCount ∧
    m.bindingCount = (p.bindings.filter fun x => x.path = m.path).length
  named : ∀ m ∈ p.modules, ∀ x ∈ p.bindings, x.path = m.path → x.module = m.module
  registered : ∀ b ∈ p.bodies, p.bindings.filter (fun x => x.path = b.path) = b.bindingRecords ∧
    ∃ r ∈ sources, ∃ ds, Binds t s root r ds ∧ b.path = r.text ∧
      b.expansion.registry.entries.map some = (Declaration.bindings ds).map fun x => x.1.entryOf x.2
  complete : ∀ r ∈ sources, (∃ m ∈ p.modules, m.path = r.text) ↔ ∃ ds, Binds t s root r ds

end Plan

section Agreement

variable (wellFormed : t.WellFormed) {o : Scan.Options} {sources : List Path}
  (scanned : Scan.sources t s root o = .ok sources) {v : Survey}
  (ended : Survey.along t s root chosen {} sources = (v, none))

include ended in
/-- Every body is that of a source file that binds something, and registers what it binds. -/
theorem source_of_body (member : b ∈ v.bodies) : ∃ r ∈ sources, ∃ ds, Binds t s root r ds ∧
    b.path = r.text ∧
    b.expansion.registry.entries.map some = (Declaration.bindings ds).map fun x => x.1.entryOf x.2 := by
  rw [Survey.along_bodies ended, List.nil_append, List.mem_filterMap] at member
  obtain ⟨r, inSources, expanded⟩ := member
  exact ⟨r, inSources, binds_of_expanded (Survey.bodyOf_eq_some_iff.mp expanded)⟩

include wellFormed scanned ended in
theorem bodies_ascending (distinct : t.Distinct) : v.bodies.Pairwise fun a b => a.path < b.path := by
  rw [Survey.along_bodies ended, List.nil_append]
  refine List.pairwise_filterMap.mpr ((sources_ascending wellFormed distinct scanned).imp ?_)
  intro p q less b own b' own'
  rwa [examine_path (Survey.bodyOf_eq_some_iff.mp own), examine_path (Survey.bodyOf_eq_some_iff.mp own')]

include wellFormed scanned ended in
theorem plan_agrees (distinct : t.Distinct) (clean : v.diagnostics = []) (directory : Path) :
    Plan.Agrees ⟨directory, v.bodies⟩ t s root sources := by
  have ascending := bodies_ascending wellFormed scanned ended distinct
  have records : ∀ b ∈ v.bodies, (v.bodies.flatMap Body.bindingRecords).filter
      (fun x => x.path = b.path) = b.bindingRecords := fun b =>
    Plan.filter_records (ascending.imp fun less => ne_of_lt less)
  have modules := Plan.modules_eq (p := ⟨directory, v.bodies⟩) ascending
  refine ⟨?_, modules, ?_, ?_, ?_, ?_, ?_⟩
  · rw [modules]
    exact List.pairwise_map.mpr ascending
  · rw [modules, List.flatMap_map]
    exact (List.flatMap_congr records).symm
  · rw [modules]
    refine List.forall_mem_map.mpr fun b member => ?_
    obtain ⟨r, -, ds, ⟨source, -, -, -, binds⟩, -, entries⟩ := source_of_body ended member
    have size : b.expansion.registry.size = (Declaration.bindings ds).length := by
      simpa [Registry.size] using congrArg List.length entries
    have some_ := List.length_pos_of_ne_nil (bindings_ne_nil binds)
    have own : ((Plan.bindings ⟨directory, v.bodies⟩).filter fun x => x.path = b.path).length =
        b.expansion.registry.size := by
      rw [Plan.bindings, records b member, Body.bindingRecords, List.length_map, Registry.size]
    exact ⟨by rw [Body.moduleRecord, size]; exact some_, own.symm⟩
  · rw [modules]
    refine List.forall_mem_map.mpr fun b member x inBindings path => ?_
    have own : x ∈ b.bindingRecords := by
      rw [← records b member]
      exact List.mem_filter.mpr ⟨inBindings, decide_eq_true path⟩
    obtain ⟨e, -, rfl⟩ := List.mem_map.mp own
    rfl
  · exact fun b member => ⟨records b member, source_of_body ended member⟩
  · intro r member
    rw [modules]
    constructor
    · rintro ⟨m, inModules, path⟩
      obtain ⟨b, inBodies, rfl⟩ := List.mem_map.mp inModules
      obtain ⟨r', member', ds, binds, path', -⟩ := source_of_body ended inBodies
      -- the record may stem from any file, but texts of source paths tell the files apart
      have own := (sourcePath_of_mem wellFormed scanned member).ofText_text
      have own' := (sourcePath_of_mem wellFormed scanned member').ofText_text
      rw [← path', show b.path = r.text from path, own] at own'
      exact ⟨ds, own'.symm ▸ binds⟩
    · rintro ⟨ds, binds⟩
      obtain ⟨b, expanded⟩ := Survey.bodyOf_isSome ended clean member binds
      have inBodies : b ∈ v.bodies := by
        rw [Survey.along_bodies ended, List.nil_append]
        exact List.mem_filterMap.mpr ⟨r, member, expanded⟩
      exact ⟨b.moduleRecord, List.mem_map_of_mem inBodies,
        examine_path (Survey.bodyOf_eq_some_iff.mp expanded)⟩

include wellFormed scanned ended in
theorem nodup_relativeFiles (distinct : t.Distinct) (directory : Path) :
    ((Plan.relativeFiles ⟨directory, v.bodies⟩).map Prod.fst).Nodup := by
  have ascending := bodies_ascending wellFormed scanned ended distinct
  have own : ∀ b ∈ v.bodies, ∃ names name, (Path.ofText b.path).names = names ++ [name] ∧
      name.endsWith Scan.sourceExtension = true ∧ b.path = Path.text { names := names ++ [name] } := by
    intro b member
    obtain ⟨r, path, text⟩ := sourcePath_of_body wellFormed scanned ended member
    have back := path.ofText_text
    obtain ⟨names, name, rfl, named, -⟩ := path
    exact ⟨names, name, by rw [text, back], named, text⟩
  have bodies : (v.bodies.map fun b => (Path.ofText b.path).names).Nodup := by
    refine List.pairwise_map.mpr (ascending.imp_of_mem ?_)
    intro a b member member' less same
    obtain ⟨names, name, path, -, text⟩ := own a member
    obtain ⟨names', name', path', -, text'⟩ := own b member'
    rw [text, text', ← path, ← path', same] at less
    exact lt_irrefl _ less
  have manifest : ∀ other ∈ Manifest.names, ∀ b ∈ v.bodies, (Path.ofText b.path).names ≠ [other] := by
    intro other isManifest b member same
    obtain ⟨names, name, path, named, -⟩ := own b member
    obtain ⟨-, last⟩ := List.append_inj' (path.symm.trans (same.trans (List.nil_append _).symm)) rfl
    simp only [List.cons.injEq, and_true] at last
    subst last
    have none_ : ∀ other ∈ Manifest.names, other.endsWith Scan.sourceExtension = false := by
      decide +kernel
    exact Bool.false_ne_true ((none_ name isManifest).symm.trans named)
  rw [Plan.relativeFiles, List.map_append, List.map_map]
  have two : (Manifest.names.map fun name => [name]).Nodup := by decide
  refine List.Nodup.append bodies two fun names inBodies inManifests => ?_
  obtain ⟨b, member, rfl⟩ := List.mem_map.mp inBodies
  obtain ⟨other, isManifest, same⟩ : ∃ other ∈ Manifest.names, (Path.ofText b.path).names = [other] := by
    simpa [Manifest.names] using inManifests
  exact manifest other isManifest b member same

end Agreement

/-! ### The written tree -/

namespace Plan

variable {p : Plan}

theorem Sound.nodup_artifacts (sound : p.Sound) (nodup : (p.relativeFiles.map Prod.fst).Nodup) :
    p.result.artifacts.Nodup := by
  rw [result, sound.files, Files.at_, List.map_map]
  refine List.pairwise_map.mpr ((List.pairwise_map.mp nodup).imp_of_mem ?_)
  intro f g member member' other same
  obtain ⟨names, name, own, writable, -⟩ := sound.names f member
  obtain ⟨names', name', own', writable', -⟩ := sound.names g member'
  simp only [Function.comp_apply, own, own'] at same other
  exact other (Path.text_join_injective p.out (fun _ inNames => (writable _ inNames).textual)
    (fun _ inNames => (writable' _ inNames).textual) (by simp) (by simp) same)

/-- The manifest of the modules is written last. -/
theorem wrote_last (rooted : t.Rooted) (written : p.write t s = (t', none)) :
    ∃ q, t'.status s (p.out.child Manifest.modulesName) =
      .ok (q, .file (Manifest.bytes (p.modules.map Manifest.ModuleRecord.value))) := by
  obtain ⟨t₁, made, files⟩ := write_ok_iff.mp written
  rw [Plan.files, ← List.singleton_append, ← List.append_assoc] at files
  exact (Wrote.of_made (ensureDirectory_made rooted made)).last files

theorem loses_bindings {q : Location} (rooted : t.Rooted) (written : p.write t s = (t', none))
    (some_ : p.bindings ≠ [])
    (one : ∀ name ∈ Manifest.names, (t'.status s (p.out.child name)).toOption.map Prod.fst = some q) :
    t'.read s (p.out.child Manifest.bindingsName) ≠
      .ok (Manifest.bytes (p.bindings.map Manifest.BindingRecord.value)) := by
  intro same
  obtain ⟨r, last⟩ := wrote_last rooted written
  obtain ⟨r', found⟩ := read_eq_ok_iff.mp same
  have here := one Manifest.modulesName (by simp [Manifest.names])
  have here' := one Manifest.bindingsName (by simp [Manifest.names])
  simp only [last, Except.toOption, Option.map_some, Option.some.injEq] at here
  simp only [found, Except.toOption, Option.map_some, Option.some.injEq] at here'
  subst here here'
  have held := (holds_of_status found).symm.trans (holds_of_status last)
  rw [Option.some.injEq, Node.file.injEq] at held
  exact Manifest.bytes_ne some_ p.modules held

/-- What a plan has left in a tree. All its paths lead to files, and nothing but these is new, except
    directories. The manifest of the modules is written last. If no two paths lead to one file, each
    leads to what was written for it, so that the manifest of the bindings holds its records, too; and
    with no link below the output directory no two do. -/
structure Delivered (p : Plan) (t t' : FileTree) (s : Surroundings) : Prop where
  present : ∀ f ∈ p.files, ∃ q, ∃ g ∈ p.files, t'.status s f.1 = .ok (q, .file g.2)
  others : ∀ q, WrittenAt t' s p.files q ∨ t'.find? q = t.find? q ∨
    t.find? q = none ∧ t'.find? q = some .dir
  own : Apart t' s p.files → ∀ f ∈ p.files, t'.read s f.1 = .ok f.2
  bindings : Apart t' s p.files → t'.read s (p.out.child Manifest.bindingsName) =
    .ok (Manifest.bytes (p.bindings.map Manifest.BindingRecord.value))
  modules : t'.read s (p.out.child Manifest.modulesName) =
    .ok (Manifest.bytes (p.modules.map Manifest.ModuleRecord.value))
  apart : ∀ place, t.resolve s p.out = .ok place →
    (∀ names ≠ [], ∀ target, t.find? (place ++ names) ≠ some (.link target)) → Apart t' s p.files

theorem Sound.delivered (sound : p.Sound) (nodup : (p.relativeFiles.map Prod.fst).Nodup)
    (rooted : t.Rooted) (written : p.write t s = (t', none)) : p.Delivered t t' s := by
  have wrote := Plan.wrote rooted written
  have own : Apart t' s p.files → ∀ f ∈ p.files, t'.read s f.1 = .ok f.2 := by
    intro apart f member
    obtain ⟨q, found⟩ := wrote.own apart member
    exact read_eq_ok_iff.mpr ⟨q, found⟩
  have bindings : (p.out.child Manifest.bindingsName,
      Manifest.bytes (p.bindings.map Manifest.BindingRecord.value)) ∈ p.files := by simp [Plan.files]
  obtain ⟨q, last⟩ := wrote_last rooted written
  refine ⟨fun f member => ?_, fun q => ?_, own, fun apart => own apart _ bindings,
    read_eq_ok_iff.mpr ⟨q, last⟩, fun place resolved noLink => ?_⟩
  · obtain ⟨q, g, inPlan, found, -⟩ := wrote.leads f member
    exact ⟨q, g, inPlan, found⟩
  · by_cases written : WrittenAt t' s p.files q
    · exact .inl written
    · right
      cases held : t'.find? q with
      | none => exact .inl (wrote.rewrites.absent held).symm
      | some node =>
        rcases wrote.rewrites.held_of_not written held with old | ⟨absent, rfl⟩
        · exact .inl old.symm
        · exact .inr ⟨absent, rfl⟩
  · exact sound.apart nodup (Plan.site rooted resolved noLink written)

end Plan

/-- The manifests of a run agree with each other, with the source files and with the result; and, as
    far as no two paths lead to one file, with the tree that the run leaves behind. -/
theorem manifests_agree {result : Result} (wellFormed : t.WellFormed) (distinct : t.Distinct)
    (generated : (run t s root out settings).result = .ok result)
    (tree : (run t s root out settings).tree = t') :
    ∃ chosen directory sources p, prepare t s root out settings = .ok (chosen, directory, sources) ∧
      (plan t s root out settings).1 = .ok p ∧ p.out = directory ∧ p.Agrees t s root sources ∧
      result.moduleCount = p.modules.length ∧ result.bindingCount = p.bindings.length ∧
      result.artifacts = p.files.map (fun f => f.1.text) ∧ result.artifacts.Nodup ∧
      p.Delivered t t' s := by
  obtain ⟨p, planned, written⟩ := run_ok_iff.mp ⟨⟨result, generated⟩, tree⟩
  have result_ := result_eq planned generated
  obtain ⟨chosen, directory, sources, v, prepared, surveyed, clean, rfl⟩ := plan_ok_iff.mp planned
  obtain ⟨-, -, skipped, -, scanned⟩ := prepare_eq_ok_iff.mp prepared
  have sound := plan_sound wellFormed scanned surveyed directory
  have nodup := nodup_relativeFiles wellFormed scanned surveyed distinct directory
  have agrees := plan_agrees wellFormed scanned surveyed distinct clean directory
  refine ⟨chosen, directory, sources, _, prepared, planned, rfl, agrees, ?_, ?_, ?_, ?_,
    sound.delivered nodup wellFormed.rooted written⟩
  · rw [result_, agrees.modules, List.length_map]
    rfl
  · rw [result_]
    rfl
  · rw [result_]
    rfl
  · rw [result_]
    exact sound.nodup_artifacts nodup

theorem neighbourTree_manifests_agree : ∃ result t' p,
    (plan neighbourTree ⟨[], "/home"⟩ ⟨0, ["tree"]⟩ none none).1 = .ok p ∧
    (run neighbourTree ⟨[], "/home"⟩ ⟨0, ["tree"]⟩).result = .ok result ∧
    (run neighbourTree ⟨[], "/home"⟩ ⟨0, ["tree"]⟩).tree = t' ∧
    result.moduleCount = p.modules.length ∧ result.artifacts.Nodup ∧
    t'.read ⟨[], "/home"⟩ (Path.child (pathOf ["tree", ".pymodgen"]) Manifest.bindingsName) =
      .ok (Manifest.bytes (p.bindings.map Manifest.BindingRecord.value)) := by
  obtain ⟨-, planned⟩ :=
    neighbourTree_planned none (pathOf ["tree", ".pymodgen"]) (by decide +kernel)
  obtain ⟨⟨result, generated⟩, tree⟩ := run_of_plan planned (by decide +kernel)
  obtain ⟨_, _, _, p, -, planned', -, -, modules, -, -, nodup, delivered⟩ :=
    manifests_agree (by decide +kernel) (by decide +kernel) generated tree
  have out : p.out = pathOf ["tree", ".pymodgen"] := by
    rw [planned, Except.ok.injEq] at planned'
    rw [← planned']
  have resolved : neighbourTree.resolve ⟨[], "/home"⟩ p.out = .ok ["tree", ".pymodgen"] := by
    rw [out]
    exact eq_ok_of_toOption (by decide +kernel)
  have apart := delivered.apart _ resolved fun names _ target held => by
    simpa [neighbourTree] using mem_of_find? (by simp) held
  have bindings := delivered.bindings apart
  rw [out] at bindings
  exact ⟨result, _, p, planned', generated, tree, modules, nodup, bindings⟩

/-- A tree with one source file, and with an output directory where one manifest is a link to the
    other. -/
def twinTree : FileTree :=
  ⟨[(["tree"], .dir), (["tree", ".pymodgen"], .dir),
    (["tree", ".pymodgen", "bindings.jsonl"], .link "modules.jsonl"),
    (["tree", "now.py"], .file (Text.Utf8.ofString "@pyfunction\ndef now():\n    pass\n"))]⟩

def twinPlan : Plan :=
  ⟨pathOf ["tree", ".pymodgen"],
    (Survey.along twinTree ⟨[], "/home"⟩ ⟨0, ["tree"]⟩ {} {} [⟨0, ["now.py"]⟩]).1.bodies⟩

theorem twinTree_planned :
    (plan twinTree ⟨[], "/home"⟩ ⟨0, ["tree"]⟩ none none).1 = .ok twinPlan := by
  have prepared : prepare twinTree ⟨[], "/home"⟩ ⟨0, ["tree"]⟩ none none =
      .ok ({}, pathOf ["tree", ".pymodgen"], [⟨0, ["now.py"]⟩]) := by
    rw [← show Scan.sortPaths [⟨0, ["now.py"]⟩] = [⟨0, ["now.py"]⟩] from List.mergeSort_singleton _]
    exact prepare_of_parts ".pymodgen" [] [⟨0, ["now.py"]⟩] (by decide +kernel)
  rw [twinPlan]
  exact plan_of_prepared prepared (by decide +kernel)

/-- In the twin tree the records of the modules are written over those of the bindings. -/
theorem twinTree_loses_its_bindings : ∃ result t' p,
    (run twinTree ⟨[], "/home"⟩ ⟨0, ["tree"]⟩).result = .ok result ∧
    (run twinTree ⟨[], "/home"⟩ ⟨0, ["tree"]⟩).tree = t' ∧
    (plan twinTree ⟨[], "/home"⟩ ⟨0, ["tree"]⟩ none none).1 = .ok p ∧
    t'.read ⟨[], "/home"⟩ (p.out.child Manifest.bindingsName) ≠
      .ok (Manifest.bytes (p.bindings.map Manifest.BindingRecord.value)) := by
  have known : (twinPlan.write twinTree ⟨[], "/home"⟩).2.isNone = true ∧
      twinPlan.bindings.isEmpty = false ∧
      ∀ name ∈ Manifest.names, ((twinPlan.write twinTree ⟨[], "/home"⟩).1.status ⟨[], "/home"⟩
        (twinPlan.out.child name)).toOption.map Prod.fst = some ["tree", ".pymodgen", "modules.jsonl"] := by
    decide +kernel
  obtain ⟨written, some_, leads⟩ := known
  obtain ⟨⟨result, generated⟩, tree⟩ := run_of_plan twinTree_planned written
  have lost := Plan.loses_bindings (by decide +kernel) (twinPlan.write_of_isNone written)
    (by simpa using some_) leads
  exact ⟨result, _, _, generated, tree, twinTree_planned, lost⟩

end Generation
end Bindery

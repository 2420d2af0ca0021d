import Bindery.Proofs.Manifests
import Mathlib.Data.List.Forall2

/- Which declaration an item was registered for. An expansion has its entries in the order of the
   binding annotations, so each entry is told back to the annotation that it comes from, and to the
   declaration that carries it. -/
namespace Bindery

/-- A binding annotation, and where it stands: on which declaration, and which place that has in the
    body. -/
structure Carrier where
  position : Nat
  declaration : Declaration
  annotation : Annotation
  deriving Repr

/-- The binding annotations of a body, in textual order. -/
def carriers (ds : List Declaration) : List Carrier :=
  ds.zipIdx.flatMap fun p =>
    (p.1.annotations.filter (·.isBinding)).map fun a => ⟨p.2, p.1, a⟩

theorem bindings_eq_carriers (ds : List Declaration) :
    Declaration.bindings ds = (carriers ds).map fun c => (c.declaration, c.annotation) := by
  simp only [Declaration.bindings, carriers, List.map_flatMap, List.map_map, Function.comp_def]
  conv_lhs => rw [← List.zipIdx_map_fst 0 ds, List.flatMap_map]

theorem mem_carriers {ds : List Declaration} {c : Carrier} (member : c ∈ carriers ds) :
    ds[c.position]? = some c.declaration ∧ c.annotation ∈ c.declaration.annotations ∧
      c.annotation.isBinding = true := by
  simp only [carriers, List.mem_flatMap, List.mem_map, List.mem_filter] at member
  obtain ⟨⟨d, k⟩, inBody, a, ⟨inDeclaration, binds⟩, rfl⟩ := member
  exact ⟨List.mk_mem_zipIdx_iff_getElem?.mp inBody, inDeclaration, binds⟩

theorem entryOf_eq_some {d : Declaration} {a : Annotation} {entry : Entry}
    (found : d.entryOf a = some entry) : entry.item.ident = d.ident ∧ entry.guards = d.guards := by
  unfold Declaration.entryOf at found
  split at found
  · rename_i item verdict
    cases found
    simp only [ Annotation.verdict?] at verdict
    split at verdict
    · simp only [Option.some.injEq, Binding.classify, bind_eq_ok_iff, pure, Except.pure,
        Except.ok.injEq] at verdict
      obtain ⟨_, -, _, -, rfl⟩ := verdict
      exact ⟨rfl, rfl⟩
    · contradiction
  · contradiction

/-- An entry was registered for a binding annotation of a body. -/
structure Carries (ds : List Declaration) (entry : Entry) (c : Carrier) : Prop where
  declared : ds[c.position]? = some c.declaration
  carried : c.annotation ∈ c.declaration.annotations
  binds : c.annotation.isBinding = true
  offered : c.declaration.entryOf c.annotation = some entry
  ident : entry.item.ident = c.declaration.ident
  guards : entry.guards = c.declaration.guards

/-- The entries of an expansion are told back to the binding annotations, one to one and in order. -/
theorem Expansion.carried {source : String} {path moduleName : Option String} {ds : List Declaration}
    {e : Expansion} (expanded : (ofDeclarations source path moduleName ds).1 = .ok e) :
    List.Forall₂ (Carries ds) e.registry.entries (carriers ds) := by
  have entries : e.registry.entries.map some =
      (carriers ds).map fun c => c.declaration.entryOf c.annotation := by
    rw [entries_of_ok expanded, bindings_eq_carriers, List.map_map]
    rfl
  have paired : List.Forall₂ (fun c entry => c ∈ carriers ds ∧
      some entry = c.declaration.entryOf c.annotation) (carriers ds) e.registry.entries := by
    refine (List.forall₂_and_left _ _).mpr ⟨fun _ => id, ?_⟩
    rw [← List.forall₂_eq_eq_eq, List.forall₂_map_left_iff, List.forall₂_map_right_iff] at entries
    exact entries.flip
  refine paired.flip.imp fun entry c ⟨member, offered⟩ => ?_
  obtain ⟨declared, carried, binds⟩ := mem_carriers member
  obtain ⟨ident, guards⟩ := entryOf_eq_some offered.symm
  exact ⟨declared, carried, binds, offered.symm, ident, guards⟩

/-! ### Records -/

namespace Generation

theorem lineOf_stripped (ds : List Declaration) (ident : String) :
    lineOf (ds.map Declaration.stripped) ident = lineOf ds ident := by
  rw [lineOf, lineOf, List.find?_map, Option.bind_map]
  rfl

/-- A record tells of a binding annotation: by its declaration's identifier and the sources of that
    declaration's guards, and by the line of the first declaration with the identifier. -/
structure Records (ds : List Declaration) (r : Manifest.BindingRecord) (c : Carrier) : Prop where
  declared : ds[c.position]? = some c.declaration
  declaration : r.declaration = c.declaration.ident
  guards : r.guards = (c.declaration.annotations.filter (·.isGuard)).map (·.source)
  line : r.line = lineOf ds c.declaration.ident

/-- The line is that of the declaration itself if no declaration before it has its identifier. -/
theorem Records.own_line {ds : List Declaration} {r : Manifest.BindingRecord} {c : Carrier}
    (records : Records ds r c)
    (first : ∀ j d, j < c.position → ds[j]? = some d → d.ident ≠ c.declaration.ident) :
    r.line = c.declaration.span.line := by
  obtain ⟨inside, here⟩ := List.getElem?_eq_some_iff.mp records.declared
  have found : ds.find? (fun d => d.ident == c.declaration.ident) = some c.declaration := by
    refine List.find?_eq_some_iff_getElem.mpr ⟨beq_self_eq_true _, c.position, inside, here, ?_⟩
    intro j earlier
    have other := first j _ earlier (List.getElem?_eq_getElem (earlier.trans inside))
    simpa using other
  rw [records.line, lineOf, found, Option.bind_some]

/-- The records of a body tell of its binding annotations, one to one and in order. -/
theorem Body.records_carriers {b : Body} {source : String} {path moduleName : Option String}
    {ds : List Declaration}
    (expanded : (Expansion.ofDeclarations source path moduleName ds).1 = .ok b.expansion) :
    List.Forall₂ (Records ds) b.bindingRecords (carriers ds) := by
  obtain ⟨w, ended, -, -, declarations, -⟩ := Expansion.written_of_ok expanded
  rw [Walk.ofDeclarations_fits (Walk.fits_of_ok ended), Except.ok.injEq] at ended
  subst ended
  rw [bindingRecords, List.forall₂_map_left_iff]
  refine (Expansion.carried expanded).imp fun entry c carries => ⟨carries.declared, carries.ident, ?_, ?_⟩
  · rw [carries.guards, Declaration.guards, List.map_map]
    rfl
  · rw [declarations, lineOf_stripped, carries.ident]

/-- Of two declarations with one identifier the second is recorded with the line of the first. -/
example : ∃ ds, Declaration.ofSource
      "@cfg(a)\n@pyfunction\ndef f(): pass\n\n@cfg(b)\n@pyfunction\ndef f(): pass\n" none = .ok ds ∧
    ∃ e, (Expansion.ofDeclarations "" none none ds).1 = .ok e ∧
      (Body.bindingRecords ⟨"m.py", e⟩).map (·.line) = [some 3, some 3] ∧
      (carriers ds).map (·.declaration.span.line) = [some 3, some 7] := by
  decide +kernel

end Generation
end Bindery

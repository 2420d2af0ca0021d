import Bindery.Proofs.Offers
import Mathlib.Data.List.Forall2

/- Runs of a registry: any sequence of registrations of single items and of extractions from
   declarations, those that are refused or stopped included. A registry never forgets and never
   rebinds; it is the registry of all offers that the calls of the run made. -/
namespace Bindery

/-- Two entries are under one key: one external name, and guards that are equal one by one. -/
def Entry.SameKey (a b : Entry) : Prop :=
  a.item.name = b.item.name ∧ List.Forall₂ (fun g h => g.same h = true) a.guards b.guards

theorem sameKey_iff (a b : Entry) : a.SameKey b ↔ a.key = b.key := by
  simp [Entry.SameKey, Entry.key, Guard.same, ← List.forall₂_eq_eq_eq]

namespace Registry

/-- One call on a registry. An extraction adds to a list of diagnostics that it is given. -/
inductive Call where
  | add (item : Item) (guards : List Guard) (span : Span)
  | extract (decl : Declaration) (found : List Diagnostic)

/-- What leaves a call instead of a result. -/
inductive Raised where
  | refused (batch : Diagnostic.Batch)
  | stopped (fault : Fault)

structure Reply where
  registry : Registry
  diagnostics : List Diagnostic := []
  raised : Option Raised := none

namespace Call

def perform (r : Registry) : Call → Reply
  | .add item guards span =>
    match r.add item guards span with
    | .ok r => { registry := r }
    | .error batch => { registry := r, raised := some (.refused batch) }
  | .extract decl found =>
    match r.extract decl with
    | .ok x => { registry := x.registry, diagnostics := found ++ x.diagnostics }
    | .error stop =>
      { registry := r
        diagnostics := found ++ stop.diagnostics
        raised := some (.stopped stop.fault) }

/-- What a call offers for registration. A declaration that is not classified offers nothing. -/
def offers : Call → List Entry
  | .add item guards _ => [⟨item, guards⟩]
  | .extract decl _ =>
    match classifyAll decl.kind decl.ident {} decl.annotations with
    | .ok found => found.items.map fun o => ⟨o.1, found.guards⟩
    | .error _ => []

theorem perform_ofOffers (es : List Entry) (c : Call) :
    (c.perform (ofOffers es)).registry = ofOffers (es ++ c.offers) := by
  cases c with
  | add item guards span =>
    simp only [perform, offers, add_ofOffers]
    cases found : es.find? (Entry.clashes ⟨item, guards⟩) with
    | some first => exact (ofOffers_after_refusal found).symm
    | none => rfl
  | extract decl found =>
    simp only [perform, offers, extract_ofOffers]
    cases classifyAll decl.kind decl.ident {} decl.annotations with
    | error stop => simp [Except.map]
    | ok findings => rfl

end Call

/-- The registry after calls on an empty one. -/
def after (calls : List Call) : Registry := calls.foldl (fun r c => (c.perform r).registry) {}

@[simp] theorem after_append (calls : List Call) (c : Call) :
    after (calls ++ [c]) = (c.perform (after calls)).registry := by
  simp [after]

theorem after_eq_ofOffers (calls : List Call) :
    after calls = ofOffers (calls.flatMap Call.offers) := by
  induction calls using List.reverseRecOn with
  | nil => rfl
  | append_singleton calls c ih =>
    rw [after_append, ih, Call.perform_ofOffers, List.flatMap_append, List.flatMap_singleton]

/-- Further offers only add entries at the end. -/
theorem ofOffers_prefix (es more : List Entry) :
    (ofOffers es).entries <+: (ofOffers (es ++ more)).entries := by
  induction more using List.reverseRecOn with
  | nil => simp
  | append_singleton more x ih =>
    rw [← List.append_assoc, ofOffers_append]
    exact ih.trans (List.prefix_append _ _)

theorem add_refused_iff (es : List Entry) (item : Item) (guards : List Guard) (span : Span) :
    (∃ batch, (ofOffers es).add item guards span = .error batch) ↔
      ∃ e ∈ (ofOffers es).entries, e.SameKey ⟨item, guards⟩ := by
  simp only [add_refused_iff_key, sameKey_iff]

/- In every run keys stay distinct, entries stay where they are, and an item is refused exactly
   when its key is bound: nothing changes then, and the diagnostic stands at the place of the call
   and names the item that the run offered first under that key. -/
theorem run_never_rebinds (calls : List Call) :
    (after calls).entries.Pairwise (fun a b => ¬ a.SameKey b) ∧
    (∀ e ∈ (after calls).entries, (after calls).find? e = some e) ∧
    (∀ x e, (after calls).find? x = some e → e.item.name = x.item.name ∧ e.SameKey x) ∧
    (∀ c, (after calls).entries <+: (after (calls ++ [c])).entries) ∧
    ∀ item guards span,
      ((∃ batch, (after calls).add item guards span = .error batch) ↔
        ∃ e ∈ (after calls).entries, e.SameKey ⟨item, guards⟩) ∧
      ∀ batch, (after calls).add item guards span = .error batch →
        (after (calls ++ [.add item guards span])).entries = (after calls).entries ∧
        ∃ first, (calls.flatMap Call.offers).find? (Entry.clashes ⟨item, guards⟩) = some first ∧
          (after calls).find? ⟨item, guards⟩ = some first ∧
          batch = .single span (duplicateMessage first.item item) := by
  simp only [after_append, after_eq_ofOffers calls]
  generalize calls.flatMap Call.offers = es
  refine ⟨?_, ?_, ?_, ?_, ?_⟩
  · exact (ofOffers_keys_distinct es).imp fun ne same => ne ((sameKey_iff _ _).mp same)
  · intro e member
    rw [find?_ofOffers]
    exact find?_own_entry es member
  · intro x e found
    have same := (sameKey_iff e x).mpr ((clashes_iff x e).mp (List.find?_some found)).symm
    exact ⟨same.1, same⟩
  · intro c
    rw [Call.perform_ofOffers]
    exact ofOffers_prefix es c.offers
  · intro item guards span
    refine ⟨add_refused_iff es item guards span, ?_⟩
    intro batch refused
    have reply : (Call.add item guards span).perform (ofOffers es) =
        { registry := ofOffers es, raised := some (.refused batch) } := by
      simp [Call.perform, refused]
    rw [add_ofOffers] at refused
    cases found : es.find? (Entry.clashes ⟨item, guards⟩) with
    | none => simp [found] at refused
    | some first =>
      simp only [found, Except.error.injEq] at refused
      refine ⟨by rw [reply], first, rfl, ?_, refused.symm⟩
      rw [find?_ofOffers, found]

end Registry
end Bindery

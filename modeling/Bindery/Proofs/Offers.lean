import Bindery.Expansion
import Mathlib.Data.List.Induction

/- What annotations offer for registration, and what becomes of a sequence of offers: of the offers
   under one key the first is registered, and every later one is refused with a diagnostic that
   names the first. -/
namespace Bindery

/-- What an entry is known by. -/
def Entry.key (e : Entry) : String × List String := (e.item.name, e.guards.map Guard.key)

theorem sameList_iff (as bs : List Guard) :
    Guard.sameList as bs = true ↔ as.map Guard.key = bs.map Guard.key := by
  induction as generalizing bs with
  | nil => cases bs <;> simp [Guard.sameList]
  | cons a as ih => cases bs <;> simp [Guard.sameList, Guard.same, ih]

theorem clashes_iff (a b : Entry) : a.clashes b = true ↔ a.key = b.key := by
  simp [Entry.clashes, Entry.key, sameList_iff]

theorem clashes_congr {a b : Entry} (same : a.key = b.key) : a.clashes = b.clashes := by
  funext e
  rw [Bool.eq_iff_iff, clashes_iff, clashes_iff, same]

/-! ### First come -/

/-- The loop keeps a list of entries in reverse, and drops what clashes with one of them. -/
theorem firsts_loop_append (es : List Entry) (x : Entry) (kept : List Entry) :
    List.eraseDupsBy.loop Entry.clashes (es ++ [x]) kept =
      List.eraseDupsBy.loop Entry.clashes es kept ++
        if kept.any x.clashes || es.any x.clashes then [] else [x] := by
  induction es generalizing kept with
  | nil => cases clash : kept.any x.clashes <;> simp [List.eraseDupsBy.loop, clash]
  | cons e es ih =>
    cases dropped : kept.any e.clashes with
    | true =>
      -- What clashes with a dropped entry clashes with the kept one that it was dropped for.
      have absorbed : (kept.any x.clashes || x.clashes e) = kept.any x.clashes := by
        cases clash : x.clashes e with
        | false => simp
        | true => simp [clashes_congr ((clashes_iff x e).mp clash), dropped]
      simp only [List.cons_append, List.eraseDupsBy.loop, dropped, List.any_cons, ← Bool.or_assoc,
        absorbed]
      exact ih kept
    | false =>
      simp only [List.cons_append, List.eraseDupsBy.loop, dropped, List.any_cons]
      rw [ih, List.any_cons, Bool.or_assoc, Bool.or_left_comm]
      rfl

namespace Registry

/-- An item is refused when an entry has its key. -/
theorem add_refused_iff_key (r : Registry) (item : Item) (guards : List Guard) (span : Span) :
    (∃ batch, r.add item guards span = .error batch) ↔
      ∃ e ∈ r.entries, e.key = Entry.key ⟨item, guards⟩ := by
  have bound : (r.find? ⟨item, guards⟩).isSome ↔
      ∃ e ∈ r.entries, e.key = Entry.key ⟨item, guards⟩ := by
    simp only [find?, List.find?_isSome, clashes_iff]
    exact exists_congr fun e => and_congr_right fun _ => eq_comm
  rw [← bound, add]
  cases r.find? ⟨item, guards⟩ <;> simp

/-- The registry that a sequence of offers leads to. -/
def ofOffers (es : List Entry) : Registry := ⟨es.eraseDupsBy Entry.clashes⟩

theorem ofOffers_append (es : List Entry) (x : Entry) :
    (ofOffers (es ++ [x])).entries =
      (ofOffers es).entries ++ if es.any x.clashes then [] else [x] :=
  firsts_loop_append es x []

theorem ofOffers_refused {es : List Entry} {x : Entry} (clash : es.any x.clashes = true) :
    ofOffers (es ++ [x]) = ofOffers es := by
  have entries := ofOffers_append es x
  rw [clash] at entries
  simpa [ofOffers] using entries

theorem ofOffers_accepted {es : List Entry} {x : Entry} (free : es.any x.clashes = false) :
    ofOffers (es ++ [x]) = ⟨(ofOffers es).entries ++ [x]⟩ := by
  have entries := ofOffers_append es x
  rw [free] at entries
  simpa [ofOffers] using entries

/-- A key is bound to the first offer under it. -/
theorem find?_ofOffers (es : List Entry) (x : Entry) :
    (ofOffers es).find? x = es.find? x.clashes := by
  induction es using List.reverseRecOn with
  | nil => rfl
  | append_singleton es e ih =>
    unfold find? at ih ⊢
    rw [ofOffers_append, List.find?_append, List.find?_append, ih]
    cases clash : es.any e.clashes with
    | false => rfl
    | true =>
      cases hit : x.clashes e with
      | false => simp [hit]
      | true =>
        rw [← clashes_congr ((clashes_iff x e).mp hit)] at clash
        have bound : (es.find? x.clashes).isSome := by simpa [List.find?_isSome] using clash
        obtain ⟨first, found⟩ := Option.isSome_iff_exists.mp bound
        simp [found]

theorem mem_of_mem_ofOffers {es : List Entry} {e : Entry} (member : e ∈ (ofOffers es).entries) :
    e ∈ es := by
  induction es using List.reverseRecOn with
  | nil => simp [ofOffers] at member
  | append_singleton es x ih =>
    rw [ofOffers_append, List.mem_append] at member
    rcases member with old | new
    · exact List.mem_append_left _ (ih old)
    · split at new
      · simp at new
      · exact List.mem_append_right _ new

/-- No two entries have one key. -/
theorem ofOffers_keys_distinct (es : List Entry) :
    (ofOffers es).entries.Pairwise fun a b => a.key ≠ b.key := by
  induction es using List.reverseRecOn with
  | nil => exact List.Pairwise.nil
  | append_singleton es x ih =>
    cases clash : es.any x.clashes with
    | true => rwa [ofOffers_refused clash]
    | false =>
      rw [ofOffers_accepted clash, List.pairwise_append]
      refine ⟨ih, List.pairwise_singleton _ _, ?_⟩
      intro e member y new same
      obtain rfl : y = x := by simpa using new
      have : es.any y.clashes = true := List.any_eq_true.mpr
        ⟨e, mem_of_mem_ofOffers member, (clashes_iff y e).mpr same.symm⟩
      rw [clash] at this
      contradiction

/-- An entry is what its own key is bound to. -/
theorem find?_own_entry (es : List Entry) {e : Entry} (member : e ∈ (ofOffers es).entries) :
    es.find? e.clashes = some e := by
  induction es using List.reverseRecOn with
  | nil => simp [ofOffers] at member
  | append_singleton es x ih =>
    rw [List.find?_append]
    cases clash : es.any x.clashes with
    | true =>
      rw [ofOffers_refused clash] at member
      rw [ih member]
      rfl
    | false =>
      rw [ofOffers_accepted clash, List.mem_append] at member
      rcases member with old | new
      · rw [ih old]
        rfl
      · obtain rfl : e = x := by simpa using new
        have free : es.find? e.clashes = none := by simpa [List.find?_eq_none] using clash
        simp [free, (clashes_iff e e).mpr rfl]

theorem add_ofOffers (es : List Entry) (item : Item) (guards : List Guard) (span : Span) :
    (ofOffers es).add item guards span =
      match es.find? (Entry.clashes ⟨item, guards⟩) with
      | some first => .error (.single span (duplicateMessage first.item item))
      | none => .ok (ofOffers (es ++ [⟨item, guards⟩])) := by
  unfold add
  rw [find?_ofOffers]
  cases found : es.find? (Entry.clashes ⟨item, guards⟩) with
  | some first => rfl
  | none =>
    have free : es.any (Entry.clashes ⟨item, guards⟩) = false := by
      simpa [List.find?_eq_none] using found
    rw [ofOffers_accepted free]

/-- An offer, refused or not, leads to the registry of all offers so far. -/
theorem ofOffers_after_refusal {es : List Entry} {x first : Entry}
    (found : es.find? x.clashes = some first) : ofOffers (es ++ [x]) = ofOffers es :=
  ofOffers_refused (List.any_eq_true.mpr ⟨first, List.mem_of_find?_eq_some found,
    List.find?_some found⟩)

/-- The diagnostics for further offers, each refused for the first offer under its key. -/
def refusals (earlier : List Entry) : List (Entry × Span) → List Diagnostic
  | [] => []
  | (x, span) :: rest =>
    match earlier.find? x.clashes with
    | some first =>
      ⟨duplicateMessage first.item x.item, span⟩ :: refusals (earlier ++ [x]) rest
    | none => refusals (earlier ++ [x]) rest

theorem addAll_ofOffers (es : List Entry) (guards : List Guard) (items : List (Item × Span)) :
    (ofOffers es).addAll guards items =
      (ofOffers (es ++ items.map fun o => ⟨o.1, guards⟩),
       refusals es (items.map fun o => (⟨o.1, guards⟩, o.2))) := by
  induction items generalizing es with
  | nil => simp [addAll, refusals]
  | cons offer rest ih =>
    obtain ⟨item, span⟩ := offer
    cases found : es.find? (Entry.clashes ⟨item, guards⟩) with
    | some first =>
      simp only [addAll, add_ofOffers, List.map_cons, refusals, found]
      rw [← ofOffers_after_refusal found, ih]
      simp [Diagnostic.Batch.toList, Diagnostic.Batch.single]
    | none => simp [addAll, add_ofOffers, refusals, found, ih]

/-- Extraction registers what the classification of a declaration offers, after all earlier
    offers. -/
theorem extract_ofOffers (es : List Entry) (decl : Declaration) :
    (ofOffers es).extract decl =
      (classifyAll decl.kind decl.ident {} decl.annotations).map fun found =>
        { registry := ofOffers (es ++ found.items.map fun o => ⟨o.1, found.guards⟩)
          declaration := { decl with annotations := decl.annotations.filter (!·.isBinding) }
          removed := decl.annotations.filter (·.isBinding)
          diagnostics := found.diagnostics ++
            refusals es (found.items.map fun o => (⟨o.1, found.guards⟩, o.2)) } := by
  unfold extract
  cases classifyAll decl.kind decl.ident {} decl.annotations with
  | error stop => rfl
  | ok found =>
    simp only [bind, Except.bind, pure, Except.pure, addAll_ofOffers]
    rfl

end Registry
end Bindery

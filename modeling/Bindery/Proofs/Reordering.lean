import Bindery.Proofs.Walks

/- Walks over the declarations of a body in another order. The order decides which item a key is
   bound to, and so what the messages say. It does not decide which keys are bound, nor how many
   problems there are: every offer is either registered or refused, and as many are registered as
   there are keys. -/
namespace Bindery

namespace Registry

/-- The keys that are bound are those that were offered. -/
theorem mem_keys_iff {es : List Entry} {key : String × List String} :
    key ∈ (ofOffers es).entries.map Entry.key ↔ key ∈ es.map Entry.key := by
  simp only [List.mem_map]
  constructor
  · rintro ⟨e, bound, rfl⟩
    exact ⟨e, mem_of_mem_ofOffers bound, rfl⟩
  · rintro ⟨e, offered, rfl⟩
    have found : (es.find? e.clashes).isSome = true :=
      List.find?_isSome.mpr ⟨e, offered, (clashes_iff e e).mpr rfl⟩
    obtain ⟨first, found⟩ := Option.isSome_iff_exists.mp found
    rw [← find?_ofOffers] at found
    exact ⟨first, List.mem_of_find?_eq_some found,
      ((clashes_iff e first).mp (List.find?_some found)).symm⟩

/-- Offers in another order bind the same keys. -/
theorem keys_perm {es es' : List Entry} (perm : es.Perm es') :
    ((ofOffers es).entries.map Entry.key).Perm ((ofOffers es').entries.map Entry.key) := by
  have nodup : ∀ es, ((ofOffers es).entries.map Entry.key).Nodup := fun es =>
    List.pairwise_map.mpr (ofOffers_keys_distinct es)
  refine (List.perm_ext_iff_of_nodup (nodup es) (nodup es')).mpr fun key => ?_
  rw [mem_keys_iff, mem_keys_iff]
  exact (perm.map Entry.key).mem_iff

theorem size_perm {es es' : List Entry} (perm : es.Perm es') :
    (ofOffers es).size = (ofOffers es').size := by
  simpa [size] using (keys_perm perm).length_eq

/-- Every offer is registered or refused. -/
theorem length_refusals (earlier : List Entry) (offers : List (Entry × Span)) :
    (refusals earlier offers).length + (ofOffers (earlier ++ offers.map Prod.fst)).size =
      (ofOffers earlier).size + offers.length := by
  induction offers generalizing earlier with
  | nil => simp [refusals]
  | cons offer rest ih =>
    obtain ⟨x, span⟩ := offer
    have later := ih (earlier ++ [x])
    rw [List.append_assoc, List.singleton_append] at later
    cases found : earlier.find? x.clashes with
    | some first =>
      rw [ofOffers_after_refusal found] at later
      simp only [refusals, found, List.map_cons, List.length_cons]
      omega
    | none =>
      have free : earlier.any x.clashes = false := by simpa [List.find?_eq_none] using found
      have grown : (ofOffers (earlier ++ [x])).size = (ofOffers earlier).size + 1 := by
        rw [ofOffers_accepted free]
        simp [size]
      simp only [refusals, found, List.map_cons, List.length_cons]
      omega

end Registry

namespace Declaration

/-- What is reported and what is registered together are the problems and the offers. -/
theorem length_report (earlier : List Entry) (ds : List Declaration) :
    (report earlier ds).length +
        (Registry.ofOffers (earlier ++ ds.flatMap fun d => d.offers.map Prod.fst)).size =
      (Registry.ofOffers earlier).size +
        ((ds.flatMap problems).length + (ds.flatMap offers).length) := by
  induction ds generalizing earlier with
  | nil => simp [report]
  | cons d ds ih =>
    have here := Registry.length_refusals earlier d.offers
    have later := ih (earlier ++ d.offers.map Prod.fst)
    simp only [report, List.flatMap_cons, List.length_append, List.append_assoc] at later ⊢
    omega

theorem length_report_perm {ds ds' : List Declaration} (perm : ds.Perm ds') :
    (report [] ds).length = (report [] ds').length := by
  have offered : (ds.flatMap fun d => d.offers.map Prod.fst).Perm
      (ds'.flatMap fun d => d.offers.map Prod.fst) := perm.flatMap_right _
  have size := Registry.size_perm offered
  have problems := (perm.flatMap_right problems).length_eq
  have offers := (perm.flatMap_right offers).length_eq
  have here := length_report [] ds
  have there := length_report [] ds'
  simp only [List.nil_append] at here there
  omega

end Declaration

/- A walk over the same declarations in another order ends if this one ends, and it always ends where
   the annotations are read from their sources and stand on the right kinds. Both have as many
   diagnostics and bind the same keys; and where one has no diagnostics, the other has none, and the
   same items under the same guards. -/
theorem order_decides_no_key {ds ds' : List Declaration} (perm : ds.Perm ds') :
    ((∀ d ∈ ds, d.IsRead) → (∀ d ∈ ds, d.KindsAgree) →
      ∃ w w', Walk.ofDeclarations ds = .ok w ∧ Walk.ofDeclarations ds' = .ok w') ∧
    ((∃ w, Walk.ofDeclarations ds = .ok w) ↔ ∃ w', Walk.ofDeclarations ds' = .ok w') ∧
    ∀ w w', Walk.ofDeclarations ds = .ok w → Walk.ofDeclarations ds' = .ok w' →
      w.diagnostics.length = w'.diagnostics.length ∧
      (w.registry.entries.map Entry.key).Perm (w'.registry.entries.map Entry.key) ∧
      (w.diagnostics = [] →
        w'.diagnostics = [] ∧ w.registry.entries.Perm w'.registry.entries) := by
  have walks : (∀ d ∈ ds, d.Fits) ↔ ∀ d ∈ ds', d.Fits :=
    forall_congr' fun d => imp_congr_left perm.mem_iff
  have ends : ∀ {ds : List Declaration}, (∀ d ∈ ds, d.Fits) → ∃ w, Walk.ofDeclarations ds = .ok w :=
    fun fits => ⟨_, Walk.ofDeclarations_fits fits⟩
  refine ⟨fun isRead agrees => ?_, ⟨?_, ?_⟩, ?_⟩
  · have fits : ∀ d ∈ ds, d.Fits := fun d member =>
      Declaration.fits_of_isRead (isRead d member) (agrees d member)
    exact ⟨_, _, Walk.ofDeclarations_fits fits, Walk.ofDeclarations_fits (walks.mp fits)⟩
  · rintro ⟨w, ended⟩
    exact ends (walks.mp (Walk.fits_of_ok ended))
  · rintro ⟨w', ended⟩
    exact ends (walks.mpr (Walk.fits_of_ok ended))
  · intro w w' ended ended'
    rw [Walk.ofDeclarations_fits (Walk.fits_of_ok ended), Except.ok.injEq] at ended
    rw [Walk.ofDeclarations_fits (Walk.fits_of_ok ended'), Except.ok.injEq] at ended'
    subst ended ended'
    have offered : (ds.flatMap fun d => d.offers.map Prod.fst).Perm
        (ds'.flatMap fun d => d.offers.map Prod.fst) := perm.flatMap_right _
    have length := Declaration.length_report_perm perm
    simp only [← Declaration.offers_bindings]
    refine ⟨length, Registry.keys_perm offered, fun clean => ?_⟩
    have clean' : Declaration.report [] ds' = [] := by
      rw [clean] at length
      exact List.length_eq_zero_iff.mp length.symm
    -- without a report all offers are registered, in either order
    have accepted := (Declaration.report_nil clean rfl).1
    have accepted' := (Declaration.report_nil clean' rfl).1
    rw [List.nil_append] at accepted accepted'
    rw [accepted, accepted']
    exact ⟨clean', offered⟩

/-- Which of the rivals is registered is decided by their order. -/
theorem rivals_swapped : rivals.Perm rivals.reverse ∧
    ∃ w w', Walk.ofDeclarations rivals = .ok w ∧ Walk.ofDeclarations rivals.reverse = .ok w' ∧
      w.diagnostics.length = 1 ∧ w'.diagnostics.length = 1 ∧
      (w.registry.entries.map Entry.key).Perm (w'.registry.entries.map Entry.key) ∧
      w.registry.entries.map (·.item.kind) = [.function] ∧
      w'.registry.entries.map (·.item.kind) = [.attr] := by
  have perm : rivals.Perm rivals.reverse := (List.reverse_perm rivals).symm
  obtain ⟨-, ends, agree⟩ := order_decides_no_key perm
  have walked : (Walk.ofDeclarations rivals).toOption.map
      (fun w => (w.diagnostics.length, w.registry.entries.map (·.item.kind))) =
      some (1, [.function]) := by decide +kernel
  have walked' : (Walk.ofDeclarations rivals.reverse).toOption.map
      (fun w => w.registry.entries.map (·.item.kind)) = some [.attr] := by decide +kernel
  obtain ⟨w, ended, found⟩ := Option.map_eq_some_iff.mp walked
  obtain ⟨w', ended', found'⟩ := Option.map_eq_some_iff.mp walked'
  obtain ⟨count, kinds⟩ := Prod.mk.inj found
  obtain ⟨length, keys, -⟩ := agree w w' (eq_ok_of_toOption ended) (eq_ok_of_toOption ended')
  exact ⟨perm, w, w', eq_ok_of_toOption ended, eq_ok_of_toOption ended', count,
    length ▸ count, keys, kinds, found'⟩

end Bindery

import Bindery.Proofs.Walks

/- What a walk reports, whether it comes to an end or is stopped: the problems of arguments, assigned forms,
   and items under keys that are bound, each with the annotation of the body that it is about. -/
namespace Bindery

namespace Declaration

/-- An annotation of a body that binds the declaration it stands on. -/
structure Binds (ds : List Declaration) (d : Declaration) (a : Annotation) (b : Binding) : Prop where
  inBody : d ∈ ds
  on : a ∈ d.annotations
  binds : a.binding? = some b

/-- A problem of a body. -/
inductive Reported (ds : List Declaration) : Diagnostic → Prop
  | argument {d : Declaration} {a : Annotation} {b : Binding} {path : String} {args : List Argument}
      {span : Span} {x : Argument} {fault : ArgumentFault} (binds : Binds ds d a b)
      (list : a.directive = some (.applied path args span)) (given : x ∈ args)
      (refused : x.check b.allowed = .error fault) :
      Reported ds ⟨fault.message b.name, x.placeOr (some a.span)⟩
  | assigned {d : Declaration} {a : Annotation} {b : Binding} {target source : String}
      {value : Option Literal} {span : Span} (binds : Binds ds d a b)
      (form : a.directive = some (.assigned target value source span)) :
      Reported ds ⟨Directive.assignedMessage b.name, span⟩
  | duplicate {d d' : Declaration} {a a' : Annotation} {b b' : Binding} {first later : Item}
      (binds : Binds ds d a b) (offers : a.verdict? d.ident = some (.ok later))
      (binds' : Binds ds d' a' b') (offers' : a'.verdict? d'.ident = some (.ok first)) :
      Reported ds ⟨Registry.duplicateMessage first later, a.span⟩

variable {ds : List Declaration} {d : Declaration} {a : Annotation} {b : Binding} {x : Diagnostic}
  {es : List Entry}

/-- An annotation with a verdict is a binding whose directive is classified. -/
theorem binds_of_verdict {verdict : Except Diagnostic.Batch Item} (inBody : d ∈ ds)
    (on : a ∈ d.annotations) (found : a.verdict? d.ident = some verdict) :
    ∃ b form, Binds ds d a b ∧ a.directive = some form ∧ b.classify d.ident form a.span = verdict := by
  unfold Annotation.verdict? at found
  split at found
  · next form b directive named =>
    exact ⟨b, form, ⟨inBody, on, by simp [ Annotation.binding?, directive, named]⟩, directive,
      Option.some.inj found⟩
  · cases found

theorem reported_of_problem (inBody : d ∈ ds) (on : a ∈ d.annotations)
    (member : x ∈ a.problems d.ident) : Reported ds x := by
  unfold Annotation.problems at member
  split at member
  · next batch found =>
    obtain ⟨b, form, binds, directive, refused⟩ := binds_of_verdict inBody on found
    rcases bind_eq_error_iff.mp refused with assigned | ⟨args, list, refused⟩
    · cases form <;> cases assigned
      obtain rfl : x = _ := List.mem_singleton.mp member
      exact .assigned binds directive
    · rcases bind_eq_error_iff.mp refused with faulty | ⟨-, -, ⟨⟩⟩
      unfold Arguments.ofList at faulty
      split at faulty
      · next batch' some_ =>
        cases faulty
        rw [Diagnostic.Batch.ofList?_eq_some_iff] at some_
        rw [some_] at member
        obtain ⟨argument, given, told⟩ := List.mem_filterMap.mp member
        cases checked : argument.check b.allowed with
        | ok e =>
          rw [checked] at told
          cases told
        | error fault =>
          rw [checked] at told
          cases told
          cases form <;> cases list
          · cases given
          · exact .argument binds directive given checked
      · cases faulty
  · cases member

/-- What is offered is offered by an annotation. -/
theorem binds_of_offer {e : Entry} {span : Span} (inBody : d ∈ ds) (member : (e, span) ∈ d.offers) :
    ∃ a b, Binds ds d a b ∧ a.verdict? d.ident = some (.ok e.item) ∧ a.span = span := by
  obtain ⟨offer, among, same⟩ := List.mem_map.mp member
  cases same
  obtain ⟨a, on, offered⟩ := List.mem_filterMap.mp among
  unfold Annotation.offer? at offered
  split at offered
  · next item found =>
    cases offered
    obtain ⟨b, -, binds, -⟩ := binds_of_verdict inBody on found
    exact ⟨a, b, binds, found, rfl⟩
  · cases offered

/-- Entries that annotations of a body offer. -/
def Offered (ds : List Declaration) (es : List Entry) : Prop :=
  ∀ e ∈ es, ∃ d a b, Binds ds d a b ∧ a.verdict? d.ident = some (.ok e.item)

theorem Offered.of_offers (inBody : d ∈ ds) : Offered ds (d.offers.map Prod.fst) := by
  intro e member
  obtain ⟨⟨e, span⟩, offer, rfl⟩ := List.mem_map.mp member
  obtain ⟨a, b, binds, offers, -⟩ := binds_of_offer inBody offer
  exact ⟨d, a, b, binds, offers⟩

/-- By induction on the offers: each that is refused comes behind an entry with its key. -/
theorem reported_of_refusal {offers : List (Entry × Span)} (inBody : d ∈ ds) (offered : Offered ds es)
    (own : offers ⊆ d.offers) (member : x ∈ Registry.refusals es offers) : Reported ds x := by
  induction offers generalizing es with
  | nil => cases member
  | cons offer offers ih =>
    obtain ⟨e, span⟩ := offer
    obtain ⟨a, b, binds, offers', rfl⟩ := binds_of_offer inBody (own List.mem_cons_self)
    have next : Offered ds (es ++ [e]) := by
      intro e' member
      rcases List.mem_append.mp member with earlier | here
      · exact offered e' earlier
      · rw [List.mem_singleton.mp here]
        exact ⟨d, a, b, binds, offers'⟩
    have later := ih next fun _ among => own (List.mem_cons_of_mem _ among)
    rw [Registry.refusals] at member
    split at member
    · next first found =>
      rcases List.mem_cons.mp member with rfl | member
      · obtain ⟨d', a', b', binds', offers''⟩ := offered first (List.mem_of_find?_eq_some found)
        exact .duplicate binds offers' binds' offers''
      · exact later member
    · exact later member

theorem reported_of_report {part : List Declaration} (within : part ⊆ ds) (offered : Offered ds es)
    (member : x ∈ report es part) : Reported ds x := by
  induction part generalizing es with
  | nil => cases member
  | cons d part ih =>
    have inBody : d ∈ ds := within List.mem_cons_self
    rw [report, List.mem_append, List.mem_append] at member
    rcases member with (problem | refusal) | later
    · obtain ⟨a, on, problem⟩ := List.mem_flatMap.mp problem
      exact reported_of_problem inBody on problem
    · exact reported_of_refusal inBody offered (List.Subset.refl _) refusal
    · refine ih (fun _ among => within (List.mem_cons_of_mem d among)) ?_ later
      intro e member
      exact (List.mem_append.mp member).elim (offered e) (Offered.of_offers inBody e)

end Declaration

namespace Registry

/-- A classification that stops has told the problems of the annotations before. -/
theorem classifyAll_told {kind : Declaration.Kind} {ident : String} {found : Findings}
    {as : List Annotation} {stop : Stop} (stopped : classifyAll kind ident found as = .error stop) :
    ∃ before, before <+: as ∧
      stop.diagnostics = found.diagnostics ++ before.flatMap (·.problems ident) := by
  induction as generalizing found with
  | nil => cases stopped
  | cons a as ih =>
    by_cases here : a.Fits kind
    · rw [classifyAll, classifyOne_fits here] at stopped
      obtain ⟨before, begins, told⟩ := ih stopped
      exact ⟨a :: before, List.cons_prefix_cons.mpr ⟨rfl, begins⟩, by simp [told, Findings.push]⟩
    · obtain ⟨fault, same⟩ := classifyOne_stops here ident found
      rw [classifyAll, same] at stopped
      cases stopped
      exact ⟨[], List.nil_prefix, by simp⟩

theorem extract_told {r : Registry} {d : Declaration} {stop : Stop}
    (stopped : r.extract d = .error stop) :
    ∃ before, before <+: d.annotations ∧ stop.diagnostics = before.flatMap (·.problems d.ident) := by
  rcases bind_eq_error_iff.mp stopped with faulty | ⟨-, -, ⟨⟩⟩
  exact classifyAll_told faulty

end Registry

namespace Walk

open Declaration

/-- By induction on the declarations. -/
theorem along_told {ds part : List Declaration} {es : List Entry} {w : Walk} {stop : Stop}
    (within : part ⊆ ds) (offered : Offered ds es) (registry : w.registry = .ofOffers es)
    (told : ∀ x ∈ w.diagnostics, Reported ds x) (stopped : w.along part = .error stop) :
    ∀ x ∈ stop.walk.diagnostics, Reported ds x := by
  induction part generalizing es w with
  | nil => cases stopped
  | cons d part ih =>
    have inBody : d ∈ ds := within List.mem_cons_self
    by_cases here : d.Fits
    · rw [along, registry, Registry.extract_fits es here] at stopped
      refine ih (fun _ among => within (List.mem_cons_of_mem d among)) ?_ rfl ?_ stopped
      · intro e member
        exact (List.mem_append.mp member).elim (offered e) (Offered.of_offers inBody e)
      · intro x member
        refine (List.mem_append.mp member).elim (told x) fun own => ?_
        have alone : [d] ⊆ ds := fun _ among => List.mem_singleton.mp among ▸ inBody
        exact reported_of_report alone offered (by simpa [report] using own)
    · obtain ⟨faulty, extracted⟩ := Registry.extract_stops es here
      rw [along, registry, extracted] at stopped
      cases stopped
      intro x member
      refine (List.mem_append.mp member).elim (told x) fun own => ?_
      obtain ⟨before, begins, same⟩ := Registry.extract_told extracted
      rw [same] at own
      obtain ⟨a, among, problem⟩ := List.mem_flatMap.mp own
      exact reported_of_problem inBody (begins.subset among) problem

/-- All that a walk tells is a problem of the body, also when it is stopped. -/
theorem ofDeclarations_told (ds : List Declaration) :
    (∀ w, ofDeclarations ds = .ok w → ∀ x ∈ w.diagnostics, Reported ds x) ∧
    ∀ stop, ofDeclarations ds = .error stop → ∀ x ∈ stop.walk.diagnostics, Reported ds x := by
  have offered : Offered ds [] := fun _ member => absurd member List.not_mem_nil
  constructor
  · intro w ended x member
    rw [ofDeclarations_fits (fits_of_ok ended), Except.ok.injEq] at ended
    subst ended
    exact reported_of_report (List.Subset.refl ds) offered member
  · intro stop stopped
    exact along_told (List.Subset.refl ds) offered rfl (fun _ member => absurd member List.not_mem_nil)
      stopped

end Walk
end Bindery

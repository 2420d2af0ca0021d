import Bindery.Proofs.PhraseWords

/- The same words in two places, with other words behind the outermost brackets. Who looks at a word inside
   brackets finds the same in both places. -/
namespace Bindery.Reader

variable {α : Type} {old new ts us rest : List Lexeme} {n : Nat} {m : String}

/-! ### Words in two places -/

/-- The words up to what follows the outermost brackets are the same in both places, and `n` brackets are
    still open. -/
def Within (old new : List Lexeme) (n : Nat) (ts us : List Lexeme) : Prop :=
  ∃ part part', ts = part ++ old ∧ us = part' ++ new ∧
    part'.map Lexeme.token = part.map Lexeme.token ∧ depth part = -n

/-- Who looks at the next word does not see what follows the brackets. -/
def Inside (old new : List Lexeme) (n : Nat) : Prop := 0 < n ∨ (old = [] ∧ new = [])

theorem Inside.deeper (n : Nat) : Inside old new (n + 1) := .inl n.succ_pos

theorem Inside.symm (inside : Inside old new n) : Inside new old n := inside.imp id And.symm

/-- Both places give nothing, or both give something that belongs together. -/
def Agree (P : α → α → Prop) (x x' : Option α) : Prop :=
  (x = none ∧ x' = none) ∨ ∃ a a', x = some a ∧ x' = some a' ∧ P a a'

theorem Agree.isSome_eq {P : α → α → Prop} {x x' : Option α} (agree : Agree P x x') :
    x.isSome = x'.isSome := by
  obtain ⟨rfl, rfl⟩ | ⟨a, a', rfl, rfl, -⟩ := agree <;> rfl

theorem weight_plain (plain : isPlain m = true) (place : Place) : weight ⟨.mark m, place⟩ = 0 := by
  simp [weight, isOpening_of_plain (t := ⟨.mark m, place⟩) rfl plain,
    isClosing_of_plain (t := ⟨.mark m, place⟩) rfl plain]

/-- Results that tell the same, and what follows them in both places. -/
def Both (old new : List Lexeme) (n : Nat) (alike : α → α → Prop) (r r' : α × List Lexeme) : Prop :=
  alike r.1 r'.1 ∧ Within old new n r.2 r'.2

namespace Within

theorem cases (within : Within old new n ts us) :
    (ts = old ∧ us = new ∧ n = 0) ∨ ∃ token p p' ts' us', ts = ⟨token, p⟩ :: ts' ∧ us = ⟨token, p'⟩ :: us' ∧
      ∀ k : Nat, (k : Int) = n + weight ⟨token, p⟩ → Within old new k ts' us' := by
  obtain ⟨part, part', rfl, rfl, same, depths⟩ := within
  cases part with
  | nil =>
    obtain rfl : part' = [] := by simpa using same
    exact .inl ⟨rfl, rfl, by simpa using depths⟩
  | cons t part =>
    cases part' with
    | nil => simp at same
    | cons u part' =>
      obtain ⟨token, p⟩ := t
      obtain ⟨token', p'⟩ := u
      simp only [List.map_cons, List.cons.injEq] at same
      obtain ⟨rfl, same⟩ := same
      refine .inr ⟨_, p, p', _, _, rfl, rfl, fun k deep => ⟨part, part', rfl, rfl, same, ?_⟩⟩
      rw [depth_cons] at depths
      omega

theorem next (within : Within old new n ts us) (inside : Inside old new n) :
    (ts = [] ∧ us = []) ∨ ∃ token p p' ts' us', ts = ⟨token, p⟩ :: ts' ∧ us = ⟨token, p'⟩ :: us' ∧
      ∀ k : Nat, (k : Int) = n + weight ⟨token, p⟩ → Within old new k ts' us' := by
  rcases within.cases with ⟨rfl, rfl, rfl⟩ | more
  · rcases inside with deep | none
    · cases deep
    · exact .inl none
  · exact .inr more

/-- Behind a mark as many brackets are open as it says. -/
theorem passing {k : Nat} (within : Within old new n ts us) (m : String)
    (beyond : n = 0 → mark? m old = none ∧ mark? m new = none)
    (deep : ∀ place, (k : Int) = n + weight ⟨.mark m, place⟩) :
    Agree (Within old new k) (mark? m ts) (mark? m us) := by
  obtain ⟨rfl, rfl, outside⟩ | ⟨token, p, p', ts', us', rfl, rfl, behind⟩ := within.cases
  · exact .inl (beyond outside)
  · cases token with
    | mark x =>
      by_cases this : x = m
      · subst this
        exact .inr ⟨ts', us', if_pos rfl, if_pos rfl, behind k (deep p)⟩
      · exact .inl ⟨if_neg this, if_neg this⟩
    | _ => exact .inl ⟨rfl, rfl⟩

theorem naming (within : Within old new n ts us) (beyond : n = 0 → name? old = none ∧ name? new = none) :
    Agree (Both old new n Eq) (name? ts) (name? us) := by
  obtain ⟨rfl, rfl, outside⟩ | ⟨token, p, p', ts', us', rfl, rfl, behind⟩ := within.cases
  · exact .inl (beyond outside)
  · cases token with
    | word x =>
      have behind := behind n (by simp [weight, isOpening, isClosing])
      by_cases reserved : Token.keywords.contains x = true
      · exact .inl ⟨if_pos reserved, if_pos reserved⟩
      · exact .inr ⟨_, _, if_neg reserved, if_neg reserved, rfl, behind⟩
    | _ => exact .inl ⟨rfl, rfl⟩

/-- Inside brackets a closing one leads out. -/
theorem closing (within : Within old new (n + 1) ts us) (m : String)
    (closes : [")", "]", "\x7d"].contains m = true) :
    Agree (Within old new n) (mark? m ts) (mark? m us) := by
  refine within.passing m nofun fun place => ?_
  rw [weight_closing (isClosing_of_mark (t := ⟨.mark m, place⟩) rfl closes)]
  omega

variable (within : Within old new n ts us) (inside : Inside old new n)
include within inside

theorem mark (m : String) (plain : isPlain m = true) :
    Agree (Within old new n) (mark? m ts) (mark? m us) := by
  refine within.passing m ?_ fun place => by rw [weight_plain plain, add_zero]
  rintro rfl
  obtain ⟨rfl, rfl⟩ := inside.resolve_left (lt_irrefl 0)
  exact ⟨rfl, rfl⟩

theorem name : Agree (Both old new n Eq) (name? ts) (name? us) := by
  refine within.naming ?_
  rintro rfl
  obtain ⟨rfl, rfl⟩ := inside.resolve_left (lt_irrefl 0)
  exact ⟨rfl, rfl⟩

theorem keyword (w : String) : Agree (Within old new n) (keyword? w ts) (keyword? w us) := by
  obtain ⟨rfl, rfl⟩ | ⟨token, p, p', ts', us', rfl, rfl, behind⟩ := within.next inside
  · exact .inl ⟨rfl, rfl⟩
  · cases token with
    | word x =>
      by_cases this : x = w
      · subst this
        exact .inr ⟨ts', us', if_pos rfl, if_pos rfl, behind n (by simp [weight, isOpening, isClosing])⟩
      · exact .inl ⟨if_neg this, if_neg this⟩
    | _ => exact .inl ⟨rfl, rfl⟩

theorem nameBefore (m : String) (plain : isPlain m = true) :
    Agree (Both old new n Eq) (nameBefore? m ts) (nameBefore? m us) := by
  unfold nameBefore?
  obtain ⟨absent, absent'⟩ | ⟨⟨x, rest⟩, ⟨_, rest'⟩, found, found', rfl, within⟩ := within.name inside
  · exact .inl ⟨by rw [absent]; rfl, by rw [absent']; rfl⟩
  · obtain ⟨absent, absent'⟩ | ⟨rest, rest', here, here', within⟩ := within.mark inside m plain
    · exact .inl ⟨by simp [found, absent], by simp [found', absent']⟩
    · exact .inr ⟨(x, rest), (x, rest'), by simp [found, here], by simp [found', here'], rfl, within⟩

theorem operator {ops : List (String × BinaryOp)} (plain : Plain ops) :
    Agree (Both old new n Eq) (operator? ops ts) (operator? ops us) := by
  obtain ⟨rfl, rfl⟩ | ⟨token, p, p', ts', us', rfl, rfl, behind⟩ := within.next inside
  · exact .inl ⟨rfl, rfl⟩
  · cases token with
    | mark x =>
      cases held : ops.lookup x with
      | none => exact .inl ⟨by simp [operator?, held], by simp [operator?, held]⟩
      | some op =>
        obtain ⟨before, after, whole, -⟩ := List.lookup_eq_some_iff.mp held
        have plain : isPlain x = true := plain (x, op) (by simp [whole])
        exact .inr ⟨(op, ts'), (op, us'), by simp [operator?, held], by simp [operator?, held], rfl,
          behind n (by rw [weight_plain plain, add_zero])⟩
    | _ => exact .inl ⟨rfl, rfl⟩

omit within inside in
theorem symm (within : Within old new n ts us) : Within new old n us ts := by
  obtain ⟨part, part', whole, whole', same, depths⟩ := within
  exact ⟨part', part, whole', whole, same.symm, by rw [depth_eq_of_tokens same, depths]⟩

theorem sign_found {op : UnaryOp} (found : sign? ts = some (op, rest)) :
    ∃ rest', sign? us = some (op, rest') ∧ Within old new n rest rest' := by
  obtain ⟨rfl, rfl⟩ | ⟨token, p, p', ts', us', rfl, rfl, behind⟩ := within.next inside
  · cases found
  · unfold sign? at found
    split at found
    case h_4 => cases found
    all_goals
      rename_i same
      cases same
      cases found
      exact ⟨us', rfl, behind n rfl⟩

theorem comparison_found {op : CompareOp} (found : comparison? ts = some (op, rest)) :
    ∃ rest', comparison? us = some (op, rest') ∧ Within old new n rest rest' := by
  obtain ⟨rfl, rfl⟩ | ⟨token, p, p', ts', us', rfl, rfl, behind⟩ := within.next inside
  · cases found
  · have within' : weight ⟨token, p⟩ = 0 → Within old new n ts' us' := fun plain =>
      behind n (by rw [plain, add_zero])
    unfold comparison? at found
    split at found
    case h_11 => cases found
    case h_8 same | h_9 same =>
      cases same
      cases found
      obtain ⟨same, -⟩ | ⟨token, q, q', ts'', us'', same, rfl, further⟩ := (within' rfl).next inside
      · cases same
      · cases same
        exact ⟨us'', rfl, further n rfl⟩
    case h_10 apart same =>
      cases same
      cases found
      obtain ⟨rfl, rfl⟩ | ⟨token, q, q', ts'', us'', rfl, rfl, further⟩ := (within' rfl).next inside
      · exact ⟨_, rfl, within' rfl⟩
      · refine ⟨_, ?_, within' rfl⟩
        unfold comparison?
        split
        case h_9 same => cases same; exact (apart _ _ rfl).elim
        case h_10 same => cases same; rfl
        case h_11 none => exact (none _ _ rfl).elim
        all_goals
          rename_i same
          simp at same
    all_goals
      rename_i same
      cases same
      cases found
      exact ⟨us', rfl, within' rfl⟩

theorem sign : Agree (Both old new n Eq) (sign? ts) (sign? us) := by
  cases found : sign? ts with
  | some r =>
    obtain ⟨rest', found', within'⟩ := within.sign_found inside found
    exact .inr ⟨r, (r.1, rest'), rfl, found', rfl, within'⟩
  | none =>
    refine .inl ⟨rfl, Option.eq_none_iff_forall_not_mem.mpr fun r found' => ?_⟩
    obtain ⟨rest, present, -⟩ := within.symm.sign_found inside.symm found'
    rw [found] at present
    cases present

theorem comparison : Agree (Both old new n Eq) (comparison? ts) (comparison? us) := by
  cases found : comparison? ts with
  | some r =>
    obtain ⟨rest', found', within'⟩ := within.comparison_found inside found
    exact .inr ⟨r, (r.1, rest'), rfl, found', rfl, within'⟩
  | none =>
    refine .inl ⟨rfl, Option.eq_none_iff_forall_not_mem.mpr fun r found' => ?_⟩
    obtain ⟨rest, present, -⟩ := within.symm.comparison_found inside.symm found'
    rw [found] at present
    cases present

theorem atMark (m : String) : atMark m us = atMark m ts := by
  obtain ⟨rfl, rfl⟩ | ⟨token, p, p', ts', us', rfl, rfl, behind⟩ := within.next inside
  · rfl
  · unfold Reader.atMark
    cases token with
    | mark x => by_cases this : x = m <;> simp [mark?, this]
    | _ => rfl

theorem atKeyword (w : String) : atKeyword w us = atKeyword w ts :=
  (within.keyword inside w).isSome_eq.symm

end Within
/-! ### Before the words behind the brackets -/

/-- Neither an atom nor a trailer begins with these words. -/
def Stops (ts : List Lexeme) : Prop :=
  ts = [] ∨ ∃ token p rest, ts = ⟨token, p⟩ :: rest ∧
    (token = .mark ")" ∨ token = .mark ":" ∨ token = .word "and")

namespace Stops

variable (stops : Stops ts)
include stops

theorem atom_eq_none (fuel : Nat) : atom fuel ts = none := by
  rcases stops with rfl | ⟨_, p, rest, rfl, rfl | rfl | rfl⟩ <;> cases fuel <;> rfl

theorem mark?_eq_none (m : String) (trails : [".", "(", "["].contains m = true) : mark? m ts = none := by
  simp only [List.contains_cons, List.contains_nil, Bool.or_false, Bool.or_eq_true, beq_iff_eq] at trails
  rcases stops with rfl | ⟨_, p, rest, rfl, rfl | rfl | rfl⟩ <;> rcases trails with rfl | rfl | rfl <;> rfl

theorem name?_eq_none : name? ts = none := by
  rcases stops with rfl | ⟨_, p, rest, rfl, rfl | rfl | rfl⟩ <;> rfl

theorem literals_eq : literals ts = ([], ts) := by
  rcases stops with rfl | ⟨_, p, rest, rfl, rfl | rfl | rfl⟩ <;> rfl

end Stops

/-- An atom with its trailers does not reach beyond the brackets. -/
def Calm (old new : List Lexeme) (n : Nat) : Prop := 0 < n ∨ (Stops old ∧ Stops new)

theorem Inside.calm (inside : Inside old new n) : Calm old new n :=
  inside.imp id fun ⟨empty, empty'⟩ => ⟨.inl empty, .inl empty'⟩

namespace Within

variable (within : Within old new n ts us) (calm : Calm old new n)
include within calm

theorem trailer {k : Nat} (m : String) (trails : [".", "(", "["].contains m = true)
    (deep : ∀ place, (k : Int) = n + weight ⟨.mark m, place⟩) :
    Agree (Within old new k) (mark? m ts) (mark? m us) := by
  refine within.passing m ?_ deep
  rintro rfl
  obtain ⟨stops, stops'⟩ := calm.resolve_left (lt_irrefl 0)
  exact ⟨stops.mark?_eq_none m trails, stops'.mark?_eq_none m trails⟩

theorem trailingName : Agree (Both old new n Eq) (name? ts) (name? us) := by
  refine within.naming ?_
  rintro rfl
  obtain ⟨stops, stops'⟩ := calm.resolve_left (lt_irrefl 0)
  exact ⟨stops.name?_eq_none, stops'.name?_eq_none⟩

theorem literals : ∃ rest', literals us = ((literals ts).1, rest') ∧
    Within old new n (literals ts).2 rest' := by
  fun_induction Reader.literals ts generalizing us with
  | case1 w place ts ws rest read ih =>
    obtain ⟨rfl, rfl, rfl⟩ | ⟨token, p, p', ts', us', same, rfl, behind⟩ := within.cases
    · obtain ⟨stops, -⟩ := calm.resolve_left (lt_irrefl 0)
      have none := stops.literals_eq
      simp [Reader.literals] at none
    · obtain ⟨⟨rfl, rfl⟩, rfl⟩ : (Token.text w = token ∧ place = p) ∧ ts = ts' := by simpa using same
      obtain ⟨rest', read', within'⟩ := ih (behind n rfl)
      rw [read] at read' within'
      exact ⟨rest', by simp [Reader.literals, read'], within'⟩
  | case2 ts other =>
    refine ⟨us, ?_, within⟩
    obtain ⟨rfl, rfl, rfl⟩ | ⟨token, p, p', ts', us', rfl, rfl, behind⟩ := within.cases
    · exact (calm.resolve_left (lt_irrefl 0)).2.literals_eq
    · cases token with
      | text w => exact (other w p ts' rfl).elim
      | _ => rfl

end Within

end Bindery.Reader

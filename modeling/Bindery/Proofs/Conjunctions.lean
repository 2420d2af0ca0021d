import Bindery.Proofs.BracketedTexts
import Bindery.Proofs.ReadElsewhere
import Bindery.Guard

/- Operands with `and` between them. The words of an operand are read to their end wherever they stand before
   `and` or a colon, and as many of them are read as one condition. -/
namespace Bindery.Reader

variable {ts us inner rest : List Lexeme} {o c : Lexeme} {p : Phrase} {fuel : Nat}

/-! ### Behind an operand -/

/-- Words with which a condition goes on behind an operand, or with which it ends. -/
def Joins (rest : List Lexeme) : Prop :=
  ∃ token place more, rest = ⟨token, place⟩ :: more ∧ (token = .mark ":" ∨ token = .word "and")

namespace Joins

variable (joins : Joins rest)
include joins

theorem stops : Stops rest := by
  obtain ⟨token, place, more, rfl, is⟩ := joins
  exact .inr ⟨token, place, more, rfl, .inr is⟩

theorem endsOperand : EndsOperand rest := by
  obtain ⟨token, place, more, rfl, rfl | rfl⟩ := joins
  · have absent : ∀ ops ∈ binaryLevels, ops.lookup ":" = none := by decide
    exact ⟨rfl, fun ops member => by simp [operator?, absent ops member], rfl⟩
  · exact ⟨rfl, fun _ _ => rfl, rfl⟩

end Joins

section
variable (read : primary fuel ts = some (p, rest))
include read

/-- An operand begins with none of the words that make a larger phrase of it. -/
theorem keyword?_of_primary {w : String} (reserved : ["await", "not", "lambda"].contains w = true) :
    keyword? w ts = none := by
  by_contra present
  obtain ⟨more, found⟩ := Option.ne_none_iff_exists'.mp present
  obtain ⟨⟨token, place⟩, is, passed⟩ := keyword?_passes w ts more found
  cases is
  have whole := passed.whole
  simp only [List.contains_cons, List.contains_nil, Bool.or_false, Bool.or_eq_true, beq_iff_eq] at reserved
  rcases reserved with rfl | rfl | rfl
  all_goals
    rw [whole, List.singleton_append, primary_eq_none fun n => by cases n <;> rfl] at read
    cases read

theorem sign?_of_primary : sign? ts = none := by
  unfold sign?
  split
  case h_4 => rfl
  all_goals
    rw [primary_eq_none fun n => by cases n <;> rfl] at read
    cases read

/-- Behind the name of a named expression nothing is read. -/
theorem nameBefore?_of_primary (joins : Joins rest) : nameBefore? ":=" ts = none := by
  by_contra present
  obtain ⟨⟨x, more⟩, found⟩ := Option.ne_none_iff_exists'.mp present
  obtain ⟨⟨x, behind⟩, named, found⟩ := Option.bind_eq_some_iff.mp found
  obtain ⟨more, marked, -⟩ := Option.bind_eq_some_iff.mp found
  obtain ⟨⟨token, place⟩, is, rfl⟩ := mark?_found ":=" behind more marked
  cases is
  unfold name? at named
  split at named
  · next x start ts =>
    split at named
    · cases named
    next free =>
    cases named
    rcases fuel with _ | _ | fuel
    · cases read
    · cases read
    have apart : ∀ w, Token.keywords.contains w = true → x ≠ w := by
      rintro w reserved rfl
      exact free reserved
    rw [primary, atom.eq_5 _ _ _ _ (apart _ rfl) (apart _ rfl) (apart _ rfl), name?, if_neg free] at read
    cases read
    obtain ⟨token, place, more, same, is⟩ := joins
    cases same
    simp at is
  · cases named

theorem inversion_of_primary (joins : Joins rest) : inversion (fuel + 10) ts = some (p, rest) := by
  rw [inversion_eq_primary (keyword?_of_primary read rfl) (sign?_of_primary read)
    (keyword?_of_primary read rfl), read]
  rw [read]
  exact .some joins.endsOperand

end

/-! ### Operands wherever they stand -/

/-- These words are read to their end wherever they stand before `and` or a colon. -/
def Operand (fuel : Nat) (w : List Token) (e : Expr) : Prop :=
  ∀ (extra : Nat) {us rest : List Lexeme}, us.map Lexeme.token = w → Joins rest →
    ∃ p, primary (extra + fuel) (us ++ rest) = some (p, rest) ∧ p.expr = e

theorem Operand.weaken {fuel more : Nat} {w : List Token} {e : Expr} (operand : Operand fuel w e)
    (enough : fuel ≤ more) : Operand more w e := by
  intro extra us rest same joins
  obtain ⟨extra', rfl⟩ := Nat.exists_eq_add_of_le' enough
  rw [← Nat.add_assoc]
  exact operand (extra + extra') same joins

theorem Within.atEnd {old new : List Lexeme} (within : Within old new 0 old us) : us = new := by
  obtain ⟨part, part', whole, rfl, same, -⟩ := within
  obtain rfl : part = [] := by simpa using whole
  obtain rfl : part' = [] := by simpa using same
  rfl

/-- One pair of brackets is an operand, whatever is read between them. -/
theorem operand_of_group {start : Place} (balanced : Balanced inner) (closes : c.token = .mark ")")
    (read : parenthesized fuel start (inner ++ [c]) = some (p, [])) :
    Operand (fuel + 2) (.mark "(" :: (inner.map Lexeme.token ++ [.mark ")"])) p.expr := by
  intro extra us rest same joins
  obtain ⟨⟨token, place⟩, us, rfl, rfl, tokens⟩ := List.map_eq_cons_iff.mp same
  have level : Within [] rest 1 (inner ++ [c]) (us ++ rest) := by
    refine ⟨inner ++ [c], us, by simp, rfl, ?_, ?_⟩
    · rw [tokens, List.map_append, List.map_singleton, closes]
    · rw [depth_append, balanced.whole, depth_cons, weight_closing (isClosing_of_mark closes rfl)]
      rfl
  obtain ⟨⟨p', left⟩, read', same, within⟩ :=
    (readsElsewhere extra fuel).parenthesized start place level _ read
  obtain rfl := within.atEnd
  refine ⟨p', ?_, same.symm⟩
  have atom : atom (extra + fuel + 1) (⟨.mark "(", place⟩ :: us ++ left) =
      parenthesized (extra + fuel) place (us ++ left) := rfl
  rw [← Nat.add_assoc, primary, atom, read']
  have stops := joins.stops
  simp only [Option.bind_eq_bind, Option.bind_some, trailers, stops.mark?_eq_none "." rfl,
    stops.mark?_eq_none "(" rfl, stops.mark?_eq_none "[" rfl]

/-- What is read before a closing bracket without an operator is an operand. -/
theorem operand_of_primary (balanced : Balanced inner) (closes : c.token = .mark ")")
    (read : primary fuel (inner ++ [c]) = some (p, [c])) : Operand fuel (inner.map Lexeme.token) p.expr := by
  intro extra us rest same joins
  have stops : Stops [c] := by
    obtain ⟨token, place⟩ := c
    exact .inr ⟨token, place, [], rfl, .inl closes⟩
  have level : Within [c] rest 0 (inner ++ [c]) (us ++ rest) :=
    ⟨inner, us, rfl, rfl, same, balanced.whole⟩
  obtain ⟨⟨p', left⟩, read', same, within⟩ :=
    (readsElsewhere extra fuel).primary (.inr ⟨stops, joins.stops⟩) level _ read
  obtain rfl := within.atEnd
  exact ⟨p', read', same.symm⟩

/-! ### Phrases that bind tightly -/

/-- With less fuel the same is read without any operator. -/
def Bare (n : Nat) (ts : List Lexeme) (p : Phrase) (rest : List Lexeme) : Prop :=
  ∃ k < n, primary k ts = some (p, rest)

section
variable {n : Nat} (tight : Guard.isTight p.expr = true)

theorem Bare.succ (bare : Bare n ts p rest) : Bare (n + 1) ts p rest := by
  obtain ⟨k, less, read⟩ := bare
  exact ⟨k, less.trans n.lt_succ_self, read⟩

include tight

theorem awaited_tight (read : awaited n ts = some (p, rest)) : Bare n ts p rest := by
  cases n with
  | zero => cases read
  | succ n =>
    rw [awaited] at read
    split at read
    · obtain ⟨e, -, read⟩ := Option.bind_eq_some_iff.mp read
      cases read
      cases tight
    · exact ⟨n, n.lt_succ_self, read⟩

theorem factor_tight (read : factor n ts = some (p, rest)) : Bare n ts p rest := by
  cases n with
  | zero => cases read
  | succ n =>
    rw [factor] at read
    split at read
    · obtain ⟨e, -, read⟩ := Option.bind_eq_some_iff.mp read
      cases read
      cases tight
    · obtain ⟨⟨base, behind⟩, found, read⟩ := Option.bind_eq_some_iff.mp read
      dsimp only at read
      split at read
      · cases read
        exact (awaited_tight tight found).succ
      · obtain ⟨e, -, read⟩ := Option.bind_eq_some_iff.mp read
        cases read
        cases tight

theorem binaryTail_tight {ops : List (String × BinaryOp)} {levels : List (List (String × BinaryOp))}
    {left : Phrase} {start : Place} (read : binaryTail n ops levels left start ts = some (p, rest)) :
    left = p ∧ ts = rest := by
  induction n generalizing left ts with
  | zero => cases read
  | succ n ih =>
    rw [binaryTail] at read
    split at read
    · cases read
      exact ⟨rfl, rfl⟩
    · obtain ⟨right, -, read⟩ := Option.bind_eq_some_iff.mp read
      obtain ⟨rfl, -⟩ := ih read
      cases tight

theorem binary_tight {levels : List (List (String × BinaryOp))} (read : binary n levels ts = some (p, rest)) :
    Bare n ts p rest := by
  induction levels generalizing n with
  | nil =>
    cases n with
    | zero => cases read
    | succ n => exact (factor_tight tight read).succ
  | cons ops levels ih =>
    cases n with
    | zero => cases read
    | succ n =>
      rw [binary] at read
      obtain ⟨⟨left, behind⟩, found, read⟩ := Option.bind_eq_some_iff.mp read
      obtain ⟨rfl, rfl⟩ := binaryTail_tight tight read
      exact (ih found).succ

theorem inversion_tight (read : inversion n ts = some (p, rest)) : Bare n ts p rest := by
  cases n with
  | zero => cases read
  | succ n =>
    rw [inversion] at read
    split at read
    · obtain ⟨e, -, read⟩ := Option.bind_eq_some_iff.mp read
      cases read
      cases tight
    · obtain ⟨⟨left, behind⟩, found, read⟩ := Option.bind_eq_some_iff.mp read
      dsimp only at read
      split at read
      · obtain ⟨e, -, read⟩ := Option.bind_eq_some_iff.mp read
        cases read
        cases tight
      · cases read
        exact (binary_tight tight found).succ

theorem conjunction_tight (read : conjunction n ts = some (p, rest)) : Bare n ts p rest := by
  cases n with
  | zero => cases read
  | succ n =>
    rw [conjunction] at read
    obtain ⟨⟨left, behind⟩, found, read⟩ := Option.bind_eq_some_iff.mp read
    dsimp only at read
    split at read
    · obtain ⟨more, -, read⟩ := Option.bind_eq_some_iff.mp read
      cases read
      cases tight
    · cases read
      exact (inversion_tight tight found).succ

theorem disjunction_tight (read : disjunction n ts = some (p, rest)) : Bare n ts p rest := by
  cases n with
  | zero => cases read
  | succ n =>
    rw [disjunction] at read
    obtain ⟨⟨left, behind⟩, found, read⟩ := Option.bind_eq_some_iff.mp read
    dsimp only at read
    split at read
    · obtain ⟨more, -, read⟩ := Option.bind_eq_some_iff.mp read
      cases read
      cases tight
    · cases read
      exact (conjunction_tight tight found).succ

theorem expression_tight (read : expression n ts = some (p, rest)) : Bare n ts p rest := by
  cases n with
  | zero => cases read
  | succ n =>
    rw [expression] at read
    split at read
    · obtain ⟨marks, -, read⟩ := Option.bind_eq_some_iff.mp read
      obtain ⟨ps, -, read⟩ := Option.bind_eq_some_iff.mp read
      obtain ⟨behind, -, read⟩ := Option.bind_eq_some_iff.mp read
      obtain ⟨body, -, read⟩ := Option.bind_eq_some_iff.mp read
      cases read
      cases tight
    · obtain ⟨⟨body, behind⟩, found, read⟩ := Option.bind_eq_some_iff.mp read
      dsimp only at read
      split at read
      · cases read
        exact (disjunction_tight tight found).succ
      · obtain ⟨test, -, read⟩ := Option.bind_eq_some_iff.mp read
        obtain ⟨behind, -, read⟩ := Option.bind_eq_some_iff.mp read
        obtain ⟨orelse, -, read⟩ := Option.bind_eq_some_iff.mp read
        cases read
        cases tight

/-- A phrase that no operator makes is read without one. -/
theorem named_tight (read : named n ts = some (p, rest)) : Bare n ts p rest := by
  cases n with
  | zero => cases read
  | succ n =>
    rw [named] at read
    split at read
    · obtain ⟨value, -, read⟩ := Option.bind_eq_some_iff.mp read
      cases read
      cases tight
    · obtain ⟨⟨e, behind⟩, found, read⟩ := Option.bind_eq_some_iff.mp read
      dsimp only at read
      split at read
      · cases read
      · cases read
        exact (expression_tight tight found).succ

end

/-! ### Conditions -/

/-- One expression, or several with `and` between them. -/
def conjoined (e : Expr) : List Expr → Expr
  | [] => e
  | more => .logical .and (e :: more)

section
variable {ops : List (List Token × Expr)} (operands : ∀ op ∈ ops, Operand fuel op.1 op.2)
  (ends : ∃ place more, rest = ⟨.mark ":", place⟩ :: more)
include ends

theorem joins_of_map {us : List Lexeme}
    (same : us.map Lexeme.token = ops.flatMap fun op => .word "and" :: op.1) : Joins (us ++ rest) := by
  obtain ⟨place, more, rfl⟩ := ends
  cases ops with
  | nil =>
    obtain rfl : us = [] := by simpa using same
    exact ⟨_, place, more, rfl, .inl rfl⟩
  | cons op ops =>
    obtain ⟨⟨token, start⟩, us, rfl, rfl, -⟩ := List.map_eq_cons_iff.mp same
    exact ⟨_, start, us ++ _, rfl, .inr rfl⟩

include operands

/-- The operands behind `and`, up to the colon. -/
theorem conjunctionTail_operands {us : List Lexeme}
    (same : us.map Lexeme.token = ops.flatMap fun op => .word "and" :: op.1) (extra : Nat) :
    conjunctionTail (extra + fuel + 11 + ops.length) (us ++ rest) = some (ops.map Prod.snd, rest) := by
  induction ops generalizing us with
  | nil =>
    obtain rfl : us = [] := by simpa using same
    obtain ⟨place, more, rfl⟩ := ends
    rfl
  | cons op ops ih =>
    obtain ⟨here, operands⟩ := List.forall_mem_cons.mp operands
    rw [List.flatMap_cons, List.cons_append] at same
    obtain ⟨⟨token, start⟩, us, rfl, rfl, tokens⟩ := List.map_eq_cons_iff.mp same
    obtain ⟨us, later, rfl, own, behind⟩ := List.map_eq_append_iff.mp tokens
    have joins := joins_of_map ends behind
    obtain ⟨p, read, tree⟩ := here (extra + 1 + ops.length) own joins
    have operand := inversion_of_primary read joins
    have more := ih operands behind
    have steps : extra + 1 + ops.length + fuel + 10 = extra + fuel + 11 + ops.length := by omega
    rw [steps] at operand
    rw [List.length_cons, ← Nat.add_assoc, conjunctionTail, List.cons_append, List.append_assoc]
    simp only [keyword?, ↓reduceIte, Option.bind_eq_bind, operand, Option.bind_some, more, tree]
    rfl

theorem conjunction_operands (extra : Nat) {us later : List Lexeme} {p : Phrase}
    (read : inversion (extra + fuel + 11 + ops.length) (us ++ (later ++ rest)) = some (p, later ++ rest))
    (behind : later.map Lexeme.token = ops.flatMap fun op => .word "and" :: op.1) :
    ∃ q, conjunction (extra + fuel + 12 + ops.length) (us ++ (later ++ rest)) = some (q, rest) ∧
      q.expr = conjoined p.expr (ops.map Prod.snd) := by
  have more := conjunctionTail_operands operands ends behind extra
  have steps : extra + fuel + 12 + ops.length = extra + fuel + 11 + ops.length + 1 := by omega
  rw [steps, conjunction, read]
  simp only [Option.bind_eq_bind, Option.bind_some, more]
  cases ops with
  | nil =>
    obtain rfl : later = [] := by simpa using behind
    obtain ⟨place, more, rfl⟩ := ends
    exact ⟨p, rfl, rfl⟩
  | cons op ops =>
    obtain ⟨⟨token, start⟩, later, rfl, rfl, -⟩ := List.map_eq_cons_iff.mp behind
    exact ⟨_, rfl, rfl⟩

/-- Operands with `and` between them are one condition, up to the colon. -/
theorem named_operands {w : List Token} {e : Expr} (first : Operand fuel w e) {us : List Lexeme}
    (same : us.map Lexeme.token = w ++ ops.flatMap fun op => .word "and" :: op.1) (extra : Nat) :
    ∃ p, named (extra + fuel + 15 + ops.length) (us ++ rest) = some (p, rest) ∧
      p.expr = conjoined e (ops.map Prod.snd) := by
  obtain ⟨us, later, rfl, own, behind⟩ := List.map_eq_append_iff.mp same
  have joins := joins_of_map ends behind
  obtain ⟨p, read, rfl⟩ := first (extra + 1 + ops.length) own joins
  have operand := inversion_of_primary read joins
  have lambda := keyword?_of_primary read (w := "lambda") rfl
  have unnamed := nameBefore?_of_primary read joins
  have steps : extra + 1 + ops.length + fuel + 10 = extra + fuel + 11 + ops.length := by omega
  rw [steps] at operand
  obtain ⟨q, condition, tree⟩ := conjunction_operands operands ends extra operand behind
  refine ⟨q, ?_, tree⟩
  have total : extra + fuel + 15 + ops.length = extra + fuel + 12 + ops.length + 1 + 1 + 1 := by omega
  obtain ⟨place, more, rfl⟩ := ends
  rw [total, List.append_assoc, named, unnamed]
  simp only [expression, lambda, disjunction, condition, Option.bind_eq_bind, Option.bind_some]
  rfl

end

end Bindery.Reader

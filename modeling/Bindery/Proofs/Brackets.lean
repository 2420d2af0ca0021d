import Mathlib.Algebra.BigOperators.Group.List.Basic
import Mathlib.Algebra.Order.Ring.Int
import Bindery.Expr.Reader

/- Words whose brackets match: each that is opened is closed, and none is closed that was not opened. The
   kinds of the brackets do not matter here, since scanning has checked them already. -/
namespace Bindery.Reader

variable {ts us part rest inner : List Lexeme} {t o c d : Lexeme}

def isOpening (t : Lexeme) : Bool :=
  t.token = .mark "(" || t.token = .mark "[" || t.token = .mark "\x7b"

def isClosing (t : Lexeme) : Bool :=
  t.token = .mark ")" || t.token = .mark "]" || t.token = .mark "\x7d"

/-- By how much a word changes the depth. -/
def weight (t : Lexeme) : Int := if isOpening t then 1 else if isClosing t then -1 else 0

def depth (ts : List Lexeme) : Int := (ts.map weight).sum

@[simp] theorem depth_nil : depth [] = 0 := rfl

@[simp] theorem depth_cons : depth (t :: ts) = weight t + depth ts := by simp [depth]

@[simp] theorem depth_append : depth (part ++ rest) = depth part + depth rest := by simp [depth]

theorem weight_opening (opening : isOpening t = true) : weight t = 1 := by simp [weight, opening]

theorem isOpening_of_isClosing (closing : isClosing t = true) : isOpening t = false := by
  simp only [isClosing, isOpening, Bool.or_eq_true, decide_eq_true_eq] at closing ⊢
  rcases closing with (is | is) | is <;> simp [is]

theorem weight_closing (closing : isClosing t = true) : weight t = -1 := by
  simp [weight, closing, isOpening_of_isClosing closing]

/-- The depth does not depend on where the words stand. -/
theorem depth_eq_of_tokens (same : us.map Lexeme.token = ts.map Lexeme.token) : depth us = depth ts := by
  have known : ∀ ts : List Lexeme,
      depth ts = ((ts.map Lexeme.token).map fun token => weight ⟨token, .origin⟩).sum := by
    intro ts
    rw [List.map_map]
    rfl
  rw [known, known, same]

/-- Every bracket among the words has its partner there. -/
structure Balanced (ts : List Lexeme) : Prop where
  nonneg : ∀ before, before <+: ts → 0 ≤ depth before
  whole : depth ts = 0

namespace Balanced

theorem nil : Balanced [] := ⟨fun before begins => by simp [List.prefix_nil.mp begins], rfl⟩

theorem append (first : Balanced part) (second : Balanced rest) : Balanced (part ++ rest) := by
  constructor
  · intro before begins
    rcases List.prefix_or_prefix_of_prefix begins (List.prefix_append part rest) with short | long
    · exact first.nonneg before short
    · obtain ⟨more, rfl⟩ := long
      have inside := second.nonneg more ((List.prefix_append_right_inj part).mp begins)
      rw [depth_append, first.whole]
      omega
  · rw [depth_append, first.whole, second.whole]
    rfl

/-- A word that is no bracket. -/
theorem word (plain : isOpening t = false) (plain' : isClosing t = false) : Balanced [t] := by
  have none : weight t = 0 := by simp [weight, plain, plain']
  constructor
  · intro before begins
    rcases List.prefix_cons_iff.mp begins with rfl | ⟨more, rfl, ends⟩
    · simp
    · simp [List.prefix_nil.mp ends, none]
  · simp [none]

theorem group (opens : isOpening o = true) (closes : isClosing c = true) (balanced : Balanced inner) :
    Balanced (o :: (inner ++ [c])) := by
  constructor
  · intro before begins
    rcases List.prefix_cons_iff.mp begins with rfl | ⟨more, rfl, behind⟩
    · simp
    · rw [depth_cons, weight_opening opens]
      rcases List.prefix_concat_iff.mp behind with rfl | within
      · rw [depth_append, balanced.whole, depth_cons, weight_closing closes]
        simp
      · have inside := balanced.nonneg more within
        omega
  · rw [depth_cons, depth_append, balanced.whole, weight_opening opens, depth_cons,
      weight_closing closes]
    rfl

/-- The first bracket that closes more than was opened ends balanced words. -/
theorem unique (first : Balanced part) (second : Balanced inner) (closes : isClosing c = true)
    (same : part ++ c :: rest = inner ++ [d]) : part = inner ∧ c = d ∧ rest = [] := by
  have lengths := congrArg List.length same
  simp only [List.length_append, List.length_cons, List.length_nil] at lengths
  by_cases short : part.length < inner.length
  · exfalso
    have begins : part ++ [c] <+: inner := by
      have pre : part ++ [c] <+: inner ++ [d] := ⟨rest, by simpa using same⟩
      exact List.prefix_of_prefix_length_le pre (List.prefix_append inner [d])
        (by rw [List.length_append]; exact short)
    have inside := second.nonneg _ begins
    rw [depth_append, first.whole, depth_cons, weight_closing closes] at inside
    simp at inside
  · obtain ⟨rfl, ends⟩ := List.append_inj same (by omega)
    obtain ⟨rfl, rfl⟩ := List.cons.inj ends
    exact ⟨rfl, rfl, rfl⟩

/-- Words that begin with balanced ones are not as a whole one pair of brackets. -/
theorem not_group (first : Balanced part) (filled : part ≠ []) (more : rest ≠ [])
    (balanced : Balanced inner) (opens : isOpening o = true) :
    part ++ rest ≠ o :: (inner ++ [c]) := by
  intro same
  obtain ⟨t, begun, rfl⟩ := List.exists_cons_of_ne_nil filled
  obtain ⟨rfl, behind⟩ := List.cons.inj same
  obtain ⟨front, last, rfl⟩ := (List.eq_nil_or_concat' rest).resolve_left more
  rw [List.append_eq, ← List.append_assoc] at behind
  obtain ⟨whole, -⟩ := List.append_inj' behind rfl
  have inside := balanced.nonneg begun ⟨front, whole⟩
  have none := first.whole
  rw [depth_cons, weight_opening opens] at none
  omega

theorem of_tokens (balanced : Balanced ts) (same : us.map Lexeme.token = ts.map Lexeme.token) :
    Balanced us := by
  constructor
  · intro before begins
    have inside := begins.map Lexeme.token
    rw [same, List.prefix_map_iff] at inside
    obtain ⟨before', begins', same'⟩ := inside
    rw [depth_eq_of_tokens same']
    exact balanced.nonneg before' begins'
  · rw [depth_eq_of_tokens same, balanced.whole]

/-- Words that are no brackets may be left out. -/
theorem filter (balanced : Balanced ts) {p : Lexeme → Bool}
    (plain : ∀ t, p t = false → weight t = 0) : Balanced (ts.filter p) := by
  have depths : ∀ ts, depth (ts.filter p) = depth ts := by
    intro ts
    induction ts with
    | nil => rfl
    | cons t ts ih =>
      cases kept : p t
      · rw [List.filter_cons_of_neg (by simp [kept]), depth_cons, plain t kept, ih, zero_add]
      · rw [List.filter_cons_of_pos kept, depth_cons, depth_cons, ih]
  constructor
  · intro before begins
    obtain ⟨front, within, rfl⟩ := List.prefix_filter_iff.mp begins
    rw [depths]
    exact balanced.nonneg front within
  · rw [depths, balanced.whole]

end Balanced

end Bindery.Reader

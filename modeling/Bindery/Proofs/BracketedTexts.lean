import Bindery.Proofs.DirectiveForms
import Bindery.Proofs.BracketBehind
import Bindery.Proofs.Operands

/- What is read of a text between brackets. When they belong to each other it is what the words of the text
   are by themselves. But nobody looks whether they do. -/
namespace Bindery

namespace Reader

variable {ts us part inner : List Lexeme} {o c : Lexeme} {fuel : Nat}

/-! ### One pair of brackets -/

/-- Whatever is read takes all words. -/
def Finished (read : Option (Phrase × List Lexeme)) : Prop := Whenever (fun r => r.2 = []) read

/-- The words from a bracket on are read as what it opens, when nothing follows that. -/
theorem expression_group (opens : o.token = .mark "(") (fuel : Nat) (us : List Lexeme)
    (finished : Finished (parenthesized fuel o.start us)) :
    expression (fuel + 15) (o :: us) = parenthesized fuel o.start us := by
  obtain ⟨token, start⟩ := o
  cases opens
  have unchanged : ∀ {f : Phrase × List Lexeme → Option (Phrase × List Lexeme)},
      (∀ p, f (p, []) = some (p, [])) → (parenthesized fuel start us >>= f) = parenthesized fuel start us := by
    intro f ends
    refine bind_unchanged (P := (· = [])) finished ?_
    rintro p _ rfl
    exact ends p
  have atom : atom (fuel + 1) (⟨.mark "(", start⟩ :: us) = parenthesized fuel start us := rfl
  have primary : primary (fuel + 2) (⟨.mark "(", start⟩ :: us) = parenthesized fuel start us := by
    rw [primary, atom]
    exact unchanged fun _ => rfl
  have inversion : inversion (fuel + 12) (⟨.mark "(", start⟩ :: us) = parenthesized fuel start us := by
    rw [inversion_eq_primary rfl rfl rfl, primary]
    rw [primary]
    intro r found
    rw [finished r found]
    exact .nil
  have conjunction : conjunction (fuel + 13) (⟨.mark "(", start⟩ :: us) = parenthesized fuel start us := by
    rw [conjunction, inversion]
    exact unchanged fun _ => rfl
  have disjunction : disjunction (fuel + 14) (⟨.mark "(", start⟩ :: us) = parenthesized fuel start us := by
    rw [disjunction, conjunction]
    exact unchanged fun _ => rfl
  rw [expression]
  simp only [keyword?, disjunction]
  exact unchanged fun _ => rfl

/-- Of words with matching brackets one pair of brackets takes all. -/
theorem parenthesized_finished (balanced : Balanced inner) (fuel : Nat)
    (start : Place) : Finished (parenthesized fuel start (inner ++ [c])) := by
  rintro ⟨p, rest⟩ found
  obtain ⟨part, d, passed, closes', -⟩ := (readsWords fuel).parenthesized start _ _ found
  obtain ⟨-, -, none⟩ := passed.balanced.unique balanced (isClosing_of_mark closes' rfl) passed.whole.symm
  exact none

theorem mark?_of_named {m : String} {n : Nat} {r : Phrase × List Lexeme} (read : named n ts = some r)
    (no : ["(", "[", "\x7b", "...", "+", "-", "~"].contains m = false) : mark? m ts = none := by
  by_contra present
  obtain ⟨rest, found⟩ := Option.ne_none_iff_exists'.mp present
  obtain ⟨⟨token, start⟩, is, rfl⟩ := mark?_found m ts rest found
  cases is
  simp only [List.contains_cons, List.contains_nil, Bool.or_false, Bool.or_eq_false_iff, beq_eq_false_iff_ne]
    at no
  rw [named_eq_none (fun n => ?_) rfl rfl rfl (by simp [sign?, no]) rfl] at read
  · cases read
  · cases n <;> simp [atom, no]

theorem keyword?_yield_of_named {n : Nat} {r : Phrase × List Lexeme} (read : named n ts = some r) :
    keyword? "yield" ts = none := by
  by_contra present
  obtain ⟨rest, found⟩ := Option.ne_none_iff_exists'.mp present
  obtain ⟨⟨token, start⟩, is, passed⟩ := keyword?_passes "yield" ts rest found
  cases is
  rw [passed.whole, List.singleton_append,
    named_eq_none (fun n => by cases n <;> rfl) rfl rfl rfl rfl rfl] at read
  cases read

/-- A phrase that no brackets of its own make: neither a tuple nor a generator nor a yield. -/
def standsAlone : Expr → Bool
  | .tuple _ | .generatorExp _ _ | .yield _ | .yieldFrom _ | .starred _ => false
  | _ => true

theorem yielded_apart (n : Nat) (ts : List Lexeme) :
    Whenever (fun r => standsAlone r.1 = false) (yielded n ts) := by
  cases n with
  | zero => exact .none
  | succ n =>
    rw [yielded]
    split
    · exact (Whenever.trivial _).map fun _ _ => rfl
    · exact .ite (.some rfl) ((Whenever.trivial _).map fun _ _ => rfl)

/-- A phrase that stands alone is read between brackets as it is read before a closing one. -/
theorem parenthesized_alone_iff {p : Phrase} (start : Place) (closes : c.token = .mark ")")
    (bare : standsAlone p.expr = true) :
    parenthesized (fuel + 2) start (inner ++ [c]) = some (p, []) ↔
      named fuel (inner ++ [c]) = some (p, [c]) := by
  constructor
  · intro found
    rw [parenthesized] at found
    split at found
    · cases found
      contradiction
    split at found
    · next rest yields =>
      obtain ⟨⟨e, rest⟩, read, found⟩ := Option.bind_eq_some_iff.mp found
      obtain ⟨rest, closed, found⟩ := Option.bind_eq_some_iff.mp found
      cases found
      rw [yielded_apart _ _ _ read] at bare
      contradiction
    · obtain ⟨⟨first, rest⟩, read, found⟩ := Option.bind_eq_some_iff.mp found
      dsimp only at found
      split at found
      · obtain ⟨r, -, found⟩ := Option.bind_eq_some_iff.mp found
        obtain ⟨rfl, -⟩ := Prod.mk.inj (Option.some.inj found)
        contradiction
      split at found
      · cases found
      next unstarred =>
      split at found
      · obtain ⟨r, -, found⟩ := Option.bind_eq_some_iff.mp found
        obtain ⟨rest, -, found⟩ := Option.bind_eq_some_iff.mp found
        cases found
        contradiction
      · obtain ⟨left, closed, found⟩ := Option.bind_eq_some_iff.mp found
        cases found
        rw [element] at read
        split at read
        · next stars =>
          simp [atMark, stars] at unstarred
        · obtain ⟨d, closes', rfl⟩ := mark?_found ")" rest _ closed
          obtain ⟨part, passed, -⟩ := (readsWords fuel).named _ _ read
          obtain rfl : c = d := by simpa using (List.append_inj' passed.whole rfl).2
          exact read
  · intro read
    have starred : mark? "*" (inner ++ [c]) = none := mark?_of_named read rfl
    have read' : element (fuel + 1) (inner ++ [c]) = some (p, [c]) := by
      rw [element, starred]
      exact read
    have behind : mark? ")" [c] = some [] := by
      obtain ⟨token, place⟩ := c
      cases closes
      rfl
    have apart : mark? "," [c] = none ∧ atKeyword "for" [c] = false ∧ atKeyword "async" [c] = false := by
      obtain ⟨token, place⟩ := c
      cases closes
      exact ⟨rfl, rfl, rfl⟩
    rw [parenthesized, mark?_of_named read rfl, keyword?_yield_of_named read]
    simp only [read', Option.bind_eq_bind, Option.bind_some, apart, behind, atMark, starred]
    rfl

/-- What is read of a text whose words are one pair of brackets. -/
theorem phrase?_group {cs : List Char} (scanned : Token.scanAll cs = some (o :: (inner ++ [c])))
    (opens : o.token = .mark "(") (balanced : Balanced inner) {n : Nat}
    (steps : stepsPerWord * (cs.length + 4) = n + 15) :
    phrase? cs = (parenthesized n o.start (inner ++ [c])).map Prod.fst := by
  have finished := parenthesized_finished (c := c) balanced n o.start
  unfold phrase?
  rw [scanned, steps]
  simp only [Option.bind_eq_bind, Option.bind_some, expression_group opens n _ finished]
  cases read : parenthesized n o.start (inner ++ [c]) with
  | none => rfl
  | some r =>
    obtain ⟨p, rest⟩ := r
    obtain rfl : rest = [] := finished _ read
    rfl

theorem phrase?_group_iff {cs : List Char} (scanned : Token.scanAll cs = some (o :: (inner ++ [c])))
    (opens : o.token = .mark "(") (closes : c.token = .mark ")") (balanced : Balanced inner) {n : Nat}
    (steps : stepsPerWord * (cs.length + 4) = n + 17) {p : Phrase} (alone : standsAlone p.expr = true) :
    phrase? cs = some p ↔ named n (inner ++ [c]) = some (p, [c]) := by
  rw [phrase?_group scanned opens balanced steps, ← parenthesized_alone_iff o.start closes alone]
  constructor
  · intro found
    obtain ⟨⟨p, rest⟩, read, rfl⟩ := Option.map_eq_some_iff.mp found
    obtain rfl : rest = [] := parenthesized_finished balanced _ _ _ read
    exact read
  · intro read
    rw [read]
    rfl

end Reader

namespace Directive

open Reader

/-- The forms of a directive are no tuples, no generators and no yields. -/
theorem Forms.standsAlone {base : Span} {p : Phrase} {d : Directive} (forms : Forms base p d) :
    standsAlone p.expr = true := by
  cases forms with
  | bare dotted =>
    unfold Expr.dottedName? at dotted
    split at dotted
    · next id names => rw [names]; rfl
    · next value attr names => rw [names]; rfl
    · cases dotted
  | applied applies =>
    rw [applies.call]
    rfl
  | assigned names =>
    rw [names]
    rfl

/-- The steps that are left for what stands between the brackets. -/
def innerSteps (source : String) : Nat := stepsPerWord * (source.toList.length + 6) - 17

/-- When a text has words of its own, also in brackets, it is a directive exactly when these words are an
    expression or a named one, of one of the forms. -/
theorem read_of_words_iff {source : String} {alone words : List Lexeme}
    (apart : Token.scanAll source.toList = some alone)
    (found : Token.scanAll ('(' :: source.toList ++ [')']) = some words) :
    ∃ o inner c, words = o :: (inner ++ [c]) ∧
      inner.map Lexeme.token = (Token.spoken alone).map Lexeme.token ∧ c.token = .mark ")" ∧
      ∀ base d, read source base = .ok (some d) ↔ '\x00' ∉ source.toList ∧
        ∃ p, named (innerSteps source) (inner ++ [c]) = some (p, [c]) ∧ Forms base p d := by
  obtain ⟨o, inner, c, rfl, opens, closes, same, balanced⟩ := Token.scanAll_alone apart found
  refine ⟨o, inner, c, rfl, same, closes, fun base d => ?_⟩
  have steps : stepsPerWord * (('(' :: source.toList ++ [')']).length + 4) = innerSteps source + 17 := by
    simp only [innerSteps, List.length_append, List.length_cons, List.length_nil, stepsPerWord]
    omega
  rw [read_eq_ok_iff]
  refine and_congr_right fun _ => exists_congr fun p => and_congr_left fun forms => ?_
  exact phrase?_group_iff found opens closes balanced steps forms.standsAlone

/-- A text that is a directive has no words of its own, and then it is no expression; or it is read from its
    own words. -/
theorem read_own_words {source : String} {base : Span} {d : Directive}
    (accepted : read source base = .ok (some d)) : Token.scanAll source.toList = none ∨
      ∃ alone inner c p, Token.scanAll source.toList = some alone ∧
        inner.map Lexeme.token = (Token.spoken alone).map Lexeme.token ∧ c.token = .mark ")" ∧
        named (innerSteps source) (inner ++ [c]) = some (p, [c]) ∧ Forms base p d := by
  cases apart : Token.scanAll source.toList with
  | none => exact .inl rfl
  | some alone =>
    obtain ⟨-, p, phrase, -⟩ := read_eq_ok_iff.mp accepted
    obtain ⟨words, found, -⟩ := phrase?_words _ p phrase
    obtain ⟨o, inner, c, -, same, closes, reads⟩ := read_of_words_iff apart found
    obtain ⟨-, p, read, forms⟩ := (reads base d).mp accepted
    exact .inr ⟨alone, inner, c, p, rfl, same, closes, read, forms⟩

/-- The brackets around a text are not checked to belong to each other: the text may close the first of them
    and open the other one itself, and a comment takes the second one. -/
theorem read_beyond_brackets :
    ((∃ found, read "a) (" = .ok found ∧ found.map path = some "a") ∧
      Token.scanAll "a) (".toList = none) ∧
    (read "a # c" = .ok none ∧ ∃ p, phrase? "a # c".toList = some p ∧ Forms {} p (.bare "a" {})) := by
  refine ⟨⟨by decide +kernel, by decide +kernel⟩, rfl, ?_⟩
  exact ⟨_, rfl, .bare rfl⟩

end Directive

end Bindery

import Bindery.Proofs.PhraseWords

/- Every function of the reader takes words whose brackets match, and what it gives belongs to the words
   that it took. The functions call each other, so this is one induction for all of them. -/
namespace Bindery.Reader

variable {α : Type} {ts part rest : List Lexeme}

/-! ### What a function of the reader takes -/

/-- A reading passes words, and what it gives belongs to them. -/
def Takes (good : List Lexeme → α → Prop) (ts : List Lexeme) (read : Option (α × List Lexeme)) : Prop :=
  Whenever (fun r => ∃ part, Passed ts part r.2 ∧ good part r.1) read

def Passes (ts : List Lexeme) (read : Option (α × List Lexeme)) : Prop :=
  Whenever (fun r => ∃ part, Passed ts part r.2) read

/-- A reading passes words and the mark that closes them. -/
def Ends (m : String) (ts : List Lexeme) (read : Option (α × List Lexeme)) : Prop :=
  Whenever (fun r => ∃ part c, Passed ts part (c :: r.2) ∧ c.token = .mark m) read

/-- A reading passes the rest of a pair of brackets, which was opened by a mark at the given place. -/
def Closes (m m' : String) (start : Place) (ts : List Lexeme) (read : Option (Phrase × List Lexeme)) :
    Prop :=
  Whenever (fun r => ∃ part c, Passed ts part (c :: r.2) ∧ c.token = .mark m' ∧
    ∀ o, o.token = .mark m → o.start = start → Placed (o :: (part ++ [c])) r.1) read

theorem Takes.passes {good : List Lexeme → α → Prop} {read : Option (α × List Lexeme)}
    (takes : Takes good ts read) : Passes ts read := by
  intro r found
  obtain ⟨part, passed, -⟩ := takes r found
  exact ⟨part, passed⟩

namespace ArgumentState

/-- Every argument that was read has a place. -/
def Counted (state : ArgumentState) : Prop :=
  state.starts.length = state.positional.length + state.keywords.length

/-- Arguments are added to those that were read before. -/
structure Adds (state : ArgumentState) (entries : List Entry) (next : ArgumentState) : Prop where
  positional : next.positional.reverse =
    state.positional.reverse ++ entries.filterMap (·.given.positional?)
  keywords : next.keywords.reverse = state.keywords.reverse ++ entries.filterMap (·.given.keyword?)
  starts : next.starts.reverse = state.starts.reverse ++ entries.map Entry.start
  keyed : next.sawKeyword = (state.sawKeyword || entries.any (·.given.isKeyword))
  ordered : InOrder state.sawKeyword entries

variable {state next last : ArgumentState} {a : Entry} {entries : List Entry}

theorem Counted.empty : Counted {} := rfl

theorem Adds.counted (adds : state.Adds [a] next) (counted : state.Counted) : next.Counted := by
  have positional := congrArg List.length adds.positional
  have keywords := congrArg List.length adds.keywords
  have starts := congrArg List.length adds.starts
  obtain ⟨given, start⟩ := a
  unfold Counted at *
  cases given <;> simp [Given.positional?, Given.keyword?] at positional keywords starts <;> omega

theorem Adds.nil (state : ArgumentState) : state.Adds [] state :=
  ⟨by simp, by simp, by simp, by simp, trivial⟩

theorem Adds.cons (first : state.Adds [a] next) (rest : next.Adds entries last) :
    state.Adds (a :: entries) last := by
  have keyed : next.sawKeyword = (state.sawKeyword || a.given.isKeyword) := by simpa using first.keyed
  refine ⟨?_, ?_, ?_, ?_, first.ordered.1, ?_⟩
  · rw [rest.positional, first.positional, List.append_assoc, ← List.filterMap_append]
    rfl
  · rw [rest.keywords, first.keywords, List.append_assoc, ← List.filterMap_append]
    rfl
  · rw [rest.starts, first.starts, List.append_assoc]
    rfl
  · rw [rest.keyed, keyed, List.any_cons, Bool.or_assoc]
  · rw [← keyed]
    exact rest.ordered

theorem adds_positional (state : ArgumentState) (e : Expr) (start : Place)
    (ordered : state.sawKeyword = true → (Given.positional e).isBare = false) :
    state.Adds [⟨.positional e, start⟩]
      { state with positional := e :: state.positional, starts := start :: state.starts } :=
  ⟨by simp [Given.positional?], by simp [Given.keyword?], by simp, by simp [Given.isKeyword], ordered,
    trivial⟩

theorem adds_keyword (state : ArgumentState) (k : Keyword) (start : Place) (doubled : Bool) :
    state.Adds [⟨.keyword k, start⟩]
      { state with keywords := k :: state.keywords, starts := start :: state.starts, sawKeyword := true,
                   sawDoubleStar := doubled } :=
  ⟨by simp [Given.positional?], by simp [Given.keyword?], by simp, by simp [Given.isKeyword],
    fun _ => rfl, trivial⟩

end ArgumentState

/-- What the reader takes with this much fuel. -/
structure ReadsWords (fuel : Nat) : Prop where
  named : ∀ ts, Takes Placed ts (named fuel ts)
  expression : ∀ ts, Takes Placed ts (expression fuel ts)
  parameters : ∀ ts, Passes ts (parameters fuel ts)
  parameter : ∀ ts, Passes ts (parameter fuel ts)
  disjunction : ∀ ts, Takes Placed ts (disjunction fuel ts)
  disjunctionTail : ∀ ts, Takes (fun part _ => atKeyword "or" ts = true → part ≠ []) ts
    (disjunctionTail fuel ts)
  conjunction : ∀ ts, Takes Placed ts (conjunction fuel ts)
  conjunctionTail : ∀ ts, Takes (fun part _ => atKeyword "and" ts = true → part ≠ []) ts
    (conjunctionTail fuel ts)
  inversion : ∀ ts, Takes Placed ts (inversion fuel ts)
  comparisonTail : ∀ ts, Takes (fun part _ => (comparison? ts).isSome = true → part ≠ []) ts
    (comparisonTail fuel ts)
  binary : ∀ levels, (∀ ops ∈ levels, Plain ops) → ∀ ts, Takes Placed ts (binary fuel levels ts)
  binaryTail : ∀ ops levels, Plain ops → (∀ ops ∈ levels, Plain ops) → ∀ before left ts,
    Placed before left → Takes (fun part p => Placed (before ++ part) p) ts
      (binaryTail fuel ops levels left (place before) ts)
  factor : ∀ ts, Takes Placed ts (factor fuel ts)
  awaited : ∀ ts, Takes Placed ts (awaited fuel ts)
  primary : ∀ ts, Takes Placed ts (primary fuel ts)
  trailers : ∀ before base ts, Placed before base →
    Takes (fun part p => Placed (before ++ part) p) ts (trailers fuel base (place before) ts)
  arguments : ∀ opening state ts, state.Counted → Takes
    (fun part next => ∃ entries, Listed opening part entries ∧ state.Adds entries next) ts
    (arguments fuel opening state ts)
  argument : ∀ opening state ts, state.Counted → Takes
    (fun part next => ∃ a, Written opening part a ∧ state.Adds [a] next) ts
    (argument fuel opening state ts)
  slices : ∀ ts, Passes ts (slices fuel ts)
  sliceTail : ∀ ts, Passes ts (sliceTail fuel ts)
  sliceItem : ∀ ts, Whenever (fun r => ∃ part, Passed ts part r.2.2) (sliceItem fuel ts)
  sliceBounds : ∀ lower ts, Passes ts (sliceBounds fuel lower ts)
  sliceBound : ∀ ts, Passes ts (sliceBound fuel ts)
  atom : ∀ ts, Takes Placed ts (atom fuel ts)
  starExpressions : ∀ ts, Passes ts (starExpressions fuel ts)
  starExpressionTail : ∀ ts, Passes ts (starExpressionTail fuel ts)
  starExpression : ∀ ts, Passes ts (starExpression fuel ts)
  element : ∀ ts, Takes Placed ts (element fuel ts)
  elementTail : ∀ closing ts, Ends closing ts (elementTail fuel closing ts)
  parenthesized : ∀ start ts, Closes "(" ")" start ts (parenthesized fuel start ts)
  yielded : ∀ ts, Takes (fun _ e => isCall e = false) ts (yielded fuel ts)
  bracketed : ∀ start ts, Closes "[" "]" start ts (bracketed fuel start ts)
  braced : ∀ start ts, Closes "\x7b" "\x7d" start ts (braced fuel start ts)
  dictItems : ∀ ts, Ends "\x7d" ts (dictItems fuel ts)
  dictTail : ∀ ts, Ends "\x7d" ts (dictTail fuel ts)
  dictItem : ∀ ts, Passes ts (dictItem fuel ts)
  generators : ∀ ts, Passes ts (generators fuel ts)
  conditions : ∀ ts, Passes ts (conditions fuel ts)
  targets : ∀ ts, Passes ts (targets fuel ts)
  targetTail : ∀ ts, Passes ts (targetTail fuel ts)
  target : ∀ ts, Passes ts (target fuel ts)

/-- A call behind the words of what is called. -/
theorem Placed.call {before inner : List Lexeme} {base : Phrase} {o c : Lexeme} {entries : List Entry}
    {state : ArgumentState} (placed : Placed before base) (opens : o.token = .mark "(")
    (closes : c.token = .mark ")") (balanced : Balanced inner) (listed : Listed o.start inner entries)
    (adds : ({} : ArgumentState).Adds entries state) :
    Placed (before ++ o :: (inner ++ [c]))
      { expr := .call base.expr state.positional.reverse state.keywords.reverse, start := place before,
        argumentStarts := state.starts.reverse } := by
  have opens' := isOpening_of_mark opens rfl
  refine .own (by simp) (placed.balanced.append (.group opens' (isClosing_of_mark closes rfl) balanced))
    (place_append placed.filled).symm ?_ ?_
  · intro o' inner' c' whole opens'' inside
    exact absurd whole (placed.balanced.not_group placed.filled (by simp) inside
      (isOpening_of_mark opens'' rfl))
  · intro _
    refine ⟨base.expr, entries, ⟨?_, adds.starts, adds.ordered⟩, ⟨before, inner, o, c, rfl, placed.filled,
      placed.balanced, opens, closes, balanced, listed⟩⟩
    exact congrArg₂ (Expr.call base.expr) adds.positional adds.keywords

section
variable {fuel : Nat} (ih : ReadsWords fuel)
include ih

theorem named_takes (ts : List Lexeme) : Takes Placed ts (named (fuel + 1) ts) := by
  rw [named]
  split
  · next target rest found =>
    obtain ⟨t, u, ⟨x, isWord⟩, -, -, passed⟩ := nameBefore?_passes ":=" rfl ts _ found
    refine (ih.expression rest).bind ?_
    rintro ⟨value, rest⟩ ⟨part, passed', placed⟩
    have passed := passed.trans passed'
    exact .some ⟨_, passed, passed.fresh (isOpening_of_word isWord) rfl⟩
  · refine (ih.expression ts).bind ?_
    rintro ⟨e, rest⟩ ⟨part, passed, placed⟩
    exact .ite .none (.some ⟨part, passed, placed⟩)

theorem expression_takes (ts : List Lexeme) : Takes Placed ts (expression (fuel + 1) ts) := by
  rw [expression]
  split
  · next rest found =>
    obtain ⟨t, isWord, passed⟩ := keyword?_passes "lambda" ts _ found
    refine (ih.parameters rest).bind ?_
    rintro ⟨marks, rest⟩ ⟨part, passed'⟩
    refine (Whenever.trivial _).bind fun ps _ => ?_
    refine (mark?_passes ":" rfl rest).bind ?_
    rintro rest ⟨u, -, passed''⟩
    refine (ih.expression rest).bind ?_
    rintro ⟨body, rest⟩ ⟨part', last, -⟩
    have passed := passed.trans (passed'.trans (passed''.trans last))
    exact .some ⟨_, passed, passed.fresh (isOpening_of_word isWord) rfl⟩
  · refine (ih.disjunction ts).bind ?_
    rintro ⟨body, rest⟩ ⟨part, passed, placed⟩
    dsimp only
    split
    · exact .some ⟨part, passed, placed⟩
    · next rest found =>
      obtain ⟨t, -, behind⟩ := keyword?_passes "if" _ _ found
      refine (ih.disjunction rest).bind ?_
      rintro ⟨test, rest⟩ ⟨part', passed', -⟩
      refine (keyword?_passes "else" rest).bind ?_
      rintro rest ⟨u, -, passed''⟩
      refine (ih.expression rest).bind ?_
      rintro ⟨orelse, rest⟩ ⟨part'', last, -⟩
      have behind := behind.trans (passed'.trans (passed''.trans last))
      exact .some ⟨_, passed.trans behind, passed.extended placed behind (by simp) rfl⟩

theorem parameters_passes (ts : List Lexeme) : Passes ts (parameters (fuel + 1) ts) := by
  rw [parameters]
  refine .ite (.some ⟨[], .nil ts⟩) ?_
  refine (ih.parameter ts).bind ?_
  rintro ⟨mark, rest⟩ ⟨part, passed⟩
  refine .ite (.some ⟨part, passed⟩) ?_
  refine (mark?_passes "," rfl rest).bind ?_
  rintro rest ⟨t, -, passed'⟩
  have further : Passes ts (parameters fuel rest >>= fun r => pure (mark :: r.1, r.2)) := by
    refine (ih.parameters rest).bind ?_
    rintro ⟨marks, rest⟩ ⟨part', passed''⟩
    exact .some ⟨_, passed.trans (passed'.trans passed'')⟩
  dsimp only
  split
  · exact .guarded further
  · exact further

theorem parameter_passes (ts : List Lexeme) : Passes ts (parameter (fuel + 1) ts) := by
  rw [parameter]
  split
  · next rest found =>
    obtain ⟨t, -, passed⟩ := mark?_passes "/" rfl ts _ found
    exact .some ⟨_, passed⟩
  split
  · next rest found =>
    obtain ⟨t, -, passed⟩ := mark?_passes "*" rfl ts _ found
    split
    · next name rest found =>
      obtain ⟨u, -, -, passed'⟩ := name?_passes _ _ found
      exact .some ⟨_, passed.trans passed'⟩
    · exact .some ⟨_, passed⟩
  split
  · next rest found =>
    obtain ⟨t, -, passed⟩ := mark?_passes "**" rfl ts _ found
    refine (name?_passes rest).map ?_
    rintro ⟨name, rest⟩ ⟨u, -, -, passed'⟩
    exact ⟨_, passed.trans passed'⟩
  · refine (name?_passes ts).bind ?_
    rintro ⟨name, rest⟩ ⟨t, -, -, passed⟩
    dsimp only
    split
    · exact .some ⟨_, passed⟩
    · next rest found =>
      obtain ⟨u, -, passed'⟩ := mark?_passes "=" rfl _ _ found
      refine (ih.expression rest).bind ?_
      rintro ⟨value, rest⟩ ⟨part, passed'', -⟩
      exact .some ⟨_, passed.trans (passed'.trans passed'')⟩

theorem disjunction_takes (ts : List Lexeme) : Takes Placed ts (disjunction (fuel + 1) ts) := by
  rw [disjunction]
  refine (ih.conjunction ts).bind ?_
  rintro ⟨left, rest⟩ ⟨part, passed, placed⟩
  dsimp only
  split
  · next further =>
    refine (ih.disjunctionTail rest).bind ?_
    rintro ⟨more, rest⟩ ⟨part', passed', filled⟩
    exact .some ⟨_, passed.trans passed', passed.extended placed passed' (filled further) rfl⟩
  · exact .some ⟨part, passed, placed⟩

theorem disjunctionTail_takes (ts : List Lexeme) :
    Takes (fun part _ => atKeyword "or" ts = true → part ≠ []) ts (disjunctionTail (fuel + 1) ts) := by
  rw [disjunctionTail]
  split
  · next absent => exact .some ⟨[], .nil ts, fun here => by simp [atKeyword, absent] at here⟩
  · next rest found =>
    obtain ⟨t, -, passed⟩ := keyword?_passes "or" ts _ found
    refine (ih.conjunction rest).bind ?_
    rintro ⟨e, rest⟩ ⟨part, passed', -⟩
    refine (ih.disjunctionTail rest).bind ?_
    rintro ⟨more, rest⟩ ⟨part', passed'', -⟩
    exact .some ⟨_, passed.trans (passed'.trans passed''), fun _ => by simp⟩

theorem conjunction_takes (ts : List Lexeme) : Takes Placed ts (conjunction (fuel + 1) ts) := by
  rw [conjunction]
  refine (ih.inversion ts).bind ?_
  rintro ⟨left, rest⟩ ⟨part, passed, placed⟩
  dsimp only
  split
  · next further =>
    refine (ih.conjunctionTail rest).bind ?_
    rintro ⟨more, rest⟩ ⟨part', passed', filled⟩
    exact .some ⟨_, passed.trans passed', passed.extended placed passed' (filled further) rfl⟩
  · exact .some ⟨part, passed, placed⟩

theorem conjunctionTail_takes (ts : List Lexeme) :
    Takes (fun part _ => atKeyword "and" ts = true → part ≠ []) ts (conjunctionTail (fuel + 1) ts) := by
  rw [conjunctionTail]
  split
  · next absent => exact .some ⟨[], .nil ts, fun here => by simp [atKeyword, absent] at here⟩
  · next rest found =>
    obtain ⟨t, -, passed⟩ := keyword?_passes "and" ts _ found
    refine (ih.inversion rest).bind ?_
    rintro ⟨e, rest⟩ ⟨part, passed', -⟩
    refine (ih.conjunctionTail rest).bind ?_
    rintro ⟨more, rest⟩ ⟨part', passed'', -⟩
    exact .some ⟨_, passed.trans (passed'.trans passed''), fun _ => by simp⟩

theorem inversion_takes (ts : List Lexeme) : Takes Placed ts (inversion (fuel + 1) ts) := by
  rw [inversion]
  split
  · next rest found =>
    obtain ⟨t, isWord, passed⟩ := keyword?_passes "not" ts _ found
    refine (ih.inversion rest).bind ?_
    rintro ⟨e, rest⟩ ⟨part, passed', -⟩
    have passed := passed.trans passed'
    exact .some ⟨_, passed, passed.fresh (isOpening_of_word isWord) rfl⟩
  · refine (ih.binary _ binaryLevels_plain ts).bind ?_
    rintro ⟨left, rest⟩ ⟨part, passed, placed⟩
    dsimp only
    split
    · next further =>
      refine (ih.comparisonTail rest).bind ?_
      rintro ⟨more, rest⟩ ⟨part', passed', filled⟩
      exact .some ⟨_, passed.trans passed', passed.extended placed passed' (filled further) rfl⟩
    · exact .some ⟨part, passed, placed⟩

theorem comparisonTail_takes (ts : List Lexeme) :
    Takes (fun part _ => (comparison? ts).isSome = true → part ≠ []) ts
      (comparisonTail (fuel + 1) ts) := by
  rw [comparisonTail]
  split
  · next absent => exact .some ⟨[], .nil ts, fun here => by simp [absent] at here⟩
  · next op rest found =>
    obtain ⟨t, more, passed⟩ := comparison?_passes ts _ found
    refine (ih.binary _ binaryLevels_plain rest).bind ?_
    rintro ⟨e, rest⟩ ⟨part, passed', -⟩
    refine (ih.comparisonTail rest).bind ?_
    rintro ⟨tail, rest⟩ ⟨part', passed'', -⟩
    exact .some ⟨_, passed.trans (passed'.trans passed''), fun _ => by simp⟩

theorem binary_takes (levels : List (List (String × BinaryOp))) (plain : ∀ ops ∈ levels, Plain ops)
    (ts : List Lexeme) : Takes Placed ts (binary (fuel + 1) levels ts) := by
  cases levels with
  | nil =>
    rw [binary]
    exact ih.factor ts
  | cons ops levels =>
    obtain ⟨here, plain⟩ := List.forall_mem_cons.mp plain
    rw [binary]
    refine (ih.binary levels plain ts).bind ?_
    rintro ⟨left, rest⟩ ⟨part, passed, placed⟩
    rw [passed.place_eq placed.filled]
    intro r found
    obtain ⟨part', passed', placed'⟩ := ih.binaryTail ops levels here plain part left rest placed r found
    exact ⟨_, passed.trans passed', placed'⟩

theorem binaryTail_takes (ops : List (String × BinaryOp)) (levels : List (List (String × BinaryOp)))
    (here : Plain ops) (plain : ∀ ops ∈ levels, Plain ops) (before : List Lexeme) (left : Phrase)
    (ts : List Lexeme) (placed : Placed before left) :
    Takes (fun part p => Placed (before ++ part) p) ts
      (binaryTail (fuel + 1) ops levels left (place before) ts) := by
  rw [binaryTail]
  split
  · exact .some ⟨[], .nil ts, by simpa using placed⟩
  · next op rest found =>
    obtain ⟨t, passed⟩ := operator?_passes here ts _ found
    refine (ih.binary levels plain rest).bind ?_
    rintro ⟨right, rest⟩ ⟨part, passed', -⟩
    have passed := passed.trans passed'
    have grown : Placed _ { expr := .binary left.expr op right.expr, start := place before } :=
      placed.extended passed.balanced (by simp) rfl
    have further := ih.binaryTail ops levels here plain _ _ rest grown
    rw [place_append placed.filled] at further
    intro r found
    obtain ⟨part', passed'', placed'⟩ := further r found
    exact ⟨_, passed.trans passed'', by simpa using placed'⟩

theorem factor_takes (ts : List Lexeme) : Takes Placed ts (factor (fuel + 1) ts) := by
  rw [factor]
  split
  · next op rest found =>
    obtain ⟨t, begins, passed⟩ := sign?_passes ts _ found
    refine (ih.factor rest).bind ?_
    rintro ⟨e, rest⟩ ⟨part, passed', -⟩
    have passed := passed.trans passed'
    exact .some ⟨_, passed, passed.fresh begins rfl⟩
  · refine (ih.awaited ts).bind ?_
    rintro ⟨base, rest⟩ ⟨part, passed, placed⟩
    dsimp only
    split
    · exact .some ⟨part, passed, placed⟩
    · next rest found =>
      obtain ⟨t, -, behind⟩ := mark?_passes "**" rfl _ _ found
      refine (ih.factor rest).bind ?_
      rintro ⟨exponent, rest⟩ ⟨part', passed', -⟩
      have behind := behind.trans passed'
      exact .some ⟨_, passed.trans behind, passed.extended placed behind (by simp) rfl⟩

theorem awaited_takes (ts : List Lexeme) : Takes Placed ts (awaited (fuel + 1) ts) := by
  rw [awaited]
  split
  · next rest found =>
    obtain ⟨t, isWord, passed⟩ := keyword?_passes "await" ts _ found
    refine (ih.primary rest).bind ?_
    rintro ⟨e, rest⟩ ⟨part, passed', -⟩
    have passed := passed.trans passed'
    exact .some ⟨_, passed, passed.fresh (isOpening_of_word isWord) rfl⟩
  · exact ih.primary ts

theorem primary_takes (ts : List Lexeme) : Takes Placed ts (primary (fuel + 1) ts) := by
  rw [primary]
  refine (ih.atom ts).bind ?_
  rintro ⟨base, rest⟩ ⟨part, passed, placed⟩
  rw [passed.place_eq placed.filled]
  intro r found
  obtain ⟨part', passed', placed'⟩ := ih.trailers part base rest placed r found
  exact ⟨_, passed.trans passed', placed'⟩

/-- What is behind another trailer is behind the words with it. -/
theorem trailers_behind {before : List Lexeme} {p : Phrase} (filled : before ≠ [])
    (passed : Passed ts part rest) (grown : Placed (before ++ part) p) :
    Takes (fun part p => Placed (before ++ part) p) ts (trailers fuel p (place before) rest) := by
  have further := ih.trailers _ p rest grown
  rw [place_append filled] at further
  intro r found
  obtain ⟨part', passed', placed'⟩ := further r found
  exact ⟨_, passed.trans passed', by simpa using placed'⟩

theorem trailers_takes (before : List Lexeme) (base : Phrase) (ts : List Lexeme)
    (placed : Placed before base) : Takes (fun part p => Placed (before ++ part) p) ts
      (trailers (fuel + 1) base (place before) ts) := by
  rw [trailers]
  split
  · next rest found =>
    obtain ⟨t, -, passed⟩ := mark?_passes "." rfl ts _ found
    refine (name?_passes rest).bind ?_
    rintro ⟨attr, rest⟩ ⟨u, -, -, passed'⟩
    have passed := passed.trans passed'
    exact trailers_behind ih placed.filled passed (placed.extended passed.balanced (by simp) rfl)
  split
  · next rest found =>
    obtain ⟨o, opens, rfl⟩ := mark?_found "(" ts _ found
    refine (ih.arguments _ {} rest .empty).bind ?_
    rintro ⟨state, rest⟩ ⟨inner, passed, entries, listed, adds⟩
    refine (mark?_found ")" rest).bind ?_
    rintro rest ⟨c, closes, rfl⟩
    exact trailers_behind ih placed.filled
      (passed.group (isOpening_of_mark opens rfl) (isClosing_of_mark closes rfl))
      (placed.call opens closes passed.balanced listed adds)
  split
  · next rest found =>
    obtain ⟨o, opens, rfl⟩ := mark?_found "[" ts _ found
    refine (ih.slices rest).bind ?_
    rintro ⟨index, rest⟩ ⟨inner, passed⟩
    refine (mark?_found "]" rest).bind ?_
    rintro rest ⟨c, closes, rfl⟩
    have passed := passed.group (isOpening_of_mark opens rfl) (isClosing_of_mark closes rfl)
    exact trailers_behind ih placed.filled passed (placed.extended passed.balanced (by simp) rfl)
  · exact .some ⟨[], .nil ts, by simpa using placed⟩

theorem arguments_takes (opening : Place) (state : ArgumentState) (ts : List Lexeme)
    (counted : state.Counted) : Takes
      (fun part next => ∃ entries, Listed opening part entries ∧ state.Adds entries next) ts
      (arguments (fuel + 1) opening state ts) := by
  rw [arguments]
  refine .ite (.some ⟨[], .nil ts, [], .nil, .nil state⟩) ?_
  refine (ih.argument opening state ts counted).bind ?_
  rintro ⟨next, rest⟩ ⟨part, passed, a, written, adds⟩
  refine .ite (.some ⟨part, passed, [a], .last written, adds⟩) ?_
  refine (mark?_passes "," rfl rest).bind ?_
  rintro rest ⟨t, comma, passed'⟩
  intro r found
  obtain ⟨part', passed'', entries, listed, adds'⟩ :=
    ih.arguments opening next rest (adds.counted counted) r found
  exact ⟨_, passed.trans (passed'.trans passed''), _, .more written comma listed, adds.cons adds'⟩

theorem argument_takes (opening : Place) (state : ArgumentState) (ts : List Lexeme)
    (counted : state.Counted) : Takes
      (fun part next => ∃ a, Written opening part a ∧ state.Adds [a] next) ts
      (argument (fuel + 1) opening state ts) := by
  have value : ∀ ts, Whenever (fun r => ∃ part, Passed ts part r.2 ∧ TakesAll expression part r.1)
      (expression fuel ts) := by
    intro ts r read
    obtain ⟨part, passed, -⟩ := ih.expression ts r read
    exact ⟨part, passed, fuel, r.2, by rw [← passed.whole, read]⟩
  rw [argument]
  dsimp only
  split
  · next rest found =>
    obtain ⟨t, star, passed⟩ := mark?_passes "*" rfl ts _ found
    refine .guarded ((value rest).bind ?_)
    rintro ⟨e, rest⟩ ⟨part, passed', read⟩
    rw [passed.place_eq (by simp)]
    exact .some ⟨_, passed.trans passed', _, .starred star passed'.balanced read,
      state.adds_positional _ _ fun _ => rfl⟩
  split
  · next rest found =>
    obtain ⟨t, stars, passed⟩ := mark?_passes "**" rfl ts _ found
    refine (value rest).bind ?_
    rintro ⟨e, rest⟩ ⟨part, passed', read⟩
    rw [passed.place_eq (by simp)]
    exact .some ⟨_, passed.trans passed', _, .spread stars passed'.balanced read,
      state.adds_keyword _ _ true⟩
  split
  · next name rest found =>
    obtain ⟨t, u, -, isName, equals, passed⟩ := nameBefore?_passes "=" rfl ts _ found
    refine (value rest).bind ?_
    rintro ⟨e, rest⟩ ⟨part, passed', read⟩
    rw [passed.place_eq (by simp)]
    exact .some ⟨_, passed.trans passed', _, .keyword isName equals passed'.balanced read,
      state.adds_keyword _ _ state.sawDoubleStar⟩
  · split
    · exact .refused
    next unkeyed =>
    refine (ih.named ts).known.bind ?_
    rintro ⟨e, rest⟩ ⟨read, part, passed, -⟩
    have takes : TakesAll named part e := ⟨fuel, rest, by rw [← passed.whole, read]⟩
    dsimp only
    split
    · split
      · exact .refused
      next first =>
      refine (ih.generators rest).known.bind ?_
      rintro ⟨gens, rest'⟩ ⟨readMore, part', passed'⟩
      have takes' : TakesAll generators part' gens := ⟨fuel, rest', by rw [← passed'.whole, readMore]⟩
      refine .guarded (.some ⟨_, passed.trans passed', _,
        .generator passed.balanced passed'.balanced takes takes', ?_⟩)
      have none : state.starts = [] := by simpa using first
      have bare : state.positional = [] := by
        unfold ArgumentState.Counted at counted
        rw [none, List.length_nil] at counted
        exact List.eq_nil_of_length_eq_zero (by omega)
      have adds := state.adds_positional (.generatorExp e.expr gens) opening fun keyed =>
        absurd keyed unkeyed
      rw [none, bare] at adds
      exact adds
    · refine .guarded (.some ⟨part, passed, _, .plain passed.balanced takes,
        state.adds_positional _ _ fun keyed => absurd keyed unkeyed⟩)

theorem slices_passes (ts : List Lexeme) : Passes ts (slices (fuel + 1) ts) := by
  rw [slices]
  refine (ih.sliceItem ts).bind ?_
  rintro ⟨first, starred, rest⟩ ⟨part, passed⟩
  refine .ite ?_ (.some ⟨part, passed⟩)
  refine (ih.sliceTail rest).bind ?_
  rintro ⟨more, rest⟩ ⟨part', passed'⟩
  exact .some ⟨_, passed.trans passed'⟩

theorem sliceTail_passes (ts : List Lexeme) : Passes ts (sliceTail (fuel + 1) ts) := by
  rw [sliceTail]
  split
  · exact .some ⟨[], .nil ts⟩
  · next rest found =>
    obtain ⟨t, -, passed⟩ := mark?_passes "," rfl ts _ found
    refine .ite (.some ⟨_, passed⟩) ?_
    refine (ih.sliceItem rest).bind ?_
    rintro ⟨e, _, rest⟩ ⟨part, passed'⟩
    refine (ih.sliceTail rest).bind ?_
    rintro ⟨more, rest⟩ ⟨part', passed''⟩
    exact .some ⟨_, passed.trans (passed'.trans passed'')⟩

theorem sliceItem_passes (ts : List Lexeme) :
    Whenever (fun r => ∃ part, Passed ts part r.2.2) (sliceItem (fuel + 1) ts) := by
  rw [sliceItem]
  split
  · next rest found =>
    obtain ⟨t, -, passed⟩ := mark?_passes "*" rfl ts _ found
    refine (ih.expression rest).map ?_
    rintro ⟨e, rest⟩ ⟨part, passed', -⟩
    exact ⟨_, passed.trans passed'⟩
  · refine .ite ?_ ?_
    · exact (ih.sliceBounds none ts).map fun _ passed => passed
    · refine (ih.named ts).bind ?_
      rintro ⟨lower, rest⟩ ⟨part, passed, -⟩
      refine .ite (.guarded ?_) (.some ⟨part, passed⟩)
      refine (ih.sliceBounds (some lower.expr) rest).bind ?_
      rintro ⟨e, rest⟩ ⟨part', passed'⟩
      exact .some ⟨_, passed.trans passed'⟩

theorem sliceBounds_passes (lower : Option Expr) (ts : List Lexeme) :
    Passes ts (sliceBounds (fuel + 1) lower ts) := by
  rw [sliceBounds]
  refine (mark?_passes ":" rfl ts).bind ?_
  rintro rest ⟨t, -, passed⟩
  refine (ih.sliceBound rest).bind ?_
  rintro ⟨upper, rest⟩ ⟨part, passed'⟩
  dsimp only
  split
  · exact .some ⟨_, passed.trans passed'⟩
  · next rest found =>
    obtain ⟨u, -, passed''⟩ := mark?_passes ":" rfl _ _ found
    refine (ih.sliceBound rest).bind ?_
    rintro ⟨step, rest⟩ ⟨part', last⟩
    exact .some ⟨_, passed.trans (passed'.trans (passed''.trans last))⟩

theorem sliceBound_passes (ts : List Lexeme) : Passes ts (sliceBound (fuel + 1) ts) := by
  rw [sliceBound]
  exact .ite (.some ⟨[], .nil ts⟩) ((ih.expression ts).passes.map fun _ passed => passed)

omit ih in
/-- A text is never a call. -/
theorem textLiteral_other (fuel : Nat) (written : List TextLiteral.Written) :
    Whenever (fun e => isCall e = false) (textLiteral fuel written) := by
  cases fuel with
  | zero => exact .none
  | succ fuel =>
    rw [textLiteral]
    dsimp only
    refine .ite (.ite ?_ .none) ?_
    · exact (Whenever.trivial _).map fun _ _ => rfl
    · exact (Whenever.trivial _).bind fun pieces _ => .ite (.some rfl) (.some rfl)

theorem atom_takes (ts : List Lexeme) : Takes Placed ts (atom (fuel + 1) ts) := by
  unfold atom
  dsimp only
  split
  · exact .some ⟨_, .word rfl rfl, .fresh (.word rfl rfl) rfl rfl⟩
  · exact .some ⟨_, .word rfl rfl, .fresh (.word rfl rfl) rfl rfl⟩
  · exact .some ⟨_, .word rfl rfl, .fresh (.word rfl rfl) rfl rfl⟩
  · refine (name?_passes _).map ?_
    rintro ⟨id, rest⟩ ⟨t, ⟨x, isWord⟩, -, passed⟩
    exact ⟨_, passed, passed.fresh (isOpening_of_word isWord) rfl⟩
  · exact .some ⟨_, .word rfl rfl, .fresh (.word rfl rfl) rfl rfl⟩
  · rename_i w start rest
    obtain ⟨part, passed, filled⟩ := literals_passes (⟨.text w, start⟩ :: rest)
    obtain ⟨t, more, rfl, begins⟩ := filled (by simp [literals])
    refine (textLiteral_other fuel _).bind fun e other => ?_
    exact .some ⟨_, passed, passed.fresh begins other⟩
  · exact .some ⟨_, .word rfl rfl, .fresh (.word rfl rfl) rfl rfl⟩
  · intro r found
    obtain ⟨part, c, passed, closes, placed⟩ := ih.parenthesized _ _ r found
    exact ⟨_, passed.group rfl (isClosing_of_mark closes rfl), placed _ rfl rfl⟩
  · intro r found
    obtain ⟨part, c, passed, closes, placed⟩ := ih.bracketed _ _ r found
    exact ⟨_, passed.group rfl (isClosing_of_mark closes rfl), placed _ rfl rfl⟩
  · intro r found
    obtain ⟨part, c, passed, closes, placed⟩ := ih.braced _ _ r found
    exact ⟨_, passed.group rfl (isClosing_of_mark closes rfl), placed _ rfl rfl⟩
  · exact .none

theorem starExpressions_passes (ts : List Lexeme) : Passes ts (starExpressions (fuel + 1) ts) := by
  rw [starExpressions]
  refine (ih.starExpression ts).bind ?_
  rintro ⟨first, rest⟩ ⟨part, passed⟩
  refine .ite ?_ (.some ⟨part, passed⟩)
  refine (ih.starExpressionTail rest).bind ?_
  rintro ⟨more, rest⟩ ⟨part', passed'⟩
  exact .some ⟨_, passed.trans passed'⟩

theorem starExpressionTail_passes (ts : List Lexeme) : Passes ts (starExpressionTail (fuel + 1) ts) := by
  rw [starExpressionTail]
  split
  · exact .some ⟨[], .nil ts⟩
  · next rest found =>
    obtain ⟨t, -, passed⟩ := mark?_passes "," rfl ts _ found
    split
    · exact .some ⟨_, passed⟩
    · next e rest read =>
      obtain ⟨part, passed'⟩ := ih.starExpression _ _ read
      refine (ih.starExpressionTail rest).bind ?_
      rintro ⟨more, rest⟩ ⟨part', passed''⟩
      exact .some ⟨_, passed.trans (passed'.trans passed'')⟩

theorem starExpression_passes (ts : List Lexeme) : Passes ts (starExpression (fuel + 1) ts) := by
  rw [starExpression]
  split
  · next rest found =>
    obtain ⟨t, -, passed⟩ := mark?_passes "*" rfl ts _ found
    refine (ih.binary _ binaryLevels_plain rest).bind ?_
    rintro ⟨e, rest⟩ ⟨part, passed', -⟩
    exact .some ⟨_, passed.trans passed'⟩
  · exact (ih.expression ts).passes

theorem element_takes (ts : List Lexeme) : Takes Placed ts (element (fuel + 1) ts) := by
  rw [element]
  split
  · next rest found =>
    obtain ⟨t, star, passed⟩ := mark?_passes "*" rfl ts _ found
    refine (ih.binary _ binaryLevels_plain rest).bind ?_
    rintro ⟨e, rest⟩ ⟨part, passed', -⟩
    have passed := passed.trans passed'
    exact .some ⟨_, passed, passed.fresh (isOpening_of_plain star rfl) rfl⟩
  · exact ih.named ts

theorem elementTail_ends (closing : String) (ts : List Lexeme) :
    Ends closing ts (elementTail (fuel + 1) closing ts) := by
  rw [elementTail]
  split
  · next rest found =>
    obtain ⟨c, closes, rfl⟩ := mark?_found closing ts _ found
    exact .some ⟨[], c, .nil _, closes⟩
  · refine (mark?_passes "," rfl ts).bind ?_
    rintro rest ⟨t, -, passed⟩
    dsimp only
    split
    · next rest found =>
      obtain ⟨c, closes, rfl⟩ := mark?_found closing _ _ found
      exact .some ⟨_, c, passed, closes⟩
    · refine (ih.element rest).bind ?_
      rintro ⟨e, rest⟩ ⟨part, passed', -⟩
      refine (ih.elementTail closing rest).bind ?_
      rintro ⟨more, rest⟩ ⟨part', c, passed'', closes⟩
      exact .some ⟨_, c, passed.trans (passed'.trans passed''), closes⟩

omit ih in
/-- A tree in brackets that belong to it. -/
theorem placed_group {o c : Lexeme} {start : Place} {e : Expr} {m m' : String}
    (balanced : Balanced part) (opens : o.token = .mark m)
    (isOpener : ["(", "[", "\x7b"].contains m = true) (closes : c.token = .mark m')
    (isCloser : [")", "]", "\x7d"].contains m' = true) (there : o.start = start)
    (own : isGroup e = true ∨ m ≠ "(") (other : isCall e = false) :
    Placed (o :: (part ++ [c])) { expr := e, start } := by
  refine .own (by simp)
    (.group (isOpening_of_mark opens isOpener) (isClosing_of_mark closes isCloser) balanced)
    there.symm ?_ (by simp [other])
  intro o' inner c' whole opens' _
  obtain rfl : o = o' := (List.cons.inj whole).1
  rcases own with grouped | unlike
  · exact grouped
  · exact absurd (Token.mark.inj (opens.symm.trans opens')) unlike

theorem parenthesized_closes (start : Place) (ts : List Lexeme) :
    Closes "(" ")" start ts (parenthesized (fuel + 1) start ts) := by
  rw [parenthesized]
  split
  · next rest found =>
    obtain ⟨c, closes, rfl⟩ := mark?_found ")" ts _ found
    exact .some ⟨[], c, .nil _, closes, fun o opens there =>
      placed_group .nil opens rfl closes rfl there (.inl rfl) rfl⟩
  split
  · next rest found =>
    obtain ⟨t, isWord, passed⟩ := keyword?_passes "yield" ts _ found
    refine (ih.yielded rest).bind ?_
    rintro ⟨e, rest⟩ ⟨part, passed', other⟩
    refine (mark?_found ")" rest).bind ?_
    rintro rest ⟨c, closes, rfl⟩
    have passed := passed.trans passed'
    exact .some ⟨_, c, passed, closes, fun o opens _ =>
      .bracketed opens closes (passed.fresh (isOpening_of_word isWord) other)⟩
  · refine (ih.element ts).bind ?_
    rintro ⟨first, rest⟩ ⟨part, passed, placed⟩
    refine .ite ?_ (.guarded (.ite ?_ ?_))
    · refine (ih.elementTail ")" rest).bind ?_
      rintro ⟨more, rest⟩ ⟨part', c, passed', closes⟩
      have passed := passed.trans passed'
      exact .some ⟨_, c, passed, closes, fun o opens there =>
        placed_group passed.balanced opens rfl closes rfl there (.inl rfl) rfl⟩
    · refine (ih.generators rest).bind ?_
      rintro ⟨gens, rest⟩ ⟨part', passed'⟩
      refine (mark?_found ")" rest).bind ?_
      rintro rest ⟨c, closes, rfl⟩
      have passed := passed.trans passed'
      exact .some ⟨_, c, passed, closes, fun o opens there =>
        placed_group passed.balanced opens rfl closes rfl there (.inl rfl) rfl⟩
    · refine (mark?_found ")" rest).bind ?_
      rintro rest ⟨c, closes, rfl⟩
      exact .some ⟨_, c, passed, closes, fun o opens _ => .bracketed opens closes placed⟩

theorem yielded_takes (ts : List Lexeme) :
    Takes (fun _ e => isCall e = false) ts (yielded (fuel + 1) ts) := by
  rw [yielded]
  split
  · next rest found =>
    obtain ⟨t, -, passed⟩ := keyword?_passes "from" ts _ found
    refine (ih.expression rest).map ?_
    rintro ⟨e, rest⟩ ⟨part, passed', -⟩
    exact ⟨_, passed.trans passed', rfl⟩
  · refine .ite (.some ⟨[], .nil ts, rfl⟩) ((ih.starExpressions ts).map ?_)
    rintro ⟨e, rest⟩ ⟨part, passed⟩
    exact ⟨part, passed, rfl⟩

theorem bracketed_closes (start : Place) (ts : List Lexeme) :
    Closes "[" "]" start ts (bracketed (fuel + 1) start ts) := by
  rw [bracketed]
  split
  · next rest found =>
    obtain ⟨c, closes, rfl⟩ := mark?_found "]" ts _ found
    exact .some ⟨[], c, .nil _, closes, fun o opens there =>
      placed_group .nil opens rfl closes rfl there (.inr (by decide)) rfl⟩
  · refine (ih.element ts).bind ?_
    rintro ⟨first, rest⟩ ⟨part, passed, -⟩
    refine .ite ?_ ?_
    · refine (ih.generators rest).bind ?_
      rintro ⟨gens, rest⟩ ⟨part', passed'⟩
      refine (mark?_found "]" rest).bind ?_
      rintro rest ⟨c, closes, rfl⟩
      have passed := passed.trans passed'
      exact .some ⟨_, c, passed, closes, fun o opens there =>
        placed_group passed.balanced opens rfl closes rfl there (.inr (by decide)) rfl⟩
    · refine (ih.elementTail "]" rest).bind ?_
      rintro ⟨more, rest⟩ ⟨part', c, passed', closes⟩
      have passed := passed.trans passed'
      exact .some ⟨_, c, passed, closes, fun o opens there =>
        placed_group passed.balanced opens rfl closes rfl there (.inr (by decide)) rfl⟩

theorem braced_closes (start : Place) (ts : List Lexeme) :
    Closes "\x7b" "\x7d" start ts (braced (fuel + 1) start ts) := by
  -- No tree that is read here is a call, and none of them begins with a round bracket.
  have closed : ∀ {e : Expr} {part rest : List Lexeme} {c : Lexeme}, isCall e = false →
      Passed ts part (c :: rest) → c.token = .mark "\x7d" →
      ∃ part c, Passed ts part (c :: rest) ∧ c.token = .mark "\x7d" ∧
        ∀ o, o.token = .mark "\x7b" → o.start = start →
          Placed (o :: (part ++ [c])) { expr := e, start } :=
    fun other passed closes => ⟨_, _, passed, closes, fun o opens there =>
      placed_group passed.balanced opens rfl closes rfl there (.inr (by decide)) other⟩
  rw [braced]
  split
  · next rest found =>
    obtain ⟨c, closes, rfl⟩ := mark?_found "\x7d" ts _ found
    exact .some (closed rfl (.nil _) closes)
  · refine .ite ?_ ?_
    · refine (ih.dictItems ts).bind ?_
      rintro ⟨items, rest⟩ ⟨part, c, passed, closes⟩
      exact .some (closed rfl passed closes)
    · refine (ih.element ts).bind ?_
      rintro ⟨first, rest⟩ ⟨part, passed, -⟩
      refine .ite ?_ (.ite ?_ ?_)
      · refine (mark?_passes ":" rfl rest).bind ?_
        rintro rest ⟨t, -, passed'⟩
        refine (ih.expression rest).bind ?_
        rintro ⟨value, rest⟩ ⟨part', passed'', -⟩
        have passed := passed.trans (passed'.trans passed'')
        refine .ite ?_ ?_
        · refine (ih.generators rest).bind ?_
          rintro ⟨gens, rest⟩ ⟨part'', passed'⟩
          refine (mark?_found "\x7d" rest).bind ?_
          rintro rest ⟨c, closes, rfl⟩
          exact .some (closed rfl (passed.trans passed') closes)
        · refine (ih.dictTail rest).bind ?_
          rintro ⟨items, rest⟩ ⟨part'', c, passed', closes⟩
          exact .some (closed rfl (passed.trans passed') closes)
      · refine (ih.generators rest).bind ?_
        rintro ⟨gens, rest⟩ ⟨part', passed'⟩
        refine (mark?_found "\x7d" rest).bind ?_
        rintro rest ⟨c, closes, rfl⟩
        exact .some (closed rfl (passed.trans passed') closes)
      · refine (ih.elementTail "\x7d" rest).bind ?_
        rintro ⟨more, rest⟩ ⟨part', c, passed', closes⟩
        exact .some (closed rfl (passed.trans passed') closes)

theorem dictItems_ends (ts : List Lexeme) : Ends "\x7d" ts (dictItems (fuel + 1) ts) := by
  rw [dictItems]
  refine (ih.dictItem ts).bind ?_
  rintro ⟨item, rest⟩ ⟨part, passed⟩
  refine (ih.dictTail rest).bind ?_
  rintro ⟨items, rest⟩ ⟨part', c, passed', closes⟩
  exact .some ⟨_, c, passed.trans passed', closes⟩

theorem dictTail_ends (ts : List Lexeme) : Ends "\x7d" ts (dictTail (fuel + 1) ts) := by
  rw [dictTail]
  split
  · next rest found =>
    obtain ⟨c, closes, rfl⟩ := mark?_found "\x7d" ts _ found
    exact .some ⟨[], c, .nil _, closes⟩
  · refine (mark?_passes "," rfl ts).bind ?_
    rintro rest ⟨t, -, passed⟩
    split
    · next rest found =>
      obtain ⟨c, closes, rfl⟩ := mark?_found "\x7d" _ _ found
      exact .some ⟨_, c, passed, closes⟩
    · intro r found
      obtain ⟨part, c, passed', closes⟩ := ih.dictItems _ r found
      exact ⟨_, c, passed.trans passed', closes⟩

theorem dictItem_passes (ts : List Lexeme) : Passes ts (dictItem (fuel + 1) ts) := by
  rw [dictItem]
  split
  · next rest found =>
    obtain ⟨t, -, passed⟩ := mark?_passes "**" rfl ts _ found
    refine (ih.binary _ binaryLevels_plain rest).map ?_
    rintro ⟨e, rest⟩ ⟨part, passed', -⟩
    exact ⟨_, passed.trans passed'⟩
  · refine (ih.expression ts).bind ?_
    rintro ⟨key, rest⟩ ⟨part, passed, -⟩
    refine (mark?_passes ":" rfl rest).bind ?_
    rintro rest ⟨t, -, passed'⟩
    refine (ih.expression rest).bind ?_
    rintro ⟨value, rest⟩ ⟨part', passed'', -⟩
    exact .some ⟨_, passed.trans (passed'.trans passed'')⟩

theorem generators_passes (ts : List Lexeme) : Passes ts (generators (fuel + 1) ts) := by
  rw [generators]
  obtain ⟨front, begun⟩ : ∃ front, Passed ts front ((keyword? "async" ts).getD ts) := by
    cases found : keyword? "async" ts with
    | none => exact ⟨[], .nil ts⟩
    | some rest =>
      obtain ⟨t, -, passed⟩ := keyword?_passes "async" ts _ found
      exact ⟨_, passed⟩
  refine (keyword?_passes "for" _).bind ?_
  rintro rest ⟨t, -, passed⟩
  refine (ih.targets rest).bind ?_
  rintro ⟨target, rest⟩ ⟨part, passed'⟩
  refine (keyword?_passes "in" rest).bind ?_
  rintro rest ⟨u, -, passed''⟩
  refine (ih.disjunction rest).bind ?_
  rintro ⟨source, rest⟩ ⟨part', last, -⟩
  refine (ih.conditions rest).bind ?_
  rintro ⟨tests, rest⟩ ⟨part'', behind⟩
  have passed := begun.trans (passed.trans (passed'.trans (passed''.trans (last.trans behind))))
  refine .ite ?_ (.some ⟨_, passed⟩)
  refine (ih.generators rest).bind ?_
  rintro ⟨more, rest⟩ ⟨tail, behind⟩
  exact .some ⟨_, passed.trans behind⟩

theorem conditions_passes (ts : List Lexeme) : Passes ts (conditions (fuel + 1) ts) := by
  rw [conditions]
  split
  · exact .some ⟨[], .nil ts⟩
  · next rest found =>
    obtain ⟨t, -, passed⟩ := keyword?_passes "if" ts _ found
    refine (ih.disjunction rest).bind ?_
    rintro ⟨e, rest⟩ ⟨part, passed', -⟩
    refine (ih.conditions rest).bind ?_
    rintro ⟨more, rest⟩ ⟨part', passed''⟩
    exact .some ⟨_, passed.trans (passed'.trans passed'')⟩

theorem targets_passes (ts : List Lexeme) : Passes ts (targets (fuel + 1) ts) := by
  rw [targets]
  refine (ih.target ts).bind ?_
  rintro ⟨first, rest⟩ ⟨part, passed⟩
  refine .ite ?_ (.some ⟨part, passed⟩)
  refine (ih.targetTail rest).bind ?_
  rintro ⟨more, rest⟩ ⟨part', passed'⟩
  exact .some ⟨_, passed.trans passed'⟩

theorem targetTail_passes (ts : List Lexeme) : Passes ts (targetTail (fuel + 1) ts) := by
  rw [targetTail]
  split
  · exact .some ⟨[], .nil ts⟩
  · next rest found =>
    obtain ⟨t, -, passed⟩ := mark?_passes "," rfl ts _ found
    refine .ite (.some ⟨_, passed⟩) ?_
    refine (ih.target rest).bind ?_
    rintro ⟨e, rest⟩ ⟨part, passed'⟩
    refine (ih.targetTail rest).bind ?_
    rintro ⟨more, rest⟩ ⟨part', passed''⟩
    exact .some ⟨_, passed.trans (passed'.trans passed'')⟩

theorem target_passes (ts : List Lexeme) : Passes ts (target (fuel + 1) ts) := by
  rw [target]
  have behind : ∀ (isStarred : Bool) {front rest : List Lexeme}, Passed ts front rest →
      Passes ts (primary fuel rest >>= fun r =>
        if !isTarget r.1.expr then none
        else some (if isStarred then .starred r.1.expr else r.1.expr, r.2)) := by
    intro isStarred front rest passed
    refine (ih.primary rest).bind ?_
    rintro ⟨e, rest⟩ ⟨part, passed', -⟩
    exact .ite .none (.some ⟨_, passed.trans passed'⟩)
  cases found : mark? "*" ts with
  | none => exact behind false (.nil ts)
  | some rest =>
    obtain ⟨t, -, passed⟩ := mark?_passes "*" rfl ts _ found
    exact behind true passed

end

/-- Without fuel nothing is read. -/
theorem readsWords_zero : ReadsWords 0 := by
  constructor <;> intros <;> exact Whenever.none

/-- By induction on the fuel, each function from those that it calls with one unit less. -/
theorem readsWords (fuel : Nat) : ReadsWords fuel := by
  induction fuel with
  | zero => exact readsWords_zero
  | succ fuel ih =>
    exact {
      named := named_takes ih
      expression := expression_takes ih
      parameters := parameters_passes ih
      parameter := parameter_passes ih
      disjunction := disjunction_takes ih
      disjunctionTail := disjunctionTail_takes ih
      conjunction := conjunction_takes ih
      conjunctionTail := conjunctionTail_takes ih
      inversion := inversion_takes ih
      comparisonTail := comparisonTail_takes ih
      binary := binary_takes ih
      binaryTail := binaryTail_takes ih
      factor := factor_takes ih
      awaited := awaited_takes ih
      primary := primary_takes ih
      trailers := trailers_takes ih
      arguments := arguments_takes ih
      argument := argument_takes ih
      slices := slices_passes ih
      sliceTail := sliceTail_passes ih
      sliceItem := sliceItem_passes ih
      sliceBounds := sliceBounds_passes ih
      sliceBound := sliceBound_passes ih
      atom := atom_takes ih
      starExpressions := starExpressions_passes ih
      starExpressionTail := starExpressionTail_passes ih
      starExpression := starExpression_passes ih
      element := element_takes ih
      elementTail := elementTail_ends ih
      parenthesized := parenthesized_closes ih
      yielded := yielded_takes ih
      bracketed := bracketed_closes ih
      braced := braced_closes ih
      dictItems := dictItems_ends ih
      dictTail := dictTail_ends ih
      dictItem := dictItem_passes ih
      generators := generators_passes ih
      conditions := conditions_passes ih
      targets := targets_passes ih
      targetTail := targetTail_passes ih
      target := target_passes ih }

end Bindery.Reader

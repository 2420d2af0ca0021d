import Bindery.Proofs.Brackets
import Bindery.Proofs.SoundWords

/- The words that a phrase is read from. They are balanced, and without the brackets around them that are
   not part of the tree they begin where the phrase does. Of a call they are in brackets behind what is
   called, the words of one argument after the other with commas between them. -/
namespace Bindery.Reader

/-! ### Words behind each other -/

/-- The words that are read, and what is left. -/
structure Passed (ts part rest : List Lexeme) : Prop where
  whole : ts = part ++ rest
  balanced : Balanced part

variable {α β : Type} {ts part more rest left : List Lexeme} {t u : Lexeme} {m w : String}

namespace Passed

theorem nil (ts : List Lexeme) : Passed ts [] ts := ⟨rfl, .nil⟩

theorem trans (first : Passed ts part rest) (second : Passed rest more left) :
    Passed ts (part ++ more) left :=
  ⟨by rw [List.append_assoc, ← second.whole, ← first.whole], first.balanced.append second.balanced⟩

theorem word (plain : isOpening t = false) (plain' : isClosing t = false) : Passed (t :: rest) [t] rest :=
  ⟨rfl, .word plain plain'⟩

theorem place_eq (passed : Passed ts part rest) (filled : part ≠ []) : place ts = place part := by
  obtain ⟨t, more, rfl⟩ := List.exists_cons_of_ne_nil filled
  rw [passed.whole]
  rfl

end Passed

theorem Passed.group {o c : Lexeme} (opens : isOpening o = true) (closes : isClosing c = true)
    (passed : Passed ts part (c :: rest)) : Passed (o :: ts) (o :: (part ++ [c])) rest :=
  ⟨by rw [passed.whole]; simp, .group opens closes passed.balanced⟩

theorem isOpening_of_mark (token : t.token = .mark m) (opens : ["(", "[", "\x7b"].contains m = true) :
    isOpening t = true := by
  simpa [isOpening, token, or_assoc] using opens

theorem isClosing_of_mark (token : t.token = .mark m) (closes : [")", "]", "\x7d"].contains m = true) :
    isClosing t = true := by
  simpa [isClosing, token, or_assoc] using closes

theorem place_append (filled : part ≠ []) : place (part ++ more) = place part := by
  obtain ⟨t, begun, rfl⟩ := List.exists_cons_of_ne_nil filled
  rfl

/-- The mark is no bracket. -/
def isPlain (m : String) : Bool :=
  !(["(", "[", "\x7b", ")", "]", "\x7d"].contains m)

theorem isOpening_of_plain (token : t.token = .mark m) (plain : isPlain m = true) :
    isOpening t = false := by
  simp [isPlain] at plain
  simp [isOpening, token, plain]

theorem isClosing_of_plain (token : t.token = .mark m) (plain : isPlain m = true) :
    isClosing t = false := by
  simp [isPlain] at plain
  simp [isClosing, token, plain]

theorem isOpening_of_noMark (other : ∀ m, t.token ≠ .mark m) : isOpening t = false := by
  simp [isOpening, other]

theorem isClosing_of_noMark (other : ∀ m, t.token ≠ .mark m) : isClosing t = false := by
  simp [isClosing, other]

theorem isOpening_of_word (token : t.token = .word w) : isOpening t = false := by
  simp [isOpening, token]

theorem mark?_found (m : String) (ts : List Lexeme) :
    Whenever (fun rest => ∃ t, t.token = .mark m ∧ ts = t :: rest) (mark? m ts) := by
  unfold mark?
  split
  · next x start ts =>
    split
    · next same => exact .some ⟨⟨.mark x, start⟩, congrArg _ same, rfl⟩
    · exact .none
  · exact .none

/-- A mark that is no bracket is passed. -/
theorem mark?_passes (m : String) (plain : isPlain m = true) (ts : List Lexeme) :
    Whenever (fun rest => ∃ t, t.token = .mark m ∧ Passed ts [t] rest) (mark? m ts) := by
  intro rest found
  obtain ⟨t, token, rfl⟩ := mark?_found m ts rest found
  exact ⟨t, token, .word (isOpening_of_plain token plain) (isClosing_of_plain token plain)⟩

theorem keyword?_passes (w : String) (ts : List Lexeme) :
    Whenever (fun rest => ∃ t, t.token = .word w ∧ Passed ts [t] rest) (keyword? w ts) := by
  unfold keyword?
  split
  · next x start ts =>
    split
    · next same =>
      exact .some ⟨⟨.word x, start⟩, congrArg _ same, .word (isOpening_of_noMark nofun)
        (isClosing_of_noMark nofun)⟩
    · exact .none
  · exact .none

theorem name?_passes (ts : List Lexeme) : Whenever
    (fun r => ∃ t, (∃ x, t.token = .word x) ∧ name? [t] = some (r.1, []) ∧ Passed ts [t] r.2)
    (name? ts) := by
  unfold name?
  split
  · next x start ts =>
    split
    · exact .none
    · next other =>
      exact .some ⟨⟨.word x, start⟩, ⟨x, rfl⟩, if_neg other, .word (isOpening_of_noMark nofun)
        (isClosing_of_noMark nofun)⟩
  · exact .none

theorem nameBefore?_passes (m : String) (plain : isPlain m = true) (ts : List Lexeme) : Whenever
    (fun r => ∃ t u, (∃ x, t.token = .word x) ∧ name? [t] = some (r.1, []) ∧ u.token = .mark m ∧
      Passed ts [t, u] r.2)
    (nameBefore? m ts) := by
  unfold nameBefore?
  refine (name?_passes ts).bind ?_
  rintro ⟨name, rest⟩ ⟨t, isWord, isName, passed⟩
  refine (mark?_passes m plain rest).bind ?_
  rintro left ⟨u, token, passed'⟩
  exact .some ⟨t, u, isWord, isName, token, passed.trans passed'⟩

/-- Operators among which there is no bracket. -/
def Plain (ops : List (String × BinaryOp)) : Prop := ∀ e ∈ ops, isPlain e.1 = true

theorem operator?_passes {ops : List (String × BinaryOp)} (plain : Plain ops) (ts : List Lexeme) :
    Whenever (fun r => ∃ t, Passed ts [t] r.2) (operator? ops ts) := by
  unfold operator?
  split
  · next x start ts =>
    intro r found
    obtain ⟨op, held, rfl⟩ := Option.map_eq_some_iff.mp found
    obtain ⟨before, after, whole, -⟩ := List.lookup_eq_some_iff.mp held
    have plain : isPlain x = true := plain (x, op) (by simp [whole])
    exact ⟨_, .word (isOpening_of_plain rfl plain) (isClosing_of_plain rfl plain)⟩
  · exact .none

theorem binaryLevels_plain : ∀ ops ∈ binaryLevels, Plain ops := by
  unfold Plain
  decide

theorem comparison?_passes (ts : List Lexeme) :
    Whenever (fun r => ∃ t more, Passed ts (t :: more) r.2) (comparison? ts) := by
  unfold comparison?
  split
  case h_11 => exact .none
  case h_8 | h_9 => exact .some ⟨_, [_], (Passed.word rfl rfl).trans (.word rfl rfl)⟩
  all_goals exact .some ⟨_, [], .word rfl rfl⟩

theorem sign?_passes (ts : List Lexeme) :
    Whenever (fun r => ∃ t, isOpening t = false ∧ Passed ts [t] r.2) (sign? ts) := by
  unfold sign?
  split
  case h_4 => exact .none
  all_goals exact .some ⟨_, rfl, .word rfl rfl⟩

/-- Text literals are passed, and the first of them is one if any is there. -/
theorem literals_passes (ts : List Lexeme) : ∃ part, Passed ts part (literals ts).2 ∧
    ((literals ts).1 ≠ [] → ∃ t more, part = t :: more ∧ isOpening t = false) := by
  fun_induction literals ts with
  | case1 w start ts ws rest read ih =>
    obtain ⟨part, passed, -⟩ := ih
    rw [read] at passed
    exact ⟨_, (Passed.word rfl rfl).trans passed, fun _ => ⟨_, part, rfl, rfl⟩⟩
  | case2 ts => exact ⟨[], .nil ts, fun filled => absurd rfl filled⟩

/-! ### The words of a phrase -/

/-- Trees whose own words may be one pair of brackets as a whole. -/
def isGroup : Expr → Bool
  | .tuple _ => true
  | .generatorExp _ _ => true
  | _ => false

def isCall : Expr → Bool
  | .call _ _ _ => true
  | _ => false

/-- An argument as it is given: by its position or by a key. -/
inductive Given where
  | positional (e : Expr)
  | keyword (k : Keyword)

structure Entry where
  given : Given
  start : Place

def Given.positional? : Given → Option Expr
  | .positional e => some e
  | .keyword _ => none

def Given.keyword? : Given → Option Keyword
  | .positional _ => none
  | .keyword k => some k

def Given.isKeyword : Given → Bool
  | .positional _ => false
  | .keyword _ => true

/-- A positional argument without a star. -/
def Given.isBare : Given → Bool
  | .positional (.starred _) => false
  | .positional _ => true
  | .keyword _ => false

/-- Behind a keyword there are no positional arguments but those with a star. -/
def InOrder : Bool → List Entry → Prop
  | _, [] => True
  | keyed, a :: entries =>
    (keyed = true → a.given.isBare = false) ∧ InOrder (keyed || a.given.isKeyword) entries

/-- No brackets that the tree could do without are around the words. -/
def Lone (part : List Lexeme) (e : Expr) : Prop :=
  ∀ o inner c, part = o :: (inner ++ [c]) → o.token = .mark "(" → Balanced inner → isGroup e = true

/-- Reading takes the words as a whole, whatever is left behind them. -/
def TakesAll (read : Nat → List Lexeme → Option (α × List Lexeme)) (part : List Lexeme) (a : α) : Prop :=
  ∃ fuel rest, read fuel (part ++ rest) = some (a, rest)

/-- The words of one argument. A generator without brackets of its own begins at those of the call. -/
inductive Written (opening : Place) : List Lexeme → Entry → Prop
  | plain {part : List Lexeme} {p : Phrase} (balanced : Balanced part) (read : TakesAll named part p) :
      Written opening part ⟨.positional p.expr, p.start⟩
  | generator {part more : List Lexeme} {p : Phrase} {gs : List Generator} (balanced : Balanced part)
      (balanced' : Balanced more) (read : TakesAll named part p) (readMore : TakesAll generators more gs) :
      Written opening (part ++ more) ⟨.positional (.generatorExp p.expr gs), opening⟩
  | starred {part : List Lexeme} {t : Lexeme} {p : Phrase} (star : t.token = .mark "*")
      (balanced : Balanced part) (read : TakesAll expression part p) :
      Written opening (t :: part) ⟨.positional (.starred p.expr), t.start⟩
  | spread {part : List Lexeme} {t : Lexeme} {p : Phrase} (stars : t.token = .mark "**")
      (balanced : Balanced part) (read : TakesAll expression part p) :
      Written opening (t :: part) ⟨.keyword (.mk none p.expr), t.start⟩
  | keyword {part : List Lexeme} {t u : Lexeme} {key : String} {p : Phrase}
      (name : name? [t] = some (key, [])) (equals : u.token = .mark "=") (balanced : Balanced part)
      (read : TakesAll expression part p) :
      Written opening (t :: u :: part) ⟨.keyword (.mk (some key) p.expr), t.start⟩

/-- The words of an argument list behind its opening bracket. A comma may stand behind the last one. -/
inductive Listed (opening : Place) : List Lexeme → List Entry → Prop
  | nil : Listed opening [] []
  | last {part : List Lexeme} {a : Entry} (written : Written opening part a) : Listed opening part [a]
  | more {part rest : List Lexeme} {t : Lexeme} {a : Entry} {entries : List Entry}
      (written : Written opening part a) (comma : t.token = .mark ",")
      (listed : Listed opening rest entries) : Listed opening (part ++ t :: rest) (a :: entries)

/-- The phrase calls something with these arguments: no positional one but with a star stands behind a
    keyword, so their order is known from the two lists of the tree. -/
structure Applies (p : Phrase) (callee : Expr) (entries : List Entry) : Prop where
  call : p.expr = .call callee (entries.filterMap (·.given.positional?))
    (entries.filterMap (·.given.keyword?))
  starts : p.argumentStarts = entries.map Entry.start
  ordered : InOrder false entries

/-- The words of a call: its arguments are in the last pair of brackets. -/
def CallWords (part : List Lexeme) (entries : List Entry) : Prop :=
  ∃ before inner o c, part = before ++ o :: (inner ++ [c]) ∧ before ≠ [] ∧ Balanced before ∧
    o.token = .mark "(" ∧ c.token = .mark ")" ∧ Balanced inner ∧ Listed o.start inner entries

def Called (part : List Lexeme) (p : Phrase) : Prop :=
  ∃ callee entries, Applies p callee entries ∧ CallWords part entries

/-- The words of a phrase. It begins where they do, unless there are brackets around it that are not part
    of the tree: then it begins behind them. -/
inductive Placed : List Lexeme → Phrase → Prop
  | own {part : List Lexeme} {p : Phrase} (filled : part ≠ []) (balanced : Balanced part)
      (start : p.start = place part) (lone : Lone part p.expr)
      (called : isCall p.expr = true → Called part p) : Placed part p
  | bracketed {part : List Lexeme} {o c : Lexeme} {p : Phrase} (opens : o.token = .mark "(")
      (closes : c.token = .mark ")") (inner : Placed part p) : Placed (o :: (part ++ [c])) p

namespace Placed

variable {p : Phrase} {e : Expr} {start : Place}

theorem filled (placed : Placed part p) : part ≠ [] := by
  cases placed with
  | own filled => exact filled
  | bracketed => simp

theorem balanced (placed : Placed part p) : Balanced part := by
  induction placed with
  | own _ balanced => exact balanced
  | bracketed opens closes _ ih =>
    exact .group (by simp [isOpening, opens]) (by simp [isClosing, closes]) ih

/-- Words that begin with no bracket. -/
theorem fresh (balanced : Balanced (t :: more)) (begins : isOpening t = false) (other : isCall e = false) :
    Placed (t :: more) { expr := e, start := t.start } := by
  refine .own (by simp) balanced rfl ?_ (by simp [other])
  intro o inner c whole opens _
  obtain rfl : t = o := (List.cons.inj whole).1
  simp [isOpening, opens] at begins

/-- Words behind those of another phrase. -/
theorem extended (placed : Placed part p) (balanced : Balanced more) (filled : more ≠ [])
    (other : isCall e = false) : Placed (part ++ more) { expr := e, start := place part } := by
  obtain ⟨t, begun, rfl⟩ := List.exists_cons_of_ne_nil placed.filled
  refine .own (by simp) (placed.balanced.append balanced) rfl ?_ (by simp [other])
  intro o inner c whole opens inside
  exact absurd whole (placed.balanced.not_group placed.filled filled inside (by simp [isOpening, opens]))

end Placed

namespace Passed

variable {p : Phrase} {e : Expr}

/-- A phrase of words that begin with no bracket. -/
theorem fresh (passed : Passed ts (t :: more) rest) (begins : isOpening t = false)
    (other : isCall e = false) : Placed (t :: more) { expr := e, start := place ts } := by
  rw [passed.place_eq (by simp)]
  exact .fresh passed.balanced begins other

/-- A phrase of the words of another one and of more behind them. -/
theorem extended (passed : Passed ts part rest) (placed : Placed part p) (further : Passed rest more left)
    (filled : more ≠ []) (other : isCall e = false) :
    Placed (part ++ more) { expr := e, start := place ts } := by
  rw [passed.place_eq placed.filled]
  exact placed.extended further.balanced filled other

end Passed

end Bindery.Reader

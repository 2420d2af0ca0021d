import Bindery.Proofs.Body.Bases
import Bindery.Proofs.Body.LineEnds
import Mathlib.Data.List.Forall2
import Mathlib.Data.List.Pairwise

/- A body is covered by tiles: its decorators, the definitions behind them, and its other statements, with
   white text before, between and behind them. Between two tiles a line ends, so no two of them share a
   row. -/
namespace Bindery.Body

/-! ### Tiles -/

/-- A passage of a body that is taken for one part of it, with all the text before it. -/
structure Tile (α : Type) where
  part : α
  before : List Char
  text : List Char

namespace Tile

variable {α : Type}

/-- The row where a tile begins, counted from zero. -/
def firstRow (t : Tile α) : Nat := t.before.count '\n'

def lastRow (t : Tile α) : Nat := t.firstRow + t.text.count '\n'

end Tile

/-- Tiles that fit their parts cover a text from its beginning on. White text may stand before each of
    them, and a line ends between two. -/
inductive Tiled {α : Type} (fits : Tile α → Prop) : List (Tile α) → List Char → Prop where
  | nil : Tiled fits [] []
  | snoc {ts : List (Tile α)} {before w text : List Char} {part : α} :
      Tiled fits ts before → White w → (before ≠ [] → '\n' ∈ w) → Shows text →
      fits ⟨part, before ++ w, text⟩ →
      Tiled fits (ts ++ [⟨part, before ++ w, text⟩]) (before ++ w ++ text)

/-- Tiles cover a whole body, up to white text at its end. -/
def Covered {α : Type} (fits : Tile α → Prop) (ts : List (Tile α)) (source : List Char) : Prop :=
  ∃ before w, Tiled fits ts before ∧ source = before ++ w ∧ Ending w

theorem Shows.ne_nil {cs : List Char} (shows : Shows cs) : cs ≠ [] := by
  obtain ⟨x, rest, rfl, -⟩ := shows
  exact List.cons_ne_nil x rest

namespace Tiled

variable {α β : Type} {fits : Tile α → Prop} {ts : List (Tile α)} {before : List Char}

theorem fit (tiled : Tiled fits ts before) : ∀ t ∈ ts, fits t := by
  induction tiled with
  | nil => simp
  | snoc _ _ _ _ own ih => exact List.forall_mem_append.mpr ⟨ih, by simpa using own⟩

theorem begun (tiled : Tiled fits ts before) {t : Tile α} (member : t ∈ ts) : before ≠ [] := by
  cases tiled with
  | nil => simp at member
  | snoc _ _ _ shows _ => simp [shows.ne_nil]

/-- No tile goes beyond the text that the tiles cover. -/
theorem rows_le (tiled : Tiled fits ts before) : ∀ t ∈ ts, t.lastRow ≤ before.count '\n' := by
  induction tiled with
  | nil => simp
  | snoc _ _ _ _ _ ih =>
    refine List.forall_mem_append.mpr ⟨fun t member => ?_, ?_⟩
    · have earlier := ih t member
      simp only [List.count_append]
      omega
    · simp [Tile.lastRow, Tile.firstRow, List.count_append, Nat.add_assoc]

/-- No two tiles share a row. -/
theorem ascending (tiled : Tiled fits ts before) :
    ts.Pairwise fun t t' => t.lastRow < t'.firstRow := by
  induction tiled with
  | nil => exact .nil
  | @snoc ts before w text part tiled white breaks shows own ih =>
    refine List.pairwise_append.mpr ⟨ih, List.pairwise_singleton _ _, fun t member t' last => ?_⟩
    obtain rfl := List.mem_singleton.mp last
    have feed := List.count_pos_iff.mpr (breaks (tiled.begun member))
    have earlier := tiled.rows_le t member
    simp only [Tile.firstRow, List.count_append]
    omega

theorem apart (tiled : Tiled fits ts before) {t t' : Tile α} (member : t ∈ ts) (member' : t' ∈ ts)
    (distinct : t ≠ t') : t.lastRow < t'.firstRow ∨ t'.lastRow < t.firstRow := by
  have symmetric : Std.Symm fun t t' : Tile α => t.lastRow < t'.firstRow ∨ t'.lastRow < t.firstRow :=
    ⟨fun _ _ => Or.symm⟩
  have either : ts.Pairwise fun t t' => t.lastRow < t'.firstRow ∨ t'.lastRow < t.firstRow :=
    tiled.ascending.imp .inl
  exact either.forall member member' distinct

end Tiled

theorem forall₂_snoc {α β : Type} {R : α → β → Prop} {xs : List α} {x : α} {zs : List β}
    (related : List.Forall₂ R (xs ++ [x]) zs) :
    ∃ ys y, zs = ys ++ [y] ∧ List.Forall₂ R xs ys ∧ R x y := by
  induction xs generalizing zs with
  | nil =>
    obtain ⟨y, ys, own, rest, rfl⟩ := List.forall₂_cons_left_iff.mp related
    obtain rfl := List.forall₂_nil_left_iff.mp rest
    exact ⟨[], y, rfl, .nil, own⟩
  | cons x' xs ih =>
    obtain ⟨y', zs, own, rest, rfl⟩ := List.forall₂_cons_left_iff.mp related
    obtain ⟨ys, y, rfl, firsts, last⟩ := ih rest
    exact ⟨y' :: ys, y, rfl, .cons own firsts, last⟩

/-- Tiles may be taken for other parts that fit as well. -/
theorem Tiled.relabel {α β : Type} {fits : Tile α → Prop} {fits' : Tile β → Prop}
    {ts : List (Tile α)} {before : List Char} {parts : List β} (tiled : Tiled fits ts before)
    (related : List.Forall₂
      (fun p q => ∀ before text, fits ⟨p, before, text⟩ → fits' ⟨q, before, text⟩)
      (ts.map Tile.part) parts) :
    ∃ ts', ts'.map Tile.part = parts ∧ Tiled fits' ts' before := by
  induction tiled generalizing parts with
  | nil =>
    obtain rfl := List.forall₂_nil_left_iff.mp related
    exact ⟨[], rfl, .nil⟩
  | snoc _ white breaks shows own ih =>
    rw [List.map_append] at related
    obtain ⟨qs, q, rfl, firsts, last⟩ := forall₂_snoc related
    obtain ⟨ts', rfl, tiled⟩ := ih firsts
    exact ⟨ts' ++ [_], by simp, tiled.snoc white breaks shows (last _ _ own)⟩

/-! ### Places where nothing begins -/

/-- At the end of a body, or in front of a backslash that joins no lines. -/
def Blocked (c : Cursor) : Prop := ∀ x ∈ c.rest.head?, x = '\\'

namespace Blocked

variable {c : Cursor}

theorem cases_ (blocked : Blocked c) : c.rest = [] ∨ ∃ rest, c.rest = '\\' :: rest := by
  cases text : c.rest with
  | nil => exact .inl rfl
  | cons x rest => exact .inr ⟨rest, by rw [blocked x (by simp [text])]⟩

theorem quotation (blocked : Blocked c) : c.quotation? = none := by
  unfold Cursor.quotation?
  rcases blocked.cases_ with text | ⟨rest, text⟩
  · simp [text]
  · simp [text, quotationLetters, isQuoteMark]

theorem number (blocked : Blocked c) : c.number? = none := by
  unfold Cursor.number?
  rcases blocked.cases_ with text | ⟨rest, text⟩
  · rw [text]
    rfl
  · rw [text]
    rfl

theorem word (blocked : Blocked c) : c.word? = none := by
  unfold Cursor.word?
  rcases blocked.cases_ with text | ⟨rest, text⟩
  · rw [text]
  · have other : Text.isNameStart '\\' = false := by decide +kernel
    simp [text, other]

theorem atWord (blocked : Blocked c) (w : String) : c.atWord w = false := by
  simp [Cursor.atWord, blocked.word]

theorem atMark (blocked : Blocked c) {m : String} {x : Char} {xs : List Char}
    (first : m.toList = x :: xs) (other : x ≠ '\\') : c.atMark m = false := by
  rcases blocked.cases_ with text | ⟨rest, text⟩
  · simp [Cursor.atMark, text, first]
  · simp [Cursor.atMark, text, first, other, List.isPrefixOf]

end Blocked

namespace Reader

theorem atom_blocked {t : Tail} {fuel : Nat} {c : Cursor} (blocked : Blocked c) :
    Gives (atom t fuel c) fun _ => False := by
  cases fuel with
  | zero => exact .error
  | succ fuel =>
    unfold atom
    rw [blocked.quotation, blocked.number, blocked.word]
    rcases blocked.cases_ with text | ⟨rest, text⟩
    · rw [text]
      exact .error
    · rw [text]
      exact .error

theorem operand_blocked {t : Tail} {fuel : Nat} {c : Cursor} (blocked : Blocked c) :
    Gives (operand t fuel c) fun _ => False := by
  cases fuel with
  | zero => exact .error
  | succ fuel =>
    have plus := blocked.atMark (m := "+") rfl (by decide)
    have minus := blocked.atMark (m := "-") rfl (by decide)
    have tilde := blocked.atMark (m := "~") rfl (by decide)
    have star := blocked.atMark (m := "*") rfl (by decide)
    have plain : awaited? t c = none := by simp [awaited?, blocked.atWord]
    rw [operand]
    simp only [plus, minus, tilde, star, plain, Bool.or_self, Bool.and_false, Bool.false_eq_true,
      if_false]
    exact .andThen (atom_blocked blocked) fun _ impossible => impossible.elim

theorem expression_blocked {t : Tail} {fuel : Nat} {c : Cursor} (blocked : Blocked c) :
    Gives (expression t fuel c) fun _ => False := by
  cases fuel with
  | zero => exact .error
  | succ fuel =>
    rw [expression]
    simp only [blocked.atWord, Bool.false_eq_true, if_false]
    exact .andThen (operand_blocked blocked) fun _ impossible => impossible.elim

theorem expressionStatement_blocked {fuel : Nat} {c : Cursor} (blocked : Blocked c) :
    Gives (expressionStatement fuel c) fun _ => False := by
  unfold expressionStatement
  simp only [blocked.atWord, Bool.false_eq_true, if_false]
  cases fuel with
  | zero => exact .andThen (P := fun _ => False) .error fun _ impossible => impossible.elim
  | succ fuel =>
    rw [expressions]
    refine .andThen (P := fun _ => False) ?_ fun _ impossible => impossible.elim
    exact .andThen (expression_blocked blocked) fun _ impossible => impossible.elim

theorem statement_blocked {fuel : Nat} {c : Cursor} (blocked : Blocked c) :
    Gives (statement fuel c) fun _ => False := by
  cases fuel with
  | zero => exact .error
  | succ fuel =>
    have noMark := blocked.atMark (m := "@") rfl (by decide)
    rw [statement]
    simp only [noMark, blocked.quotation, blocked.word, Bool.false_eq_true, if_false]
    refine .andThen (P := fun _ => False) ?_ fun _ impossible => impossible.elim
    cases fuel with
    | zero => exact .error
    | succ fuel =>
      rw [simpleStatements]
      refine .andThen (P := fun _ => False) ?_ fun _ impossible => impossible.elim
      unfold simpleStatement
      simp only [blocked.quotation, blocked.word]
      exact expressionStatement_blocked blocked

theorem definition_blocked {fuel : Nat} {c : Cursor} (blocked : Blocked c) :
    Gives (definition fuel c) fun _ => False := by
  cases fuel with
  | zero => exact .error
  | succ fuel =>
    rw [definition]
    simp only [blocked.atWord, Bool.false_eq_true, if_false]
    refine .andThen (P := (· = c)) (.ok rfl) fun d same => ?_
    refine .andThen (P := fun _ => False) ?_ fun _ impossible => impossible.elim
    unfold Cursor.passWord
    simp only [same, blocked.atWord, Bool.false_eq_true, if_false]
    exact .error

end Reader

theorem Parted.shows {c d : Cursor} {w : List Char} (parted : Parted c w d) (free : ¬ Blocked d) :
    White w ∧ Shows d.rest := by
  rcases parted.between with ⟨nothing, -⟩ | ⟨white, shows | joins⟩
  · exact absurd (fun x member => by simp [nothing] at member) free
  · exact ⟨white, shows⟩
  · refine absurd (fun x member => ?_) free
    rw [joins] at member
    exact (Option.some.inj member).symm

/-! ### Parts of a body -/

/-- What a passage of a body is. -/
inductive Part where
  | decorator (d : Decorator)
  | definition (d : Definition)
  | other
  deriving DecidableEq, Repr

/-- The decorators of a definition are parts beside it. -/
def Statement.parts : Statement → List Part
  | .definition ds d => ds.map Part.decorator ++ [.definition d]
  | .other => [.other]

/-- A decorator begins in the first row of its tile and ends before the tile does. Unless a joined line
    was taken for it, it is all of the tile behind the mark. -/
structure Decorator.Fits (d : Decorator) (t : Tile Part) : Prop where
  start : d.start.line = t.firstRow + 1
  ordered : d.start.line ≤ d.sourceEnd.line
  within : d.sourceEnd.line ≤ t.lastRow + 1
  source : d.source = "\\\n" ∨ d.source = "\\\r\n" ∨
    d.sourceEnd.line = t.lastRow + 1 ∧ ∃ w, White w ∧ t.text = '@' :: (w ++ d.source.toList)

/-- A decorator begins where its tile does, and its source behind the mark and white text. -/
structure Decorator.Stands (d : Decorator) (t : Tile Part) : Prop where
  fits : d.Fits t
  start : d.start = Place.origin.afterAll t.before
  source : d.source = "\\\n" ∨ d.source = "\\\r\n" ∨ ∃ w, White w ∧
    t.text = '@' :: (w ++ d.source.toList) ∧ d.sourceStart = Place.origin.afterAll (t.before ++ '@' :: w)

/-- A definition begins where its tile does, its name is a word, and its bases stand in the tile. -/
structure Definition.Stands (d : Definition) (t : Tile Part) : Prop where
  start : d.start = Place.origin.afterAll t.before
  word : ∀ x ∈ d.name.toList, Text.isNameContinue x = true
  bases : ∀ base ∈ d.bases, Base t.text base.toList

/-- A part stands in the rows of its tile. -/
def Part.Fits (t : Tile Part) : Prop :=
  match t.part with
  | .decorator d => d.Fits t
  | .definition d => d.start.line = t.firstRow + 1
  | .other => True

/-- A part stands where its tile does. -/
def Part.Stands (t : Tile Part) : Prop :=
  match t.part with
  | .decorator d => d.Stands t
  | .definition d => d.Stands t
  | .other => True

theorem Part.Stands.fits {t : Tile Part} (stands : Stands t) : Fits t := by
  obtain ⟨_ | d | _, before, text⟩ := t
  · exact Decorator.Stands.fits stands
  · have row := afterAll_line .origin before
    rw [← Definition.Stands.start stands, Nat.add_comm] at row
    exact row
  · trivial

/-- A reader is behind tiles where the line is over, unless it is at the beginning of the body. -/
def Behind (source : List Char) (ts : List (Tile Part)) (c : Cursor) : Prop :=
  ∃ before, Tiled Part.Stands ts before ∧ Passed (.start source) before c ∧
    (before ≠ [] → LineOver c.rest)

/-- A reader is at the beginning of the tile behind others. -/
def Fronts (source : List Char) (ts : List (Tile Part)) (c : Cursor) : Prop :=
  ∃ before w, Tiled Part.Stands ts before ∧ White w ∧ (before ≠ [] → '\n' ∈ w) ∧ Shows c.rest ∧
    Passed (.start source) (before ++ w) c

section
variable {source : List Char} {ts : List (Tile Part)} {c d e : Cursor} {w text : List Char}

theorem Behind.fronts (behind : Behind source ts c) (parted : Parted c w d) (free : ¬ Blocked d) :
    Fronts source ts d := by
  obtain ⟨before, tiled, passed, closed⟩ := behind
  obtain ⟨white, shows⟩ := parted.shows free
  refine ⟨before, w, tiled, white, fun begun => ?_, shows, passed.trans parted.passed⟩
  have closed := closed begun
  rw [parted.passed.rest] at closed
  exact closed.breaks white shows

/-- What is read up to the end of its line is the next tile. -/
theorem Fronts.tile (fronts : Fronts source ts c) (part : Part) (passed : Passed c text d)
    (closed : LineOver d.rest)
    (stands : ∀ {before}, Passed (.start source) before c → Part.Stands ⟨part, before, text⟩) :
    ∃ t, t.part = part ∧ Behind source (ts ++ [t]) d := by
  obtain ⟨before, w, tiled, white, breaks, shows, here⟩ := fronts
  have begins : Shows text := by
    have rest := passed.rest
    obtain ⟨x, more, first, visible⟩ := shows
    cases text with
    | nil =>
      have closed : LineOver ([] ++ c.rest) := by rwa [rest]
      simpa using closed.breaks .nil ⟨x, more, first, visible⟩
    | cons y text =>
      rw [first] at rest
      obtain ⟨rfl, -⟩ := List.cons.inj rest
      exact ⟨x, text, rfl, visible⟩
  exact ⟨_, rfl, _, tiled.snoc white breaks begins (stands here), here.trans passed, fun _ => closed⟩

theorem Passed.row (passed : Passed (.start source) text c) : c.place.line = text.count '\n' + 1 := by
  rw [passed.line, Nat.add_comm]
  rfl

theorem Cursor.rest_of_mark {m : String} (mark : c.atMark m = true) : ∃ rest, c.rest = m.toList ++ rest := by
  obtain ⟨rest, text⟩ := List.isPrefixOf_iff_prefix.mp mark
  exact ⟨rest, text.symm⟩

/-- The decorator that is read from behind a mark stands in the passage from there to its end. -/
theorem decorator_stands {before v rest : List Char} {p : Cursor × Cursor} {part : Part}
    (here : Passed (.start source) before c) (mark : c.rest = '@' :: rest)
    (gap : Passed c.step v d) (white : White v) (own : Passed d text e)
    (joins : ∀ a b, c.step.join? = some (a, b) → Joined c.step a b d)
    (span : c.step.join?.getD (d, e) = p) :
    Decorator.Stands ⟨c.place, p.1.textUpTo p.2.offset, p.1.place, p.2.place⟩
      ⟨part, before, '@' :: (v ++ text)⟩ := by
  have row := here.row
  have step : c.step.place.line = c.place.line := by simpa using (Passed.step mark).line
  have gapLine := gap.line
  have ownLine := own.line
  have last : Tile.lastRow ⟨part, before, '@' :: (v ++ text)⟩ =
      before.count '\n' + (v.count '\n' + text.count '\n') := by
    simp [Tile.lastRow, Tile.firstRow, List.count_append]
  cases join : c.step.join? with
  | none =>
    obtain rfl : (d, e) = p := by simpa [join] using span
    have behind := here.trans ((Passed.step mark).trans gap)
    have whole : '@' :: (v ++ text) = '@' :: (v ++ (d.textUpTo e.offset).toList) := by
      rw [own.textUpTo, String.toList_ofList]
    refine ⟨⟨row, ?_, ?_, .inr (.inr ⟨?_, v, white, whole⟩)⟩, here.place,
      .inr (.inr ⟨v, white, whole, behind.place⟩)⟩
    · dsimp only
      omega
    · rw [last]
      dsimp only
      omega
    · rw [last]
      dsimp only
      omega
  | some found =>
    obtain ⟨a, b⟩ := found
    obtain rfl : (a, b) = p := by simpa [join] using span
    obtain ⟨⟨_, first⟩, joined, ⟨_, second⟩⟩ := joins a b join
    have firstLine := first.line
    have secondLine := second.line
    have source : a.textUpTo b.offset = "\\\n" ∨ a.textUpTo b.offset = "\\\r\n" :=
      joined.imp (fun passed => passed.textUpTo) fun passed => passed.textUpTo
    have joinLine : b.place.line = a.place.line + 1 :=
      joined.elim (fun passed => passed.line) fun passed => passed.line
    refine ⟨⟨row, ?_, ?_, source.imp_right .inl⟩, here.place, source.imp_right .inl⟩
    · dsimp only
      omega
    · rw [last]
      dsimp only
      omega

end

namespace Reader

section
variable {source : List Char} {ts : List (Tile Part)} {fuel : Nat} {c : Cursor}

/-- By induction on the fuel: each decorator is the next tile. -/
theorem decorated_tiles {ds : List Decorator} {f : Cursor} (fronts : Fronts source ts c)
    (mark : c.atMark "@" = true) (read : decorated fuel c = .ok (ds, f)) (free : ¬ Blocked f) :
    ∃ new, new.map Tile.part = ds.map Part.decorator ∧ Fronts source (ts ++ new) f := by
  induction fuel generalizing ts c ds with
  | zero => simp [decorated] at read
  | succ fuel ih =>
    rw [decorated] at read
    obtain ⟨d, seen, read⟩ := bind_eq_ok_iff.mp read
    obtain ⟨⟨shape, e⟩, expressed, read⟩ := bind_eq_ok_iff.mp read
    obtain ⟨rest, begins⟩ := Cursor.rest_of_mark mark
    obtain ⟨v, gap⟩ := see_parted seen
    have visible : ¬ Blocked d := fun blocked => expression_blocked blocked _ expressed
    have moved := (reads (steady_moved d) fuel).expression .here _ expressed
    obtain ⟨text, own⟩ := moved.passed
    have passed : Passed c ('@' :: (v ++ text)) e :=
      (Passed.step begins).trans (gap.passed.trans own)
    dsimp only at read
    split at read
    · rename_i looked
      have closed := (look_over looked (by simp)).1
      generalize span : c.step.join?.getD (d, e) = p at read
      obtain ⟨t, part, behind⟩ := fronts.tile
          (.decorator ⟨c.place, p.1.textUpTo p.2.offset, p.1.place, p.2.place⟩) passed closed fun here =>
        decorator_stands here begins gap.passed (gap.shows visible).1 own
          (fun _ _ join => see_joined seen join) span
      obtain ⟨g, next, read⟩ := bind_eq_ok_iff.mp read
      obtain ⟨w, parted⟩ := see_parted next
      split at read
      · rename_i another
        obtain ⟨⟨more, f'⟩, rest, read⟩ := bind_eq_ok_iff.mp read
        cases read
        have free' : ¬ Blocked g := fun blocked =>
          by simp [blocked.atMark (m := "@") rfl (by decide)] at another
        obtain ⟨new, parts, fronts⟩ := ih (behind.fronts parted free') another rest
        exact ⟨t :: new, by simp [part, parts], by simpa using fronts⟩
      · cases read
        exact ⟨[t], by simp [part], behind.fronts parted free⟩
    · contradiction
    · contradiction

theorem definition_start (fuel : Nat) (c : Cursor) :
    Gives (definition fuel c) fun r => r.1.start = c.place := by
  cases fuel with
  | zero => exact .error
  | succ fuel =>
    rw [definition]
    refine .ite (.after fun _ => .after fun _ => .ok rfl) ?_
    refine .branch (P := fun _ => True) (fun _ _ => trivial) (fun _ _ => trivial) fun d _ => ?_
    exact .after fun _ => .after fun _ => .after fun _ => .ok rfl

/-- The name that a head begins with is a word, whatever follows it. -/
theorem name_andThen {α : Type} (name : α → String) {rest : String × Cursor → Except Cursor α}
    (kept : ∀ r, Gives (rest r) fun a => name a = r.1) :
    Gives (c.passName >>= rest) fun a => ∀ x ∈ (name a).toList, Text.isNameContinue x = true :=
  .andThen (P := fun r => ∀ x ∈ r.1.toList, Text.isNameContinue x = true)
    (fun _ passed => (Passed.word (Cursor.word_of_passName passed)).2)
    fun r word a given => kept r a given ▸ word

theorem functionHead_word (fuel : Nat) (c : Cursor) :
    Gives (functionHead fuel c) fun r => ∀ x ∈ r.1.toList, Text.isNameContinue x = true := by
  unfold functionHead
  refine .after fun c => name_andThen Prod.fst fun r => ?_
  refine .after fun c => .after fun c => .after fun c => .after fun c => ?_
  refine .branch (P := fun _ => True) (fun _ _ => trivial) (fun _ _ => trivial) fun c _ => ?_
  refine .after fun c => .after fun c => .after fun c => ?_
  extract_lets colon
  have ends : ∀ c, Gives (colon c) fun s => s.1 = r.1 := fun c => .after fun _ => .ok rfl
  exact .ite (.after fun c => .after fun c => .after ends) (.after ends)

theorem classHead_word (fuel : Nat) (c : Cursor) :
    Gives (classHead fuel c) fun r => ∀ x ∈ r.1.toList, Text.isNameContinue x = true := by
  unfold classHead
  refine .after fun c => name_andThen Prod.fst fun r => ?_
  refine .after fun c => .after fun c => ?_
  extract_lets colon
  have ends : ∀ s, Gives (colon s) fun t => t.1 = r.1 := fun s => .after fun _ => .ok rfl
  exact .ite (.after fun c => .after fun s => .after fun c => .after ends) (.after ends)

theorem definition_word (fuel : Nat) (c : Cursor) :
    Gives (definition fuel c) fun r => ∀ x ∈ r.1.name.toList, Text.isNameContinue x = true := by
  cases fuel with
  | zero => exact .error
  | succ fuel =>
    rw [definition]
    refine .ite ((classHead_word fuel _).andThen fun r word => .after fun d => .ok word) ?_
    refine .branch (P := fun _ => True) (fun _ _ => trivial) (fun _ _ => trivial) fun d _ => ?_
    exact .after fun d => (functionHead_word fuel d).andThen fun r word => .after fun d => .ok word

theorem definition_stands {fuel : Nat} {before : List Char} {found : Definition}
    (here : Passed (.start source) before c) (passed : Passed c text d)
    (read : definition fuel c = .ok (found, d)) :
    Part.Stands ⟨.definition found, before, text⟩ where
  start := (definition_start fuel c _ read).trans here.place
  word := definition_word fuel c _ read
  bases := definition_bases _ read text passed

/-- A statement without a mark in front is a definition without decorators, or none. -/
theorem undecorated (fuel : Nat) {c : Cursor} (plain : c.atMark "@" = false) :
    Gives (statement fuel c) fun r =>
      r.1 = .other ∨ ∃ n d, r.1 = .definition [] d ∧ definition n c = .ok (d, r.2) := by
  cases fuel with
  | zero => exact .error
  | succ fuel =>
    have simple : Gives (do return (Statement.other, ← simpleStatements fuel c))
        fun r => r.1 = .other ∨ ∃ n d, r.1 = .definition [] d ∧ definition n c = .ok (d, r.2) :=
      .after fun _ => .ok (.inl rfl)
    have other : ∀ r : Except Cursor Cursor, Gives (r.map fun c => (Statement.other, c))
        fun r => r.1 = .other ∨ ∃ n d, r.1 = .definition [] d ∧ definition n c = .ok (d, r.2) :=
      fun r => .map (P := fun _ => True) (fun _ _ => trivial) fun _ _ => .inl rfl
    have bare : Gives (do
        let r ← definition fuel c
        return (Statement.definition [] r.1, r.2))
        fun r => r.1 = .other ∨ ∃ n d, r.1 = .definition [] d ∧ definition n c = .ok (d, r.2) :=
      .andThen (P := fun r => definition fuel c = .ok r) (fun r read => read)
        fun r read => .ok (.inr ⟨fuel, r.1, rfl, read⟩)
    rw [statement]
    simp only [plain, Bool.false_eq_true, if_false]
    split
    · split
      · exact bare
      · exact bare
      · split
        · exact .ite bare (.ite (other _) (.ite (other _) simple))
        · exact simple
      · exact other _
      · exact other _
      · exact other _
      · exact other _
      · exact other _
      · exact firstOf_keeps (other _) simple
      · exact simple
    · exact simple

/-- A statement is the next tiles. -/
theorem statement_tiles {found : Statement} {d : Cursor} (fronts : Fronts source ts c)
    (read : statement fuel c = .ok (found, d)) :
    ∃ new, new.map Tile.part = found.parts ∧ Behind source (ts ++ new) d := by
  have closed : LineOver d.rest := (closesAll fuel).statement c _ read
  by_cases mark : c.atMark "@" = true
  · cases fuel with
    | zero => simp [statement] at read
    | succ fuel =>
      rw [statement, if_pos mark] at read
      obtain ⟨⟨ds, f⟩, decorated_, read⟩ := bind_eq_ok_iff.mp read
      obtain ⟨⟨definition_, d'⟩, defined, read⟩ := bind_eq_ok_iff.mp read
      cases read
      have free : ¬ Blocked f := fun blocked => definition_blocked blocked _ defined
      obtain ⟨new, parts, fronts⟩ := decorated_tiles fronts mark decorated_ free
      have moved := (runs (steady_moved f) (Q := fun _ => True) (fun _ _ _ => trivial) fuel).definition
        .here _ defined
      obtain ⟨text, passed⟩ := moved.passed
      obtain ⟨t, part, behind⟩ := fronts.tile (.definition definition_) passed closed
        fun here => definition_stands here passed defined
      exact ⟨new ++ [t], by simp [Statement.parts, parts, part], by simpa using behind⟩
  · have moved := ((runs (steady_moved c) (Q := fun _ => True) (fun _ _ _ => trivial) fuel).statement
      .here _ read).1
    obtain ⟨text, passed⟩ := moved.passed
    rcases undecorated fuel (by simpa using mark) _ read with rfl | ⟨n, definition_, rfl, defined⟩
    · obtain ⟨t, part, behind⟩ := fronts.tile .other passed closed fun _ => trivial
      exact ⟨[t], by simp [Statement.parts, part], behind⟩
    · obtain ⟨t, part, behind⟩ := fronts.tile (.definition definition_) passed closed
        fun here => definition_stands here passed defined
      exact ⟨[t], by simp [Statement.parts, part], behind⟩

/-- By induction on the fuel, statement by statement. -/
theorem statements_covered {found : List Statement} (behind : Behind source ts c)
    (read : statements fuel c = .ok found) :
    ∃ new, new.map Tile.part = found.flatMap Statement.parts ∧
      Covered Part.Stands (ts ++ new) source := by
  induction fuel generalizing ts c found with
  | zero => simp [statements] at read
  | succ fuel ih =>
    rw [statements] at read
    split at read
    · rename_i d looked
      obtain ⟨w, parted⟩ := look_parted looked
      split at read
      · rename_i ended
        cases read
        obtain ⟨before, tiled, passed, -⟩ := behind
        have whole := (passed.trans parted.passed).rest
        have nothing : d.rest = [] := by simpa [Cursor.isEnd] using ended
        refine ⟨[], rfl, before, w, by simpa using tiled, by simpa [Cursor.start, nothing] using whole, ?_⟩
        rcases parted.between with ⟨-, ending⟩ | ⟨white, -⟩
        · exact ending
        · exact .white white
      · rename_i more
        obtain ⟨⟨first, e⟩, own, read⟩ := bind_eq_ok_iff.mp read
        obtain ⟨rest, others, read⟩ := bind_eq_ok_iff.mp read
        cases read
        have free : ¬ Blocked d := fun blocked => statement_blocked blocked _ own
        obtain ⟨new, parts, behind⟩ := statement_tiles (behind.fronts parted free) own
        obtain ⟨new', parts', covered⟩ := ih behind others
        exact ⟨new ++ new', by simp [parts, parts'], by simpa using covered⟩
    · contradiction

end
end Reader

/-- A body that can be read is covered by tiles in which the parts of its statements stand. -/
theorem standing_of_read {source : String} {found : List Statement}
    (read : statements source = .ok found) :
    ∃ ts, ts.map Tile.part = found.flatMap Statement.parts ∧
      Covered Part.Stands ts source.toList := by
  have behind : Behind source.toList [] (.start source.toList) :=
    ⟨[], .nil, .refl _, fun begun => absurd rfl begun⟩
  simpa using Reader.statements_covered behind read

/-- A body that can be read is covered by tiles for the parts of its statements. -/
theorem covered_of_read {source : String} {found : List Statement}
    (read : statements source = .ok found) :
    ∃ ts, ts.map Tile.part = found.flatMap Statement.parts ∧
      Covered Part.Fits ts source.toList := by
  obtain ⟨ts, parts, before, w, tiled, text, ending⟩ := standing_of_read read
  obtain ⟨ts', same, tiled'⟩ :
      ∃ ts', ts'.map Tile.part = ts.map Tile.part ∧ Tiled Part.Fits ts' before :=
    tiled.relabel (List.forall₂_same.mpr fun p _ before text stands => Part.Stands.fits stands)
  exact ⟨ts', same.trans parts, before, w, tiled', text, ending⟩

end Bindery.Body

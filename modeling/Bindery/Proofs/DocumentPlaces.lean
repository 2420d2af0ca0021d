import Mathlib.Data.List.Infix
import Bindery.Toml.Reader
import Bindery.Proofs.Outcomes

/- Where the reading of a document stops. Each part is read from what the part before it has left, so
   what is left is always an end of the document, and a fault tells a place that the document has. A
   number with too many digits is a run of them in the document. -/
namespace Bindery.Toml

variable {α β : Type} {cs ds rest : List Char}

/-! ### Ends of a text -/

/-- A run in the text has so many digits, and nothing but low lines among them. -/
def HoldsDigits (n : Nat) (cs : List Char) : Prop :=
  ∃ run, run <:+: cs ∧ run.countP isDigit = n ∧ ∀ c ∈ run, isDigit c = true ∨ c = '_'

/-- A stop that the text accounts for: its place is there, or its digits are. -/
def Stop.Inside (cs : List Char) : Stop → Prop
  | .malformed _ rest => rest <:+ cs
  | .tooManyDigits n => maxDigits < n ∧ HoldsDigits n cs

/-- What a reading leaves is an end of the text. -/
def Ends (cs : List Char) (r : Reading α) : Prop := r.2 <:+ cs

/-- A part of the text is read to something good, or the reading stops inside the text. -/
def Reads (P : α → Prop) (cs : List Char) : Except Stop α → Prop
  | .ok a => P a
  | .error stop => stop.Inside cs

theorem Stop.Inside.mono {stop : Stop} (inside : stop.Inside cs) (ends : cs <:+ ds) :
    stop.Inside ds := by
  cases stop with
  | malformed cause rest => exact inside.trans ends
  | tooManyDigits n =>
    obtain ⟨many, run, within, count, digits⟩ := inside
    exact ⟨many, run, within.trans ends.isInfix, count, digits⟩

namespace Reads

variable {P : α → Prop} {Q : β → Prop} {x : Except Stop α}

theorem ok {a : α} (holds : P a) : Reads P cs (.ok a) := holds

theorem stopped {cause : Cause} (ends : rest <:+ cs) :
    Reads P cs (.error (.malformed cause rest)) := ends

theorem fail {cause : Cause} {P : Reading α → Prop} (ends : rest <:+ cs) :
    Reads P cs (fail cause rest) := ends

theorem bind {f : α → Except Stop β} (first : Reads P cs x) (next : ∀ a, P a → Reads Q cs (f a)) :
    Reads Q cs (x >>= f) := by
  cases x with
  | ok a => exact next a first
  | error stop => exact first

theorem map {f : α → β} (first : Reads P cs x) (next : ∀ a, P a → Q (f a)) :
    Reads Q cs (x.map f) := by
  cases x with
  | ok a => exact next a first
  | error stop => exact first

theorem ite {c : Prop} [Decidable c] {y : Except Stop α} (yes : Reads P cs x) (no : Reads P cs y) :
    Reads P cs (if c then x else y) := by
  split
  · exact yes
  · exact no

theorem mono (reads : Reads P cs x) (ends : cs <:+ ds) {P' : α → Prop} (weaker : ∀ a, P a → P' a) :
    Reads P' ds x := by
  cases x with
  | ok a => exact weaker a reads
  | error stop => exact Stop.Inside.mono reads ends

/-- A part behind another one. -/
theorem behind {x : Except Stop (Reading α)} (reads : Reads (Ends cs) cs x) (ends : cs <:+ ds) :
    Reads (Ends ds) ds x :=
  reads.mono ends fun _ inner => List.IsSuffix.trans inner ends

theorem left {x : Except Stop (List Char)} (reads : Reads (· <:+ cs) cs x) (ends : cs <:+ ds) :
    Reads (· <:+ ds) ds x :=
  reads.mono ends fun _ inner => inner.trans ends

end Reads

theorem dropSpaces_ends (cs : List Char) : dropSpaces cs <:+ cs := List.dropWhile_suffix _

theorem dropSpaces_cons_ends {c : Char} (found : dropSpaces cs = c :: rest) : rest <:+ cs :=
  (List.suffix_cons c rest).trans (found ▸ dropSpaces_ends cs)

theorem checkRun_reads {bad : Char → Bool} {run : List Char} (ends : run ++ rest <:+ cs) :
    Reads (Ends cs) cs (checkRun bad run rest) := by
  unfold checkRun
  split
  · exact .ok ((List.suffix_append run rest).trans ends)
  · next c more found =>
    refine .fail (List.IsSuffix.trans ?_ ends)
    obtain ⟨passed, whole⟩ : c :: more <:+ run := found ▸ List.dropWhile_suffix _
    exact ⟨passed, by rw [← List.append_assoc, whole]⟩

theorem dropComment_reads (cs : List Char) : Reads (· <:+ cs) cs (dropComment cs) := by
  unfold dropComment
  split
  · next rest =>
    refine (checkRun_reads ?_).map fun _ ends => ends
    rw [List.takeWhile_append_dropWhile]
    exact List.suffix_cons _ rest
  · exact .ok (List.suffix_refl cs)

/-! ### Quoted text -/

theorem hexEscape_reads (width : Nat) (cs : List Char) : Reads (Ends cs) cs (hexEscape width cs) := by
  unfold hexEscape
  dsimp only
  split
  · exact .fail (List.suffix_refl cs)
  · split
    · exact .fail (List.suffix_refl cs)
    · exact .ite (.ok (List.drop_suffix width cs)) (.fail (List.drop_suffix width cs))

theorem lineJoin_reads (cs : List Char) : Reads (Ends cs) cs (lineJoin cs) := by
  unfold lineJoin
  split
  · exact .ok List.nil_suffix
  · next rest found => exact .ok ((List.dropWhile_suffix _).trans (dropSpaces_cons_ends found))
  · exact .fail (dropSpaces_ends cs)

theorem escape_reads (inLines : Bool) (cs : List Char) : Reads (Ends cs) cs (escape inLines cs) := by
  unfold escape
  split
  · exact .fail List.nil_suffix
  · next c rest =>
    have ends : rest <:+ c :: rest := List.suffix_cons c rest
    split_ifs
    · exact .ok ((List.dropWhile_suffix _).trans ends)
    · exact (lineJoin_reads rest).behind ends
    · exact (hexEscape_reads 4 rest).behind ends
    · exact (hexEscape_reads 8 rest).behind ends
    · split
      · exact .ok ends
      · exact .fail ends

theorem escapedText_reads (inLines : Bool) (fuel : Nat) (cs : List Char) :
    Reads (Ends cs) cs (escapedText inLines fuel cs) := by
  induction fuel generalizing cs with
  | zero => exact .fail (List.suffix_refl cs)
  | succ fuel ih =>
    -- Text further on is put behind what is read here, and its end stays the end.
    have further : ∀ {ds : List Char} (f : List Char → List Char), ds <:+ cs →
        Reads (Ends cs) cs (escapedText inLines fuel ds >>= fun r => pure (f r.1, r.2)) := by
      intro ds f ends
      exact ((ih ds).behind ends).bind fun _ inner => .ok inner
    unfold escapedText
    split
    · exact .fail List.nil_suffix
    · next rest =>
      have ends : rest <:+ '"' :: rest := List.suffix_cons _ rest
      split
      · exact .ok ends
      · split
        · next rest =>
          exact .ok (((List.suffix_cons _ rest).trans (List.suffix_cons _ _)).trans ends)
        · exact further _ ends
    · next rest =>
      refine ((escape_reads inLines rest).behind (List.suffix_cons _ rest)).bind ?_
      intro piece ends
      exact further _ ends
    · next c rest _ _ =>
      exact .ite (.fail (List.suffix_refl _)) (further _ (List.suffix_cons c rest))

theorem splitBefore?_parts {mark : List Char} {found : List Char × List Char}
    (split : splitBefore? mark cs = some found) : found.1 ++ found.2 = cs := by
  induction cs generalizing found with
  | nil =>
    rw [splitBefore?] at split
    split at split <;> cases split
    rfl
  | cons c cs ih =>
    rw [splitBefore?] at split
    split at split
    · cases split
      rfl
    · obtain ⟨inner, found', rfl⟩ := Option.map_eq_some_iff.mp split
      rw [List.cons_append, ih found']

theorem literalText_reads (inLines : Bool) (mark cs : List Char) :
    Reads (Ends cs) cs (literalText inLines mark cs) := by
  unfold literalText
  split
  · exact .fail List.nil_suffix
  · next text rest found =>
    have whole : text ++ rest = cs := splitBefore?_parts found
    refine (checkRun_reads (whole ▸ List.suffix_refl _)).bind ?_
    intro _ _
    exact .ok ((List.drop_suffix _ rest).trans ⟨text, whole⟩)

theorem shortText?_reads (cs : List Char) : Whenever (Reads (Ends cs) cs) (shortText? cs) := by
  unfold shortText?
  split
  · next rest => exact .some ((escapedText_reads false _ rest).behind (List.suffix_cons _ rest))
  · next rest => exact .some ((literalText_reads false _ rest).behind (List.suffix_cons _ rest))
  · exact .none

theorem dropFirstBreak_ends (cs : List Char) : dropFirstBreak cs <:+ cs := by
  unfold dropFirstBreak
  split
  · exact List.suffix_cons _ _
  · exact List.suffix_refl _

theorem withQuotesBehind_ends {quote : Char} {found : List Char × List Char} (ends : Ends cs found) :
    Ends cs (withQuotesBehind quote found) := (List.drop_suffix _ _).trans ends

theorem text?_reads (cs : List Char) : Whenever (Reads (Ends cs) cs) (text? cs) := by
  have opened : ∀ {q : Char} (rest : List Char), dropFirstBreak rest <:+ q :: q :: q :: rest :=
    fun rest => (dropFirstBreak_ends rest).trans
      (((List.suffix_cons _ rest).trans (List.suffix_cons _ _)).trans (List.suffix_cons _ _))
  unfold text?
  split
  · next rest =>
    exact .some (((escapedText_reads true _ _).behind (opened rest)).map fun _ =>
      withQuotesBehind_ends)
  · next rest =>
    exact .some (((literalText_reads true _ _).behind (opened rest)).map fun _ =>
      withQuotesBehind_ends)
  · exact shortText?_reads cs

/-! ### Scalars -/

/-- Digits are read with the low lines between them. -/
theorem moreDigits_parts {value? : Char → Option Nat} (plain : value? '_' = none) (cs : List Char) :
    ∃ run, cs = run ++ (moreDigits value? cs).2 ∧
      run.countP (fun c => (value? c).isSome) = (moreDigits value? cs).1.length ∧
      ∀ c ∈ run, (value? c).isSome = true ∨ c = '_' := by
  fun_induction moreDigits value? cs with
  | case1 c cs d digit ds rest read ih =>
    rw [read] at ih
    obtain ⟨run, whole, count, digits⟩ := ih
    refine ⟨'_' :: c :: run, by simp [whole], by simp [plain, digit, count], ?_⟩
    simpa [digit] using digits
  | case2 c cs => exact ⟨[], rfl, rfl, by simp⟩
  | case3 c cs _ d digit ds rest read ih =>
    rw [read] at ih
    obtain ⟨run, whole, count, digits⟩ := ih
    refine ⟨c :: run, by simp [whole], by simp [digit, count], ?_⟩
    simpa [digit] using digits
  | case4 c cs => exact ⟨[], rfl, rfl, by simp⟩
  | case5 => exact ⟨[], rfl, rfl, by simp⟩

theorem digits?_parts {value? : Char → Option Nat} (plain : value? '_' = none) (cs : List Char) :
    Whenever (fun r => ∃ run, cs = run ++ r.2 ∧
      run.countP (fun c => (value? c).isSome) = r.1.length ∧
      ∀ c ∈ run, (value? c).isSome = true ∨ c = '_') (digits? value? cs) := by
  unfold digits?
  split
  · next c cs =>
    rintro _ found
    obtain ⟨d, digit, ⟨⟩⟩ := Option.bind_eq_some_iff.mp found
    obtain ⟨run, whole, count, digits⟩ := moreDigits_parts plain cs
    refine ⟨c :: run, by simp [← whole], by simp [digit, count], ?_⟩
    simpa [digit] using digits
  · exact .none

theorem digits?_ends {value? : Char → Option Nat} (plain : value? '_' = none) (cs : List Char) :
    Whenever (Ends cs) (digits? value? cs) := by
  intro r found
  obtain ⟨run, whole, -⟩ := digits?_parts plain cs r found
  exact ⟨run, whole.symm⟩

theorem based?_ends (cs : List Char) : Whenever (Ends cs) (based? cs) := by
  have behind : ∀ {c d : Char} {base : Nat} {value? : Char → Option Nat} (rest : List Char),
      value? '_' = none → Whenever (Ends (c :: d :: rest)) ((digits? value? rest).map fun found =>
        (Value.integer (numberOf base found.1), found.2)) :=
    fun rest plain => (digits?_ends plain rest).map fun _ ends =>
      (List.IsSuffix.trans ends (List.suffix_cons _ rest)).trans (List.suffix_cons _ _)
  unfold based?
  dsimp only
  split
  · exact behind _ rfl
  · exact behind _ rfl
  · exact behind _ rfl
  · exact .none

theorem sign_ends (cs : List Char) : Ends cs (sign cs) := by
  unfold sign
  split
  · exact List.suffix_cons _ _
  · exact List.suffix_cons _ _
  · exact List.suffix_refl _

theorem decimal?_isSome (c : Char) : (decimal? c).isSome = isDigit c := by
  unfold decimal?
  split <;> simp_all

/-- The digits before the point, told by the run that they are read from. -/
theorem wholePart?_parts (cs : List Char) :
    Whenever (fun r => ∃ run, cs = run ++ r.2 ∧ run.countP isDigit = r.1.length ∧
      ∀ c ∈ run, isDigit c = true ∨ c = '_') (wholePart? cs) := by
  unfold wholePart?
  split
  · next rest =>
    refine .some ⟨['0'], rfl, rfl, ?_⟩
    intro c member
    rw [List.mem_singleton.mp member]
    exact .inl rfl
  · have parts := digits?_parts (show decimal? '_' = none from rfl) cs
    simpa only [decimal?_isSome] using parts

theorem fraction?_ends (cs : List Char) : Whenever (Ends cs) (fraction? cs) := by
  unfold fraction?
  split
  · next rest =>
    exact fun r found => List.IsSuffix.trans (digits?_ends rfl rest r found) (List.suffix_cons _ rest)
  · exact .none

theorem exponent?_ends (cs : List Char) : Whenever (Ends cs) (exponent? cs) := by
  unfold exponent?
  split
  · next c rest =>
    refine .ite ((digits?_ends rfl _).map fun r ends => ?_) .none
    exact (List.IsSuffix.trans ends (sign_ends rest)).trans (List.suffix_cons c rest)
  · exact .none

/-- What is left behind a part that may be missing. -/
theorem leftBehind {x : Option (Reading α)} (ends : Whenever (Ends cs) x) :
    (x.map Prod.snd).getD cs <:+ cs := by
  cases x with
  | none => exact List.suffix_refl cs
  | some r => exact ends r rfl

theorem decimalNumber?_reads (cs : List Char) : Whenever (Reads (Ends cs) cs) (decimalNumber? cs) := by
  unfold decimalNumber?
  have signed := sign_ends cs
  generalize sign cs = r at signed ⊢
  obtain ⟨minus, begun⟩ := r
  refine (wholePart?_parts begun).bind ?_
  rintro ⟨whole, rest⟩ ⟨run, parts, count, digits⟩
  have within : run <:+: cs := (List.IsInfix.trans ⟨[], rest, parts.symm⟩ (List.IsSuffix.isInfix signed))
  have ends : rest <:+ cs := List.IsSuffix.trans ⟨run, parts.symm⟩ signed
  have behindFraction := leftBehind (fraction?_ends rest)
  have left := ((leftBehind (exponent?_ends _)).trans behindFraction).trans ends
  dsimp only at *
  split
  · split
    · next many => exact .some ⟨many, run, within, count, digits⟩
    · exact .some left
  · exact .some left

/-! ### Dates and times -/

theorem fixed?_ends (width : Nat) (cs : List Char) : Whenever (Ends cs) (fixed? width cs) := by
  unfold fixed?
  exact .ite (.some (List.drop_suffix width cs)) .none

theorem pair?_ends (least greatest : Nat) (cs : List Char) :
    Whenever (Ends cs) (pair? least greatest cs) := by
  unfold pair?
  exact (fixed?_ends 2 cs).bind fun _ ends => .ite (.some ends) .none

theorem mark?_ends (c : Char) (cs : List Char) : Whenever (· <:+ cs) (mark? c cs) := by
  unfold mark?
  split
  · exact .ite (.some (List.suffix_cons _ _)) .none
  · exact .none

theorem microseconds_ends (cs : List Char) : Ends cs (microseconds cs) := by
  unfold microseconds
  split
  · next rest =>
    dsimp only
    split
    · exact List.suffix_refl _
    · exact (List.drop_suffix _ rest).trans (List.suffix_cons _ rest)
  · exact List.suffix_refl _

/-- A mark and two digits, and what is read behind them. -/
theorem markedPair?_then {c : Char} {least greatest : Nat} {f : Nat × List Char → Option β}
    {Q : β → Prop} (ends : rest <:+ cs) (next : ∀ n (rest : List Char), rest <:+ cs → Whenever Q (f (n, rest))) :
    Whenever Q (mark? c rest >>= fun inner => pair? least greatest inner >>= f) :=
  (mark?_ends c rest).bind fun _ marked => (pair?_ends least greatest _).bind fun r paired =>
    next r.1 r.2 ((List.IsSuffix.trans paired marked).trans ends)

theorem time?_ends (cs : List Char) : Whenever (Ends cs) (time? cs) := by
  unfold time?
  refine (pair?_ends 0 23 cs).bind fun ⟨hour, rest⟩ ends => ?_
  refine markedPair?_then ends fun minute rest ends => ?_
  refine markedPair?_then ends fun second rest ends => ?_
  exact .some (List.IsSuffix.trans (microseconds_ends rest) ends)

theorem date?_ends (cs : List Char) : Whenever (Ends cs) (date? cs) := by
  unfold date?
  refine (fixed?_ends 4 cs).bind fun ⟨year, rest⟩ ends => ?_
  refine markedPair?_then ends fun month rest ends => ?_
  exact markedPair?_then ends fun day rest ends => .some ends

theorem offsetMinutes?_ends (cs : List Char) : Whenever (Ends cs) (offsetMinutes? cs) := by
  unfold offsetMinutes?
  refine (pair?_ends 0 23 cs).bind fun ⟨hours, rest⟩ ends => ?_
  exact markedPair?_then ends fun minutes rest ends => .some ends

theorem offset_ends (cs : List Char) : Ends cs (offset cs) := by
  unfold offset
  split
  · next c rest =>
    have one : rest <:+ c :: rest := List.suffix_cons c rest
    split
    · exact one
    · split
      · split
        · next n rest' found => exact List.IsSuffix.trans (offsetMinutes?_ends rest _ found) one
        · exact List.suffix_refl _
      · exact List.suffix_refl _
  · exact List.suffix_refl _

theorem timeBehind?_ends (cs : List Char) : Whenever (Ends cs) (timeBehind? cs) := by
  unfold timeBehind?
  split
  · next c rest =>
    exact .ite (fun r found => List.IsSuffix.trans (time?_ends rest r found) (List.suffix_cons c rest))
      .none
  · exact .none

theorem moment?_reads (cs : List Char) : Whenever (Reads (Ends cs) cs) (moment? cs) := by
  unfold moment?
  refine (date?_ends cs).bind fun ⟨d, rest⟩ ends => ?_
  dsimp only
  split
  · exact .some (.fail (List.suffix_refl cs))
  · split
    · exact .some ends
    · next t rest' found =>
      have timed : rest' <:+ cs := List.IsSuffix.trans (timeBehind?_ends rest _ found) ends
      exact .some (List.IsSuffix.trans (offset_ends rest') timed)

theorem namedNumber?_ends (cs : List Char) : Whenever (Ends cs) (namedNumber? cs) := by
  unfold namedNumber?
  have signed := sign_ends cs
  generalize sign cs = r at signed ⊢
  exact .ite (.some ((List.drop_suffix 3 _).trans signed))
    (.ite (.some ((List.drop_suffix 3 _).trans signed)) .none)

theorem scalar?_reads (cs : List Char) : Whenever (Reads (Ends cs) cs) (scalar? cs) := by
  unfold scalar?
  split
  · next found => exact .some (moment?_reads cs _ found)
  · split
    · next found => exact .some (time?_ends cs _ found)
    · split
      · next found => exact .some (based?_ends cs _ found)
      · split
        · next found => exact .some (decimalNumber?_reads cs _ found)
        · exact (namedNumber?_ends cs).map fun _ ends => .ok ends

/-! ### Keys -/

theorem keyPart_reads (cs : List Char) : Reads (Ends cs) cs (keyPart cs) := by
  unfold keyPart
  split
  · next found => exact (shortText?_reads cs _ found).map fun _ ends => ends
  · split
    · exact .fail (List.suffix_refl cs)
    · exact .ok (List.drop_suffix _ cs)

theorem keyParts_reads (fuel : Nat) (cs : List Char) : Reads (Ends cs) cs (keyParts fuel cs) := by
  induction fuel generalizing cs with
  | zero => exact .ok (List.suffix_refl cs)
  | succ fuel ih =>
    unfold keyParts
    split
    · next rest found =>
      have ends := (dropSpaces_ends rest).trans (dropSpaces_cons_ends found)
      refine ((keyPart_reads _).behind ends).bind fun ⟨name, rest⟩ ends => ?_
      exact ((ih rest).behind ends).bind fun _ ends => .ok ends
    · exact .ok (dropSpaces_ends cs)

theorem key_reads (cs : List Char) : Reads (Ends cs) cs (key cs) := by
  unfold key
  refine (keyPart_reads cs).bind fun ⟨name, rest⟩ ends => ?_
  exact ((keyParts_reads _ rest).behind ends).bind fun _ ends => .ok ends

/-! ### Values -/

theorem dropFiller_reads (fuel : Nat) (cs : List Char) : Reads (· <:+ cs) cs (dropFiller fuel cs) := by
  induction fuel generalizing cs with
  | zero => exact .ok (List.suffix_refl cs)
  | succ fuel ih =>
    unfold dropFiller
    split
    · next rest found =>
      have ends : '#' :: rest <:+ cs := found ▸ List.dropWhile_suffix _
      exact ((dropComment_reads _).left ends).bind fun left ends => (ih left).left ends
    · exact .ok (List.dropWhile_suffix _)

theorem filler_reads (cs : List Char) : Reads (· <:+ cs) cs (filler cs) := dropFiller_reads _ cs

theorem equals_reads (cs : List Char) : Reads (· <:+ cs) cs (equals cs) := by
  unfold equals
  split
  · next rest => exact .ok ((dropSpaces_ends rest).trans (List.suffix_cons _ rest))
  · exact .stopped (List.suffix_refl cs)

theorem InlineTable.put_reads (t : InlineTable) (k : Key) (v : Value) (ends : rest <:+ cs) :
    Reads (fun _ => True) cs (t.put k v rest) := by
  unfold InlineTable.put
  split
  · exact .stopped ends
  · split
    · exact .stopped ends
    · exact .stopped ends
    · exact .ok trivial

/-- Values, the items of arrays and the entries of inline tables, by the fuel that they share. -/
theorem values_read (fuel : Nat) :
    (∀ cs, Reads (Ends cs) cs (value fuel cs)) ∧
    (∀ cs, Reads (Ends cs) cs (arrayItems fuel cs)) ∧
    ∀ t cs, Reads (Ends cs) cs (inlineEntries fuel t cs) := by
  induction fuel with
  | zero =>
    exact ⟨fun cs => .fail (List.suffix_refl cs), fun cs => .fail (List.suffix_refl cs),
      fun t cs => .fail (List.suffix_refl cs)⟩
  | succ fuel ih =>
    obtain ⟨value_, items_, entries_⟩ := ih
    refine ⟨fun cs => ?_, fun cs => ?_, fun t cs => ?_⟩
    · unfold value
      split
      · next found => exact (text?_reads cs _ found).map fun _ ends => ends
      · split
        · next rest _ =>
          refine ((filler_reads rest).left (List.suffix_cons _ rest)).bind fun left ends => ?_
          exact ((items_ left).behind ends).bind fun _ ends => .ok ends
        · next rest _ =>
          have ends : dropSpaces rest <:+ '\x7b' :: rest :=
            (dropSpaces_ends rest).trans (List.suffix_cons _ rest)
          split
          · next rest' found => exact .ok ((List.suffix_cons _ rest').trans (found ▸ ends))
          · exact (entries_ {} _).behind ends
        · refine .ite (.ok (List.drop_suffix 4 cs)) (.ite (.ok (List.drop_suffix 5 cs)) ?_)
          cases found : scalar? cs with
          | none => exact .fail (List.suffix_refl cs)
          | some step => exact scalar?_reads cs _ found
    · unfold arrayItems
      split
      · next rest => exact .ok (List.suffix_cons _ rest)
      · refine (value_ cs).bind fun ⟨v, rest⟩ ends => ?_
        refine ((filler_reads rest).left ends).bind fun left ends => ?_
        split
        · next rest => exact .ok ((List.suffix_cons _ rest).trans ends)
        · next rest =>
          have ends := (List.suffix_cons _ rest).trans ends
          refine ((filler_reads rest).left ends).bind fun left ends => ?_
          exact ((items_ left).behind ends).bind fun _ ends => .ok ends
        · exact .fail ends
    · unfold inlineEntries
      refine (key_reads cs).bind fun ⟨name, rest⟩ ends => ?_
      refine ((equals_reads rest).left ends).bind fun left ends => ?_
      refine ((value_ left).behind ends).bind fun ⟨v, rest⟩ ends => ?_
      refine (t.put_reads name v ends).bind fun t' _ => ?_
      have ends := (dropSpaces_ends rest).trans ends
      split
      · next rest' found => exact .ok ((List.suffix_cons _ rest').trans (found ▸ ends))
      · next rest' found =>
        have ends := (List.suffix_cons _ rest').trans (found ▸ ends)
        exact (entries_ t' _).behind ((dropSpaces_ends rest').trans ends)
      · exact .fail ends

/-! ### Statements -/

namespace Document

theorem open_reads (d : Document) (k : Key) (ends : rest <:+ cs) :
    Reads (fun _ => True) cs (d.open_ k rest) := by
  unfold open_
  split
  · exact .stopped ends
  · split
    · exact .stopped ends
    · exact .ok trivial

theorem append_reads (d : Document) (k : Key) (ends : rest <:+ cs) :
    Reads (fun _ => True) cs (d.append k rest) := by
  unfold append
  split
  · exact .stopped ends
  · split
    · exact .stopped ends
    · exact .ok trivial

theorem pass_reads (d : Document) (ends : rest <:+ cs) (ks : List Key) :
    Reads (fun _ => True) cs (d.pass rest ks) := by
  induction ks generalizing d with
  | nil => exact .ok trivial
  | cons k ks ih =>
    unfold pass
    exact .ite (.stopped ends) (ih _)

theorem put_reads (d : Document) (k : Key) (v : Value) (ends : rest <:+ cs) :
    Reads (fun _ => True) cs (d.put k v rest) := by
  unfold put
  refine (d.pass_reads ends _).bind fun d' _ => ?_
  dsimp only
  split
  · exact .stopped ends
  · split
    · exact .stopped ends
    · exact .ok trivial

end Document

theorem header_reads (d : Document) (cs : List Char) : Reads (Ends cs) cs (header d cs) := by
  unfold header
  dsimp only
  split
  · next rest =>
    have ends : dropSpaces rest <:+ '[' :: rest :=
      (dropSpaces_ends rest).trans (List.suffix_cons _ rest)
    refine ((key_reads _).behind ends).bind fun ⟨k, rest⟩ ends => ?_
    refine (Document.append_reads _ k ends).bind fun d' _ => ?_
    dsimp only
    split
    · next rest =>
      exact .ok (((List.suffix_cons _ rest).trans (List.suffix_cons _ _)).trans ends)
    · exact .fail ends
  · refine ((key_reads _).behind (dropSpaces_ends cs)).bind fun ⟨k, rest⟩ ends => ?_
    refine (Document.open_reads _ k ends).bind fun d' _ => ?_
    dsimp only
    split
    · next rest => exact .ok ((List.suffix_cons _ rest).trans ends)
    · exact .fail ends

theorem statement_reads (d : Document) (cs : List Char) : Reads (Ends cs) cs (statement d cs) := by
  unfold statement
  split
  · next rest => exact (header_reads d rest).behind (List.suffix_cons _ rest)
  · exact .ok (List.suffix_refl _)
  · next c rest _ _ =>
    split
    · refine (key_reads _).bind fun ⟨k, rest⟩ ends => ?_
      refine ((equals_reads rest).left ends).bind fun left ends => ?_
      refine (((values_read _).1 left).behind ends).bind fun ⟨v, rest⟩ ends => ?_
      exact (d.put_reads k v ends).bind fun _ _ => .ok ends
    · exact .fail (List.suffix_refl _)
  · exact .ok (List.suffix_refl _)

theorem statements_reads (fuel : Nat) (d : Document) (cs : List Char) :
    Reads (fun _ => True) cs (statements fuel d cs) := by
  induction fuel generalizing d cs with
  | zero => exact .ok trivial
  | succ fuel ih =>
    have further : ∀ (d : Document) {rest : List Char}, rest <:+ cs →
        Reads (fun _ => True) cs (statements fuel d rest) :=
      fun d rest ends => (ih d rest).mono ends fun _ _ => trivial
    unfold statements
    split
    · exact .ok trivial
    · next rest found => exact further d (dropSpaces_cons_ends found)
    · refine ((statement_reads d _).behind (dropSpaces_ends cs)).bind fun ⟨d', rest⟩ ends => ?_
      have ends := (dropSpaces_ends rest).trans ends
      refine ((dropComment_reads _).left ends).bind fun left ends => ?_
      split
      · exact .ok trivial
      · next rest => exact further d' ((List.suffix_cons _ rest).trans ends)
      · exact .stopped ends

/-! ### Documents -/

theorem prefix_of_unifyBreaks {run : List Char} (unbroken : '\n' ∉ run) (begins : run <+: unifyBreaks cs) :
    run <+: cs := by
  induction run generalizing cs with
  | nil => exact List.nil_prefix
  | cons d run ih =>
    obtain ⟨other, unbroken⟩ := List.ne_and_not_mem_of_not_mem_cons unbroken
    unfold unifyBreaks at begins
    split at begins
    · exact absurd (List.cons_prefix_cons.mp begins).1.symm other
    · obtain ⟨rfl, further⟩ := List.cons_prefix_cons.mp begins
      exact List.cons_prefix_cons.mpr ⟨rfl, ih unbroken further⟩
    · exact begins

/-- A run without line breaks is in the source as it is in the document. -/
theorem infix_of_unifyBreaks {run : List Char} (unbroken : '\n' ∉ run) (within : run <:+: unifyBreaks cs) :
    run <:+: cs := by
  fun_induction unifyBreaks cs with
  | case1 cs ih =>
    rcases List.infix_cons_iff.mp within with begins | later
    · have begins : run <+: unifyBreaks ('\r' :: '\n' :: cs) := begins
      exact (prefix_of_unifyBreaks unbroken begins).isInfix
    · exact ((ih later).trans (List.suffix_cons _ cs).isInfix).trans (List.suffix_cons _ _).isInfix
  | case2 c cs other ih =>
    rcases List.infix_cons_iff.mp within with begins | later
    · have begins : run <+: unifyBreaks (c :: cs) := by rwa [unifyBreaks.eq_2 c cs other]
      exact (prefix_of_unifyBreaks unbroken begins).isInfix
    · exact (ih later).trans (List.suffix_cons c cs).isInfix
  | case3 => exact within

/-- What keeps a document from being read is at a place of it: at the line and the column of what is
    left there, or at the end when nothing is. Or a number has too many digits, and they are there. -/
theorem read_refused {source : List Char} {fault : Fault} (refused : read source = .error fault) :
    (∃ cause before rest, before ++ rest = unifyBreaks source ∧
      fault = .malformed cause (if rest.isEmpty then none else some (placeBehind before))) ∨
    ∃ n, fault = .tooManyDigits n ∧ maxDigits < n ∧ HoldsDigits n source := by
  have reads := statements_reads ((unifyBreaks source).length + 1) {} (unifyBreaks source)
  unfold read at refused
  dsimp only at refused
  split at refused
  · cases refused
  · next stop stopped =>
    rw [stopped] at reads
    cases refused
    cases stop with
    | malformed cause rest =>
      obtain ⟨before, whole⟩ := reads
      refine .inl ⟨cause, before, rest, whole, ?_⟩
      have taken : (unifyBreaks source).take ((unifyBreaks source).length - rest.length) = before := by
        simp [← whole]
      rw [Stop.inDocument, taken]
    | tooManyDigits n =>
      obtain ⟨many, run, within, count, digits⟩ := reads
      refine .inr ⟨n, rfl, many, run, infix_of_unifyBreaks ?_ within, count, digits⟩
      intro broken
      rcases digits '\n' broken with digit | low
      · cases digit
      · cases low

end Bindery.Toml

import Bindery.Expr.Printer
import Bindery.Proofs.Number.NumeralTexts
import Bindery.Proofs.QuotedNames

/- The printed form of constants and of formatted text. A line break that is written at all is one of
   the text: it is a line feed that stands for itself, which a text has only in a field. -/
namespace Bindery

namespace Text

theorem escaped_printable (c : Char) : ∀ d ∈ escaped c, isPrintable d = true :=
  (stands_escaped '\'' c).printable

theorem encodeWith_printable {quote : Char} (isQuote : Token.isQuote quote = true) (cs : List Char) :
    ∀ c ∈ Quoted.encodeWith quote cs, isPrintable c = true := by
  have own : isPrintable quote = true := by
    have quotes : quote = '\'' ∨ quote = '"' := by simpa [Token.isQuote] using isQuote
    rcases quotes with rfl | rfl <;> decide
  simp only [Quoted.encodeWith, List.cons_append, List.forall_mem_cons, List.forall_mem_append,
    List.mem_flatMap, List.not_mem_nil, false_implies, implies_true, and_true]
  refine ⟨own, ?_, own⟩
  rintro c ⟨d, -, member⟩
  exact (stands_encodeChar isQuote d).printable c member

theorem oneLine_quoted (s : String) : OneLine (quoted s) := fun _ => break_notMem_quoted s

theorem oneLine_quotedBytes (bs : List UInt8) : OneLine (quotedBytes bs) := by
  refine .of_printable fun c member => ?_
  have own : isPrintable (Quoted.quoteFor (bs.map fun b => Char.ofNat b.toNat)) = true := by
    unfold Quoted.quoteFor
    split <;> decide
  simp only [quotedBytes, String.toList_ofList, List.cons_append, List.mem_cons, List.mem_append,
    List.mem_flatMap, List.not_mem_nil, or_false] at member
  rcases member with rfl | rfl | ⟨d, -, within⟩ | rfl
  · decide
  · exact own
  · split at within
    · next same =>
      rcases List.mem_pair.mp within with rfl | rfl
      · decide
      · exact same ▸ own
    · split at within
      · next plain =>
        simp only [ne_eq, Bool.and_eq_true, decide_eq_true_eq] at plain
        rw [List.mem_singleton.mp within]
        simp [isPrintable, plain.1.2, plain.2]
      · exact escaped_printable d c within
  · exact own

end Text

namespace Printer

open Text

variable {c : Char}

/-! ### Text between delimiters -/

theorem escapeChar_breaks {breaksToo : Bool} {d : Char} (ends : c ∈ lineBreaks)
    (member : c ∈ escapeChar breaksToo d) : c = d ∧ breaksToo = false := by
  unfold escapeChar at member
  split at member
  · next plain =>
    simp only [Bool.and_eq_true, Bool.not_eq_true'] at plain
    exact ⟨List.mem_singleton.mp member, plain.1⟩
  · split at member
    · exact absurd ends (notMem_lineBreaks (escaped_printable d c member))
    · next printable =>
      simp only [Bool.or_eq_true, Bool.not_eq_true', not_or, Bool.not_eq_false] at printable
      rw [List.mem_singleton.mp member] at ends
      exact absurd ends (notMem_lineBreaks printable.2)

theorem body_breaks {s : List Char} {breaksToo : Bool} (ends : c ∈ lineBreaks)
    (member : c ∈ s.flatMap (escapeChar breaksToo)) : c ∈ s ∧ breaksToo = false := by
  obtain ⟨d, among, within⟩ := List.mem_flatMap.mp member
  obtain ⟨rfl, kept⟩ := escapeChar_breaks ends within
  exact ⟨among, kept⟩

theorem enclose_breaks {s : List Char} {quotes : List String} {breaksToo : Bool}
    (ends : c ∈ lineBreaks) (member : c ∈ (enclose s quotes breaksToo).1) :
    c ∈ s ∧ breaksToo = false := by
  have notQuoted : c ∉ Quoted.encode s := fun quoted =>
    notMem_lineBreaks (encodeWith_printable (isQuote_quoteFor s) s c quoted) ends
  unfold enclose at member
  extract_lets body possible possible' at member
  split at member
  · exact absurd (List.mem_of_mem_drop (List.mem_of_mem_dropLast member)) notQuoted
  · split at member
    · exact body_breaks ends member
    · next last found =>
      dsimp only at member
      split at member
      · rcases List.mem_append.mp member with front | back
        · exact body_breaks ends (List.mem_of_mem_dropLast front)
        · rcases List.mem_pair.mp back with rfl | rfl
          · exact absurd ends (by decide)
          · exact body_breaks ends (List.mem_of_getLast? found)
      · exact body_breaks ends member

theorem enclose_quotes {s : List Char} {quotes : List String} {breaksToo : Bool}
    (single : ∀ q ∈ quotes, OneLine q) : ∀ q ∈ (enclose s quotes breaksToo).2, OneLine q := by
  intro q member
  unfold enclose at member
  extract_lets body possible possible' form quote chosen at member
  have among : ∀ q ∈ possible', OneLine q := by
    intro q member
    have kept : q ∈ possible := List.mem_of_mem_filter member
    dsimp only [possible] at kept
    split at kept
    · exact single q (List.mem_of_mem_filter kept)
    · exact single q kept
  split at member
  · rw [List.mem_singleton.mp member]
    cases found : quotes.find? fun q => q.toList.contains quote with
    | some q =>
      rw [show chosen = q by simp only [chosen, found, Option.getD_some]]
      exact single q (List.mem_of_find?_eq_some found)
    | none =>
      rw [show chosen = String.ofList [quote] by simp only [chosen, found, Option.getD_none]]
      refine .of_printable fun c inQuote => ?_
      rw [String.toList_ofList, List.mem_singleton] at inQuote
      subst inQuote
      exact encodeWith_printable (isQuote_quoteFor s) s _
        (by simp [quote, form, Quoted.encode, Quoted.encodeWith])
  · split at member
    · exact among q member
    · rcases List.mem_append.mp member with first | last
      · exact among q (List.mem_of_mem_filter first)
      · exact among q (List.mem_of_mem_filter last)

theorem oneLine_allQuotes : ∀ q ∈ allQuotes, OneLine q := by decide

theorem oneLine_headD {quotes : List String} (single : ∀ q ∈ quotes, OneLine q) :
    OneLine (quotes.headD "'") := by
  cases quotes with
  | nil => decide
  | cons q quotes => exact single q List.mem_cons_self

/-- Text in its own delimiters has no line break but those it had. -/
theorem plainText_breaks {s : List Char} (ends : c ∈ lineBreaks) (member : c ∈ (plainText s).toList) :
    c ∈ s := by
  have delimiter : OneLine ((enclose s allQuotes false).2.headD "'") :=
    oneLine_headD (enclose_quotes oneLine_allQuotes)
  simp only [plainText, String.toList_append, String.toList_ofList, List.mem_append] at member
  rcases member with (front | body) | back
  · exact absurd front (delimiter c ends)
  · exact (enclose_breaks ends body).1
  · exact absurd back (delimiter c ends)

/-! ### Formatted text -/

theorem narrow_breaks {quotes quotes' : List String} {parts : List Part} {body : List Char}
    (single : ∀ q ∈ quotes, OneLine q) (narrowed : narrow quotes parts = some (body, quotes')) :
    (∀ c ∈ lineBreaks, c ∈ body → ∃ part ∈ parts, part.2 = false ∧ c ∈ part.1.toList) ∧
      ∀ q ∈ quotes', OneLine q := by
  induction parts generalizing quotes body with
  | nil =>
    cases narrowed
    exact ⟨fun _ _ member => absurd member List.not_mem_nil, single⟩
  | cons part parts ih =>
    obtain ⟨s, isLiteral⟩ := part
    unfold narrow at narrowed
    dsimp only at narrowed
    split at narrowed
    · obtain ⟨⟨more, last⟩, rest, same⟩ := Option.map_eq_some_iff.mp narrowed
      cases same
      obtain ⟨later, delimiters⟩ := ih (enclose_quotes single) rest
      refine ⟨fun c ends member => ?_, delimiters⟩
      rcases List.mem_append.mp member with here | behind
      · obtain ⟨within, open_⟩ := enclose_breaks ends here
        exact ⟨(s, isLiteral), List.mem_cons_self, open_, within⟩
      · obtain ⟨part, among, open_, within⟩ := later c ends behind
        exact ⟨part, List.mem_cons_of_mem _ among, open_, within⟩
    · cases narrowed

theorem requote_printable (parts : List Part) : ∀ c ∈ requote parts, isPrintable c = true := by
  intro c member
  obtain ⟨part, -, within⟩ := List.mem_flatMap.mp member
  exact encodeWith_printable (by decide) _ c (List.mem_of_mem_drop (List.mem_of_mem_dropLast within))

/-- Formatted text has no line break but those of its fields; inside of a field, of all its parts. -/
theorem joinParts_breaks {inField : Bool} {parts : List Part} (ends : c ∈ lineBreaks)
    (member : c ∈ (joinParts inField parts).toList) :
    ∃ part ∈ parts, (part.2 = false ∨ inField = true) ∧ c ∈ part.1.toList := by
  have mark : OneLine "f" := by decide
  unfold joinParts at member
  split at member
  · next inside =>
    rw [String.toList_append, List.mem_append] at member
    obtain ⟨part, among, within⟩ := List.mem_flatMap.mp
      (plainText_breaks ends (member.resolve_left (mark c ends)))
    exact ⟨part, among, .inr inside, within⟩
  · split at member
    · next body quotes narrowed =>
      obtain ⟨open_, delimiters⟩ := narrow_breaks oneLine_allQuotes narrowed
      have delimiter := oneLine_headD delimiters
      simp only [String.toList_append, String.toList_ofList, List.mem_append] at member
      rcases member with ((front | first) | inBody) | last
      · exact absurd front (mark c ends)
      · exact absurd first (delimiter c ends)
      · obtain ⟨part, among, isField, within⟩ := open_ c ends inBody
        exact ⟨part, among, .inl isField, within⟩
      · exact absurd last (delimiter c ends)
    · have front : OneLine "f'''" := by decide
      have back : OneLine "'''" := by decide
      simp only [String.toList_append, String.toList_ofList, List.mem_append] at member
      rcases member with (first | inBody) | last
      · exact absurd first (front c ends)
      · exact absurd ends (notMem_lineBreaks (requote_printable parts c inBody))
      · exact absurd last (back c ends)

theorem doubleBraces_brokenBy (s : String) : BrokenBy [s] (doubleBraces s) := by
  intro c ends member
  rw [doubleBraces, String.toList_ofList] at member
  obtain ⟨d, among, within⟩ := List.mem_flatMap.mp member
  have same : c = d := by
    split at within <;> simpa using within
  exact ⟨s, List.mem_singleton_self s, same ▸ among⟩

/-! ### Constants -/

theorem notMem_magnitudeText (x : Number.Binary64) (whole : Bool) (ends : c ∈ lineBreaks) :
    c ∉ Number.magnitudeText x whole := by
  intro member
  have shown : (c.isDigit || (Number.numeralMarks ++ ['i', 'n', 'f']).contains c) = true := by
    simpa using Number.magnitudeText_chars x whole c member
  exact notMem_lineBreaks_of
    (p := fun c => c.isDigit || (Number.numeralMarks ++ ['i', 'n', 'f']).contains c) (by decide) shown
    ends

theorem notMem_sign (negative : Bool) (ends : c ∈ lineBreaks) :
    c ∉ if negative then ['-'] else [] := by
  cases negative
  · simp
  · rintro member
    rw [List.mem_singleton.mp member] at ends
    exact absurd ends (by decide)

theorem oneLine_realText (x : Number.Binary64) : OneLine (realText x) := by
  unfold realText
  split
  · decide
  · intro c ends
    simp [Number.Binary64.text, notMem_magnitudeText x true ends, notMem_sign x.negative ends]

theorem oneLine_imaginaryText (x : Number.Binary64) : OneLine (imaginaryText x) := by
  unfold imaginaryText
  split
  · decide
  · intro c ends
    have other : c ≠ 'j' := by
      rintro rfl
      exact absurd ends (by decide)
    simp [Number.Binary64.imaginaryText, notMem_magnitudeText x false ends,
      notMem_sign x.negative ends, other]

end Printer

namespace Constant

/-- The texts that a constant shows as they are: a text does inside of a field. -/
def fieldTexts (inField : Bool) : Constant → List String
  | .text s _ => if inField then [s] else []
  | _ => []

end Constant

namespace Printer

open Text

theorem constantText_brokenBy (inField : Bool) (k : Constant) :
    Gives (constantText inField k) (BrokenBy (k.fieldTexts inField)) := by
  cases k with
  | integer n =>
    rw [constantText, integerText]
    split
    · exact .ok (.of_oneLine (.number n))
    · exact .error
  | real x => exact .ok (.of_oneLine (oneLine_realText x))
  | imaginary x => exact .ok (.of_oneLine (oneLine_imaginaryText x))
  | text s marked =>
    have mark : OneLine (if marked then "u" else "") := by cases marked <;> decide
    refine .ok (.behind mark ?_)
    cases inField with
    | false => exact .of_oneLine (oneLine_quoted s)
    | true =>
      exact fun c ends member => ⟨s, List.mem_singleton_self s, plainText_breaks ends member⟩
  | bytes bs => exact .ok (.of_oneLine (oneLine_quotedBytes bs))
  | _ => exact .ok (.of_oneLine (by decide))

end Printer
end Bindery

import Bindery.Expr.Token
import Bindery.Glue
import Bindery.Proofs.LineBreaks
import Bindery.Proofs.Outcomes
import Bindery.Proofs.PathTexts
import Mathlib.Algebra.GroupWithZero.Nat
import Mathlib.Data.List.Basic
import Mathlib.Tactic.Common

/- Names in the glue. Quoted text is one literal: the first quote that no backslash keeps is the last
   one written, and every character or escape between the quotes is read as the character it was
   written for. All characters of quoted text are printable, so it ends no line. -/
namespace Bindery

namespace Text

/-! ### Digits -/

theorem hexChar_reads : ∀ d, d < 16 → hexDigit (hexChar d) = d ∧
    TextLiteral.isHex (hexChar d) = true ∧ isPrintable (hexChar d) = true ∧ hexChar d ≠ '\\' ∧
    Token.isQuote (hexChar d) = false := by decide

theorem mem_hexDigits {width n : Nat} {c : Char} (member : c ∈ hexDigits width n) :
    ∃ d, d < 16 ∧ c = hexChar d := by
  induction width generalizing n with
  | zero => simp [hexDigits] at member
  | succ width ih =>
    simp only [hexDigits, List.mem_append, List.mem_singleton] at member
    rcases member with earlier | last
    · exact ih earlier
    · exact ⟨n % 16, Nat.mod_lt n (by decide), last⟩

theorem length_hexDigits (width n : Nat) : (hexDigits width n).length = width := by
  induction width generalizing n with
  | zero => rfl
  | succ width ih => simp [hexDigits, ih]

/-- Digits are read as the part of the number that they have room for. -/
theorem hexNumber_hexDigits (width n : Nat) : hexNumber (hexDigits width n) = n % 16 ^ width := by
  induction width generalizing n with
  | zero => simp [hexDigits, hexNumber, Nat.mod_one]
  | succ width ih =>
    have last := (hexChar_reads (n % 16) (Nat.mod_lt n (by decide))).1
    have earlier := ih (n / 16)
    simp only [hexNumber] at earlier ⊢
    rw [hexDigits, List.foldl_append, earlier, List.foldl_cons, List.foldl_nil, last, Nat.pow_succ,
      Nat.mul_comm (16 ^ width) 16, Nat.mod_mul]
    omega

theorem hexEscape?_hexDigits (width : Nat) {n : Nat} (room : n < 16 ^ width) (cs : List Char) :
    TextLiteral.hexEscape? width (hexDigits width n ++ cs) = some (n, cs) := by
  have digits : (hexDigits width n).all TextLiteral.isHex = true := by
    refine List.all_eq_true.mpr fun c member => ?_
    obtain ⟨d, small, rfl⟩ := mem_hexDigits member
    exact (hexChar_reads d small).2.1
  have first : (hexDigits width n ++ cs).take width = hexDigits width n := by
    simp [length_hexDigits]
  have behind : (hexDigits width n ++ cs).drop width = cs := by
    simp [length_hexDigits]
  simp [TextLiteral.hexEscape?, first, behind, length_hexDigits, digits, hexNumber_hexDigits,
    Nat.mod_eq_of_lt room]

/-! ### Characters -/

/-- How a character stands between quotes: for itself, or behind a backslash. -/
inductive Stands (quote c : Char) : List Char → Prop where
  | plain (printable : isPrintable c = true) (noQuote : c ≠ quote) (noBackslash : c ≠ '\\') :
      Stands quote c [c]
  | escaped {key : Char} {digits : List Char} (printable : isPrintable key = true)
      (harmless : ∀ d ∈ digits, isPrintable d = true ∧ d ≠ '\\' ∧ Token.isQuote d = false)
      (reads : ∀ cs, TextLiteral.textEscape? (key :: (digits ++ cs)) = some ([c], cs)) :
      Stands quote c ('\\' :: key :: digits)

theorem stands_numericEscape (quote c : Char) : Stands quote c (numericEscape c.toNat) := by
  have harmless : ∀ width, ∀ d ∈ hexDigits width c.toNat,
      isPrintable d = true ∧ d ≠ '\\' ∧ Token.isQuote d = false := by
    intro width d member
    obtain ⟨n, small, rfl⟩ := mem_hexDigits member
    exact (hexChar_reads n small).2.2
  have whole : Char.ofNat c.toNat = c := Char.ofNat_toNat c
  unfold numericEscape
  split
  · rename_i room
    refine .escaped (by decide) (harmless 2) fun cs => ?_
    simp [TextLiteral.textEscape?, hexEscape?_hexDigits 2 room, whole]
  · split
    · rename_i room
      refine .escaped (by decide) (harmless 4) fun cs => ?_
      simp [TextLiteral.textEscape?, hexEscape?_hexDigits 4 room, whole]
    · have valid : c.toNat < 0x110000 := by
        have := c.valid
        simp only [UInt32.isValidChar, Nat.isValidChar] at this
        simp only [Char.toNat]
        omega
      have room : c.toNat < 16 ^ 8 := by omega
      refine .escaped (by decide) (harmless 8) fun cs => ?_
      simp [TextLiteral.textEscape?, hexEscape?_hexDigits 8 room, whole, valid]

theorem Stands.short {quote c key : Char} (printable : isPrintable key = true)
    (reads : ∀ cs, TextLiteral.textEscape? (key :: cs) = some ([c], cs)) :
    Stands quote c ['\\', key] :=
  .escaped printable (by simp) (by simpa using reads)

theorem stands_escaped (quote c : Char) : Stands quote c (escaped c) := by
  unfold escaped
  split
  · subst_vars
    exact .short (by decide) fun _ => rfl
  split
  · subst_vars
    exact .short (by decide) fun _ => rfl
  split
  · subst_vars
    exact .short (by decide) fun _ => rfl
  split
  · subst_vars
    exact .short (by decide) fun _ => rfl
  · exact stands_numericEscape quote c

/-- Every character stands for itself or behind a backslash, with what reads it back. -/
theorem stands_encodeChar {quote : Char} (isQuote : Token.isQuote quote = true) (c : Char) :
    Stands quote c (Quoted.encodeChar quote c) := by
  unfold Quoted.encodeChar
  split
  · rename_i own
    subst own
    have quotes : c = '\'' ∨ c = '"' := by simpa [Token.isQuote] using isQuote
    rcases quotes with rfl | rfl
    · exact .short (by decide) fun _ => rfl
    · exact .short (by decide) fun _ => rfl
  · rename_i noQuote
    split
    · rename_i plain
      simp only [ne_eq, Bool.and_eq_true, decide_eq_true_eq] at plain
      exact .plain plain.2 noQuote plain.1
    · exact stands_escaped quote c

namespace Stands

variable {quote c : Char} {written : List Char}

theorem printable (stands : Stands quote c written) : ∀ d ∈ written, isPrintable d = true := by
  cases stands with
  | plain printable _ _ => simpa using printable
  | escaped printable harmless _ =>
    simp only [List.forall_mem_cons]
    exact ⟨by decide, printable, fun d member => (harmless d member).1⟩

theorem begins (stands : Stands quote c written) (isQuote : Token.isQuote quote = true) :
    ∃ d ds, written = d :: ds ∧ d ≠ quote := by
  cases stands with
  | plain _ noQuote _ => exact ⟨c, [], rfl, noQuote⟩
  | escaped _ _ _ =>
    refine ⟨_, _, rfl, ?_⟩
    rintro rfl
    exact absurd isQuote (by decide)

end Stands

/-! ### Bodies -/

def Quoted.bodyOf (quote : Char) (cs : List Char) : List Char :=
  cs.flatMap (Quoted.encodeChar quote)

variable {quote : Char} (isQuote : Token.isQuote quote = true)
include isQuote

/-- What is between the quotes is read as the text that was quoted. -/
theorem decodeText_body (cs : List Char) {fuel : Nat} (enough : (Quoted.bodyOf quote cs).length ≤ fuel) :
    TextLiteral.decodeText fuel (Quoted.bodyOf quote cs) = some cs := by
  induction cs generalizing fuel with
  | nil => cases fuel <;> rfl
  | cons c cs ih =>
    have split_ : Quoted.bodyOf quote (c :: cs) =
        Quoted.encodeChar quote c ++ Quoted.bodyOf quote cs := rfl
    rw [split_, List.length_append] at enough
    rw [split_]
    have stands := stands_encodeChar isQuote c
    generalize Quoted.encodeChar quote c = written at enough stands ⊢
    cases stands with
    | plain _ _ noBackslash =>
      obtain ⟨fuel, rfl⟩ : ∃ n, fuel = n + 1 :=
        Nat.exists_eq_add_one_of_ne_zero (by simp only [List.length_singleton] at enough; omega)
      have later := @ih fuel (by simp only [List.length_singleton] at enough; omega)
      simp [TextLiteral.decodeText, later]
    | @escaped key digits _ _ reads =>
      obtain ⟨fuel, rfl⟩ : ∃ n, fuel = n + 1 :=
        Nat.exists_eq_add_one_of_ne_zero (by simp only [List.length_cons] at enough; omega)
      have later := @ih fuel (by simp only [List.length_cons] at enough; omega)
      simp [TextLiteral.decodeText, reads, later]

omit isQuote in
theorem shortBody_cons {c : Char} {cs : List Char} (noQuote : c ≠ quote) (noBackslash : c ≠ '\\')
    (noBreak : c ≠ '\n') :
    Token.shortBody quote (c :: cs) = (Token.shortBody quote cs).map fun (b, rest) => (c :: b, rest) := by
  rw [Token.shortBody]
  · simp [noQuote, noBreak]
  · rintro d ds rfl
    exact absurd rfl noBackslash

omit isQuote in
theorem shortBody_append {ds cs : List Char}
    (harmless : ∀ d ∈ ds, d ≠ quote ∧ d ≠ '\\' ∧ d ≠ '\n') :
    Token.shortBody quote (ds ++ cs) = (Token.shortBody quote cs).map fun (b, rest) => (ds ++ b, rest) := by
  induction ds with
  | nil => simp
  | cons d ds ih =>
    obtain ⟨⟨noQuote, noBackslash, noBreak⟩, later⟩ := List.forall_mem_cons.mp harmless
    rw [List.cons_append, shortBody_cons noQuote noBackslash noBreak, ih later, Option.map_map]
    rfl

/-- The body ends at the quote behind it, and not before. -/
theorem shortBody_body (cs rest : List Char) :
    Token.shortBody quote (Quoted.bodyOf quote cs ++ quote :: rest) =
      some (Quoted.bodyOf quote cs, rest) := by
  have noBackslash : quote ≠ '\\' := by
    rintro rfl
    exact absurd isQuote (by decide)
  have noBreak : ∀ d, isPrintable d = true → d ≠ '\n' := by
    rintro d printable rfl
    exact absurd printable (by decide)
  induction cs with
  | nil =>
    simp only [Quoted.bodyOf, List.flatMap_nil, List.nil_append]
    rw [Token.shortBody]
    · simp
    · rintro d ds rfl
      exact absurd rfl noBackslash
  | cons c cs ih =>
    have split_ : Quoted.bodyOf quote (c :: cs) =
        Quoted.encodeChar quote c ++ Quoted.bodyOf quote cs := rfl
    rw [split_, List.append_assoc]
    have stands := stands_encodeChar isQuote c
    generalize Quoted.encodeChar quote c = written at stands ⊢
    cases stands with
    | plain printable noQuote noBackslash =>
      rw [List.singleton_append, shortBody_cons noQuote noBackslash (noBreak c printable), ih]
      rfl
    | @escaped key digits _ harmless _ =>
      -- the backslash takes one character along, and what is left of the escape is harmless
      have inert : ∀ d ∈ digits, d ≠ quote ∧ d ≠ '\\' ∧ d ≠ '\n' := by
        intro d member
        obtain ⟨printable, noBackslash, noQuote⟩ := harmless d member
        refine ⟨?_, noBackslash, noBreak d printable⟩
        rintro rfl
        simp [isQuote] at noQuote
      rw [List.cons_append, List.cons_append, Token.shortBody, shortBody_append inert, ih]
      rfl

/-- Quoted text is read from its first quote to its last one, unless another quote follows. -/
theorem quotedBody_encode (cs : List Char) {rest : List Char}
    (apart : ∀ c ∈ rest.head?, Token.isQuote c = false) :
    Token.quotedBody (Quoted.encodeWith quote cs ++ rest) = some (Quoted.bodyOf quote cs, rest) := by
  have written : Quoted.encodeWith quote cs ++ rest =
      quote :: (Quoted.bodyOf quote cs ++ quote :: rest) := by
    simp [Quoted.encodeWith, Quoted.bodyOf]
  rw [written]
  cases cs with
  | nil =>
    cases rest with
    | nil => simp [Quoted.bodyOf, Token.quotedBody]
    | cons c rest =>
      have other : quote ≠ c := by
        rintro rfl
        simp [isQuote] at apart
      simp [Quoted.bodyOf, Token.quotedBody, other]
  | cons c cs =>
    obtain ⟨d, ds, begins, other⟩ := (stands_encodeChar isQuote c).begins isQuote
    have body : Quoted.bodyOf quote (c :: cs) = d :: (ds ++ Quoted.bodyOf quote cs) := by
      simp [Quoted.bodyOf, begins]
    have whole := shortBody_body isQuote (c :: cs) rest
    rw [body] at whole ⊢
    obtain ⟨e, more, behind⟩ := List.exists_cons_of_ne_nil
      (show ds ++ Quoted.bodyOf quote cs ++ quote :: rest ≠ [] by simp)
    rw [List.cons_append, behind] at whole ⊢
    simp only [Token.quotedBody, Ne.symm other, decide_false, Bool.false_and, Bool.false_eq_true,
      ↓reduceIte]
    exact whole

end Text

/-! ### Names -/

namespace Text

theorem isQuote_quoteFor (cs : List Char) : Token.isQuote (Quoted.quoteFor cs) = true := by
  unfold Quoted.quoteFor
  split <;> rfl

theorem toList_quoted (s : String) :
    (quoted s).toList = Quoted.encodeWith (Quoted.quoteFor s.toList) s.toList := by
  simp [quoted, Quoted.encode]

theorem quoted_printable (s : String) : ∀ c ∈ (quoted s).toList, isPrintable c = true := by
  have quote : isPrintable (Quoted.quoteFor s.toList) = true := by
    unfold Quoted.quoteFor
    split <;> rfl
  simp only [toList_quoted, Quoted.encodeWith, List.cons_append, List.forall_mem_cons,
    List.forall_mem_append, List.mem_flatMap, List.not_mem_nil, false_implies, implies_true, and_true]
  refine ⟨quote, ?_, quote⟩
  rintro c ⟨own, -, member⟩
  exact (stands_encodeChar (isQuote_quoteFor _) own).printable c member

theorem break_notMem_quoted (s : String) {c : Char} (ends : c ∈ lineBreaks) :
    c ∉ (quoted s).toList :=
  fun member => notMem_lineBreaks (quoted_printable s c member) ends

/-- Quoted text is one literal, whatever follows it, except for another quote. -/
theorem next?_quoted (s : String) {rest : List Char}
    (apart : ∀ c ∈ rest.head?, Token.isQuote c = false) :
    Token.next? ((quoted s).toList ++ rest) = some (.text
      { marked := false, isBytes := false, isRaw := false, isFormatted := false,
        body := Quoted.bodyOf (Quoted.quoteFor s.toList) s.toList }, rest) := by
  have isQuote := isQuote_quoteFor s.toList
  have noWord : Token.isWordStart (Quoted.quoteFor s.toList) = false := by
    unfold Quoted.quoteFor
    split <;> rfl
  have body := quotedBody_encode isQuote s.toList apart
  rw [toList_quoted]
  simp only [Quoted.encodeWith, List.cons_append] at body ⊢
  simp only [Token.next?, noWord, isQuote, body, Bool.false_eq_true, ↓reduceIte]
  rfl

/-! ### Lines -/

theorem splitAt_ne_nil (sep : Char) (cs : List Char) : splitAt sep cs ≠ [] := by
  cases cs with
  | nil => simp [splitAt]
  | cons c cs =>
    unfold splitAt
    split
    · simp
    · split <;> simp

theorem splitAt_append_sep (sep : Char) (cs ds : List Char) :
    splitAt sep (cs ++ sep :: ds) = splitAt sep cs ++ splitAt sep ds := by
  induction cs with
  | nil => simp [splitAt]
  | cons c cs ih =>
    rw [List.cons_append, splitAt, splitAt, ih]
    split
    · rfl
    · cases pieces : splitAt sep cs with
      | nil => exact absurd pieces (splitAt_ne_nil sep cs)
      | cons w ws => rfl

/-- Lines that are joined are parted where they were joined, and where they have breaks of their own. -/
theorem splitAt_lines {lines : List String} (some_ : lines ≠ []) :
    splitAt '\n' ("\n".intercalate lines ++ "\n").toList =
      lines.flatMap (fun line => splitAt '\n' line.toList) ++ [[]] := by
  have feed : "\n".toList = ['\n'] := rfl
  induction lines with
  | nil => exact absurd rfl some_
  | cons line rest ih =>
    by_cases atEnd : rest = []
    · simp [atEnd, splitAt_append_sep, splitAt]
    · have later := ih atEnd
      rw [String.toList_append, feed] at later
      rw [String.intercalate_cons_of_ne_nil atEnd, String.toList_append, String.toList_append,
        String.toList_append, feed, List.append_assoc, List.append_assoc, List.singleton_append,
        splitAt_append_sep, later, List.flatMap_cons, List.append_assoc]

end Text

namespace Glue

open Text

/-- A text has only printable characters, apart from those of an identifier. -/
def PrintableBut (ident text : String) : Prop :=
  ∀ c ∈ text.toList, isPrintable c = true ∨ c ∈ ident.toList

namespace PrintableBut

variable {ident text more : String}

theorem append (first : PrintableBut ident text) (second : PrintableBut ident more) :
    PrintableBut ident (text ++ more) := by
  intro c member
  rw [String.toList_append, List.mem_append] at member
  exact member.elim (first c) (second c)

theorem fixed (printable : text.toList.all isPrintable = true) : PrintableBut ident text :=
  fun c member => .inl (List.all_eq_true.mp printable c member)

theorem quoted (s : String) : PrintableBut ident (Text.quoted s) :=
  fun c member => .inl (quoted_printable s c member)

theorem itself : PrintableBut ident ident := fun _ => .inr

theorem noBreak (own : PrintableBut ident text) {c : Char} (ends : c ∈ lineBreaks)
    (absent : c ∉ ident.toList) : c ∉ text.toList := by
  intro member
  rcases own c member with printable | inIdent
  · exact notMem_lineBreaks printable ends
  · exact absent inIdent

end PrintableBut

theorem value_printable (item : Item) : PrintableBut item.ident (value item) := by
  unfold value
  cases item.kind with
  | function =>
    refine .append (.append (.append (.append ?_ .itself) ?_) (.quoted _)) ?_
    all_goals exact .fixed (by decide +kernel)
  | attr =>
    refine .append (.append ?_ .itself) ?_
    all_goals exact .fixed (by decide +kernel)
  | classObject => exact .append .itself (.fixed (by decide +kernel))

theorem statement_printable (item : Item) : PrintableBut item.ident (statement item) := by
  unfold statement
  refine .append (.append (.append (.append ?_ (.quoted _)) ?_) (value_printable item)) ?_
  all_goals exact .fixed (by decide +kernel)

/-! ### Lines of the tail -/

def nameLine (name : String) : String := "MODULE_NAME = " ++ Text.quoted name

theorem nameLine_printable (name : String) : PrintableBut "" (nameLine name) :=
  .append (.fixed (by decide +kernel)) (.quoted name)

theorem splitAt_tail (name : String) (statements : List (List String)) :
    splitAt '\n' (tail name statements).toList =
      (tailLines name statements).flatMap (fun line => splitAt '\n' line.toList) ++ [[]] :=
  splitAt_lines (by simp [tailLines])

/-- A line of the tail without line feeds is a line of its text. -/
theorem mem_tail {name line : String} {statements : List (List String)}
    (member : line ∈ tailLines name statements) (single : '\n' ∉ line.toList) :
    line.toList ∈ splitAt '\n' (tail name statements).toList := by
  rw [splitAt_tail, List.mem_append, List.mem_flatMap]
  exact .inl ⟨line, member, by simp [splitAt_of_notMem single]⟩

theorem mem_tailLines {name line : String} {statements : List (List String)}
    (member : line ∈ statements.flatten) : indent ++ line ∈ tailLines name statements := by
  have inBody : indent ++ line ∈ statements.flatten.map (indent ++ ·) :=
    List.mem_map.mpr ⟨line, member, rfl⟩
  have some_ : (statements.flatten.map (indent ++ ·)).isEmpty = false :=
    List.isEmpty_eq_false_iff_exists_mem.mpr ⟨_, inBody⟩
  simp only [tailLines, some_, Bool.false_eq_true, ↓reduceIte, List.mem_append]
  exact .inl (.inr inBody)

/-- Every entry has its statement among the registrations, indented if it has guards. -/
theorem mem_registrations {entries : List Entry} {statements : List (List String)}
    (written : registrations entries = .ok statements) {e : Entry} (member : e ∈ entries) :
    ∃ lead ∈ ["", indent], lead ++ statement e.item ∈ statements.flatten := by
  induction entries generalizing statements with
  | nil => simp at member
  | cons first rest ih =>
    simp only [registrations, bind_eq_ok_iff, pure, Except.pure, Except.ok.injEq] at written
    obtain ⟨lines, here, more, later, rfl⟩ := written
    rw [List.flatten_cons]
    rcases List.mem_cons.mp member with rfl | inRest
    · unfold registration at here
      split at here
      · cases here
        exact ⟨"", by simp, by simp⟩
      · simp only [bind_eq_ok_iff, pure, Except.pure, Except.ok.injEq] at here
        obtain ⟨conditions, -, rfl⟩ := here
        exact ⟨indent, by simp, by simp⟩
    · obtain ⟨lead, known, found⟩ := ih later inRest
      exact ⟨lead, known, List.mem_append_right _ found⟩

/- Names cannot break the glue. Whatever a name holds, what is put for it is one text literal that
   reads as the name, and it ends no line; so a statement is one line unless its identifier is not,
   and in the tail of a module the assignment of the name is the first line and every statement is
   a line of its own. -/
theorem names_stay_in_their_literals :
    (∀ name : String, ∃ body,
      TextLiteral.textValue false body = some name.toList ∧
      (∀ rest : List Char, (∀ c ∈ rest.head?, Token.isQuote c = false) →
        Token.next? ((Text.quoted name).toList ++ rest) = some (.text
          { marked := false, isBytes := false, isRaw := false, isFormatted := false, body }, rest)) ∧
      ∀ c ∈ lineBreaks, c ∉ (Text.quoted name).toList) ∧
    (∀ item : Item, ∀ c ∈ lineBreaks, c ∉ item.ident.toList → c ∉ (statement item).toList) ∧
    ∀ name entries statements, registrations entries = .ok statements →
      (∀ c ∈ lineBreaks, c ∉ (nameLine name).toList) ∧
      (splitAt '\n' (tail name statements).toList).head? = some (nameLine name).toList ∧
      ∀ e ∈ entries, '\n' ∉ e.item.ident.toList → ∃ lead ∈ [indent, indent ++ indent],
        (lead ++ statement e.item).toList ∈ splitAt '\n' (tail name statements).toList := by
  refine ⟨fun name => ?_, fun item c ends absent => (statement_printable item).noBreak ends absent, ?_⟩
  · have isQuote := isQuote_quoteFor name.toList
    exact ⟨Quoted.bodyOf (Quoted.quoteFor name.toList) name.toList,
      decodeText_body isQuote name.toList (Nat.le_refl _),
      fun rest apart => next?_quoted name apart, fun c => break_notMem_quoted name⟩
  · intro name entries statements written
    have single : ∀ c ∈ lineBreaks, c ∉ (nameLine name).toList := fun c ends =>
      (nameLine_printable name).noBreak ends (by simp)
    refine ⟨single, ?_, fun e member oneLine => ?_⟩
    · have first : splitAt '\n' (nameLine name).toList = [(nameLine name).toList] :=
        splitAt_of_notMem (single '\n' (by decide))
      have lines : tailLines name statements = nameLine name :: (tailLines name statements).tail := rfl
      rw [splitAt_tail, lines, List.flatMap_cons, first]
      rfl
    · obtain ⟨lead, known, inBody⟩ := mem_registrations written member
      have noFeed := (statement_printable e.item).noBreak (c := '\n') (by decide) oneLine
      have lead' : '\n' ∉ (indent ++ lead).toList := by
        rcases List.mem_pair.mp known with rfl | rfl <;> decide
      refine ⟨indent ++ lead, ?_, mem_tail ?_ ?_⟩
      · rcases List.mem_pair.mp known with rfl | rfl <;> simp
      · rw [String.append_assoc]
        exact mem_tailLines inBody
      · rw [String.toList_append, List.mem_append]
        exact not_or.mpr ⟨lead', noFeed⟩

/-- A function under a name of quotes, a backslash, and characters that are not printable. -/
def bell : Item :=
  { kind := .function, ident := "ring", name := String.ofList ['\'', '"', '\\', '\x07', '7', '\u2028'] }

theorem bell_stays_in_its_literal :
    (∃ body, TextLiteral.textValue false body = some bell.name.toList ∧
      Token.next? ((Text.quoted bell.name).toList ++ [',', ' ']) = some (.text
        { marked := false, isBytes := false, isRaw := false, isFormatted := false, body },
        [',', ' '])) ∧
    '\u2028' ∉ (statement bell).toList ∧
    (splitAt '\n' (tail bell.name [[statement bell]]).toList).head? = some (nameLine bell.name).toList ∧
    ∃ lead ∈ [indent, indent ++ indent],
      (lead ++ statement bell).toList ∈ splitAt '\n' (tail bell.name [[statement bell]]).toList := by
  obtain ⟨literals, statements, tails⟩ := names_stay_in_their_literals
  obtain ⟨body, value, literal, -⟩ := literals bell.name
  obtain ⟨-, first, lines⟩ := tails bell.name [⟨bell, []⟩] [[statement bell]] rfl
  have apart : ∀ c ∈ [',', ' '].head?, Token.isQuote c = false := by
    rintro c ⟨⟩
    decide
  exact ⟨⟨body, value, literal [',', ' '] apart⟩, statements bell _ (by decide) (by decide), first,
    lines ⟨bell, []⟩ (by simp) (by decide)⟩

end Glue
end Bindery

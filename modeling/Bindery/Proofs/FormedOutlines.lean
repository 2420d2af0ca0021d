import Bindery.Proofs.Number.NumeralTexts
import Bindery.Proofs.OutlineTrees
import Bindery.Proofs.SoundExpressions

/- Constants are known by the words that an outline writes for them. No word and no name of the
   outline of an expression has a character that ends one. -/
namespace Bindery
namespace Outline

/-! ### The words of constants -/

/-- What holds of the ten digits holds of every digit. -/
theorem of_digit {P : Char → Prop} (each : ∀ n < 10, P (Char.ofNat (48 + n))) {c : Char}
    (digit : c.isDigit = true) : P c := by
  simp only [Char.isDigit, Bool.and_eq_true, decide_eq_true_eq, ge_iff_le,
    UInt32.le_iff_toNat_le] at digit
  have bounds : 48 ≤ c.toNat ∧ c.toNat ≤ 57 := digit
  have code : Char.ofNat (48 + (c.toNat - 48)) = c := by
    rw [show 48 + (c.toNat - 48) = c.toNat by omega, Char.ofNat_toNat]
  rw [← code]
  exact each _ (by omega)

theorem toList_number (n : Nat) : (toString n).toList = Nat.toDigits 10 n := by
  rw [Nat.toString_eq_repr, Nat.toList_repr]

theorem number_digits (n : Nat) : ∀ c ∈ (toString n).toList, c.isDigit = true := by
  rw [toList_number]
  exact fun c member => Nat.isDigit_of_mem_toDigits (by norm_num) le_rfl member

theorem number_injective {n m : Nat} (same : toString n = toString m) : n = m := by
  have read : ∀ k : Nat, Nat.ofDigitChars 10 (toString k).toList 0 = k := fun k => by
    rw [toList_number, Nat.ofDigitChars_toDigits (by norm_num) le_rfl]
  rw [← read n, same, read m]

/-- What the word of a constant is: a name, an integer, a real or an imaginary number. -/
inductive WordKind where
  | name | integer | real | imaginary
  deriving DecidableEq

def wordKind (cs : List Char) : WordKind :=
  if 'j' ∈ cs then .imaginary
  else if cs.any (·.isUpper) then .name
  else if cs.all (·.isDigit) then .integer
  else .real

/-- A character that ends no word, and is neither the mark of an imaginary number nor a capital. -/
def Numeric (c : Char) : Prop := Sketch.stopOf c = none ∧ c ≠ 'j' ∧ c.isUpper = false

instance : DecidablePred Numeric := fun _ => inferInstanceAs (Decidable (_ ∧ _ ∧ _))

theorem numeric_digit {c : Char} (digit : c.isDigit = true) : Numeric c :=
  of_digit (P := Numeric) (by decide) digit

theorem numeric_magnitude {x : Number.Binary64} {whole : Bool} {c : Char}
    (member : c ∈ Number.magnitudeText x whole) : Numeric c := by
  rcases Number.magnitudeText_chars x whole c member with digit | mark
  · exact numeric_digit digit
  · have marks : (Number.numeralMarks ++ ['i', 'n', 'f']).all (decide <| Numeric ·) = true := by decide
    simpa using List.all_eq_true.mp marks c mark

theorem numeric_integer {n : Nat} {c : Char} (member : c ∈ (toString n).toList) : Numeric c :=
  numeric_digit (number_digits n c member)

theorem wordKind_integer (n : Nat) : wordKind (toString n).toList = .integer := by
  have noLetter : 'j' ∉ (toString n).toList := fun member => (numeric_integer member).2.1 rfl
  have noUpper : ¬ (toString n).toList.any (·.isUpper) = true := by
    rw [List.any_eq_true]
    rintro ⟨c, member, upper⟩
    simp [(numeric_integer member).2.2] at upper
  rw [wordKind, if_neg noLetter, if_neg noUpper, if_pos (List.all_eq_true.mpr (number_digits n))]

theorem wordKind_real (x : Number.Binary64) :
    wordKind (Number.magnitudeText x true) = .real := by
  have noLetter : 'j' ∉ Number.magnitudeText x true := fun member => (numeric_magnitude member).2.1 rfl
  have noUpper : ¬ (Number.magnitudeText x true).any (·.isUpper) = true := by
    rw [List.any_eq_true]
    rintro ⟨c, member, upper⟩
    simp [(numeric_magnitude member).2.2] at upper
  obtain ⟨c, member, noDigit⟩ := Number.magnitudeText_mark x
  have mixed : ¬ (Number.magnitudeText x true).all (·.isDigit) = true := fun all => by
    simp [List.all_eq_true.mp all c member] at noDigit
  rw [wordKind, if_neg noLetter, if_neg noUpper, if_neg mixed]

theorem wordKind_imaginary (x : Number.Binary64) :
    wordKind (Number.magnitudeText x false ++ ['j']) = .imaginary := by
  rw [wordKind, if_pos (by simp)]

/-- The kind of a constant's word, for constants that are written as words. -/
def kindOf? : Constant → Option WordKind
  | .none => some .name
  | .true => some .name
  | .false => some .name
  | .ellipsis => some .name
  | .integer _ => some .integer
  | .real _ => some .real
  | .imaginary _ => some .imaginary
  | .text _ _ => none
  | .bytes _ => none

theorem kindOf?_word {c : Constant} (sound : c.Sound) {w : String}
    (written : constantSketch c = .word w) : kindOf? c = some (wordKind w.toList) := by
  cases c with
  | integer n =>
    obtain rfl := Sketch.word.inj written
    rw [wordKind_integer, kindOf?]
  | real x =>
    obtain rfl := Sketch.word.inj written
    rw [Number.Binary64.toList_text sound, wordKind_real, kindOf?]
  | imaginary x =>
    obtain rfl := Sketch.word.inj written
    rw [Number.Binary64.toList_imaginaryText sound, wordKind_imaginary, kindOf?]
  | text s => simp [constantSketch] at written
  | bytes bs => simp [constantSketch] at written
  | _ =>
    obtain rfl := Sketch.word.inj written
    decide

theorem kindSketch_text {s : String} {marked : Bool} :
    kindSketch (.text s marked) = if marked then [.field "kind" (.text "u")] else [] := by
  cases marked <;> rfl

/-- A constant is known by its written form and its mark. -/
theorem constant_inj {c d : Constant} (sound : c.Sound) (sound' : d.Sound)
    (same : constantSketch c = constantSketch d) (marks : kindSketch c = kindSketch d) : c = d := by
  have kinds : kindOf? c = kindOf? d := by
    cases written : constantSketch c with
    | word w => rw [kindOf?_word sound written, kindOf?_word sound' (same ▸ written)]
    | text s =>
      rw [written] at same
      cases c <;> cases d <;> simp_all [constantSketch, kindOf?]
    | bytes bs =>
      rw [written] at same
      cases c <;> cases d <;> simp_all [constantSketch, kindOf?]
    | _ => cases c <;> simp [constantSketch] at written
  cases c with
  | integer n =>
    cases d <;> simp [kindOf?] at kinds
    rw [number_injective (Sketch.word.inj same)]
  | real x =>
    cases d <;> simp [kindOf?] at kinds
    rw [Number.Binary64.text_injective sound sound' (Sketch.word.inj same)]
  | imaginary x =>
    cases d <;> simp [kindOf?] at kinds
    rw [Number.Binary64.imaginaryText_injective sound sound' (Sketch.word.inj same)]
  | text s marked =>
    cases d <;> simp [constantSketch] at same
    rename_i marked'
    cases marked <;> cases marked' <;> simp_all [kindSketch_text]
  | bytes bs =>
    cases d <;> simp [constantSketch] at same
    rw [same]
  | _ => cases d <;> simp_all [kindOf?, constantSketch]

/-! ### Words and names are plain -/

theorem formed_word {w : String} {c : Char} (member : c ∈ w.toList) (plain : Sketch.Plain w) :
    Sketch.Formed (.word w) := by
  rw [Sketch.Formed]
  refine ⟨?_, plain⟩
  rintro rfl
  simp at member

theorem formed_number (n : Nat) : Sketch.Formed (.word (toString n)) := by
  obtain ⟨c, member⟩ := List.exists_mem_of_ne_nil (toString n).toList (by
    rw [toList_number]
    exact List.ne_nil_of_length_pos Nat.length_toDigits_pos)
  exact formed_word member fun _ member => (numeric_integer member).1

theorem formed_constant {c : Constant} (sound : c.Sound) : Sketch.Formed (constantSketch c) := by
  cases c with
  | integer n => exact formed_number n
  | real x =>
    have chars := Number.Binary64.toList_text sound
    obtain ⟨c, member, -⟩ := Number.magnitudeText_mark x
    refine formed_word (chars ▸ member) fun c member => ?_
    rw [chars] at member
    exact (numeric_magnitude member).1
  | imaginary x =>
    have chars := Number.Binary64.toList_imaginaryText sound
    refine formed_word (c := 'j') (by simp [chars]) fun c member => ?_
    rw [chars, List.mem_append] at member
    rcases member with digits | mark
    · exact (numeric_magnitude digits).1
    · obtain rfl := List.mem_singleton.mp mark
      rfl
  | text s => trivial
  | bytes bs => trivial
  | _ => exact ⟨by decide, by decide⟩

theorem formed_kind (c : Constant) : Sketch.FormedEach (kindSketch c) := by
  match c with
  | .text _ true => exact ⟨.field trivial, trivial⟩
  | .text _ false | .none | .true | .false | .ellipsis | .integer _ | .real _ | .imaginary _
  | .bytes _ => exact trivial

theorem formed_role (role : Role) : Sketch.Formed role.sketch := by
  cases role <;> exact .node trivial

theorem formed_parameter (name : String) : Sketch.Formed (parameterSketch name) :=
  .node ⟨.field trivial, trivial⟩

theorem formed_names (ps : List Parameter) :
    Sketch.FormedEach (ps.map fun p => parameterSketch p.name) := by
  rw [Sketch.formedEach_iff]
  intro s member
  obtain ⟨p, -, rfl⟩ := List.mem_map.mp member
  exact formed_parameter p.name

theorem formed_rest {field : String} (name : Option String) (plain : Sketch.Plain field) :
    Sketch.FormedEach (restSketch field name) := by
  cases name with
  | none => trivial
  | some name => exact ⟨.field (formed_parameter name) plain, trivial⟩

theorem formed_name (id : String) (role : Role) : Sketch.Formed (nameSketch id role) :=
  .node ⟨.field trivial, .field (formed_role role), trivial⟩

theorem formed_conversion (conversion : Option Char) :
    Sketch.Formed (.word (conversionText conversion)) := by
  cases conversion with
  | none => exact ⟨by decide, by decide⟩
  | some c => exact formed_number c.toNat

theorem formed_operator {name : String} (plain : Sketch.Plain name) :
    Sketch.Formed (.node name []) := .node trivial plain

mutual

theorem formed_sketch (role : Role) :
    (e : Expr) → e.Sound → Sketch.Formed (sketch role e)
  | .constant c, sound => .node ⟨.field (formed_constant sound), formed_kind c⟩
  | .name id, _ => formed_name id role
  | .attribute value _, ⟨v, _⟩ =>
    .node ⟨.field (formed_sketch .read value v), .field trivial, .field (formed_role role),
      trivial⟩
  | .subscript value index, ⟨v, i⟩ =>
    .node ⟨.field (formed_sketch .read value v), .field (formed_sketch .read index i),
      .field (formed_role role), trivial⟩
  | .call callee args keywords, ⟨f, xs, ks⟩ =>
    .node ⟨.field (formed_sketch .read callee f), .field (formed_each .read args xs),
      .field (formed_keywords keywords ks), trivial⟩
  | .logical op operands, sound =>
    .node ⟨.field (formed_operator (by cases op <;> decide)),
      .field (formed_each .read operands sound), trivial⟩
  | .named target value, ⟨v, _⟩ =>
    .node ⟨.field (formed_name target .assigned), .field (formed_sketch .read value v), trivial⟩
  | .binary left op right, ⟨a, b⟩ =>
    .node ⟨.field (formed_sketch .read left a), .field (formed_operator (by cases op <;> decide)),
      .field (formed_sketch .read right b), trivial⟩
  | .unary op operand, sound =>
    .node ⟨.field (formed_operator (by cases op <;> decide)),
      .field (formed_sketch .read operand sound), trivial⟩
  | .lambda positionalOnly positional rest keywordOnly extra body, ⟨_, a, b, c, v, _, _⟩ => by
    have da := formed_defaults positionalOnly a
    have db := formed_defaults positional b
    have dc := formed_defaults keywordOnly c
    refine .node ⟨.field (.node (.append (.append (.append (.append
      ⟨.field (formed_names positionalOnly), .field (formed_names positional), trivial⟩
      (formed_rest rest (by decide))) ⟨.field (formed_names keywordOnly), .field ?_, trivial⟩)
      (formed_rest extra (by decide))) ⟨.field ?_, trivial⟩)),
      .field (formed_sketch .read body v), trivial⟩
    · rw [Sketch.Formed, Sketch.formedEach_iff]
      simp only [List.mem_map]
      rintro s ⟨d, member, rfl⟩
      cases d with
      | none => exact ⟨by decide, by decide⟩
      | some s => exact dc s member
    · rw [Sketch.Formed, Sketch.formedEach_iff]
      simp only [List.mem_filterMap, id_eq, exists_eq_right, List.mem_append]
      exact fun s member => member.elim (da s) (db s)
  | .conditional test body orelse, ⟨t, b, e⟩ =>
    .node ⟨.field (formed_sketch .read test t), .field (formed_sketch .read body b),
      .field (formed_sketch .read orelse e), trivial⟩
  | .dict items, sound =>
    .node ⟨.field (formed_keys items sound), .field (formed_values items sound), trivial⟩
  | .set elements, sound => .node ⟨.field (formed_each .read elements sound), trivial⟩
  | .list elements, sound =>
    .node ⟨.field (formed_each role elements sound), .field (formed_role role), trivial⟩
  | .tuple elements, sound =>
    .node ⟨.field (formed_each role elements sound), .field (formed_role role), trivial⟩
  | .listComp element generators, ⟨e, gs⟩ =>
    .node ⟨.field (formed_sketch .read element e), .field (formed_generators generators gs), trivial⟩
  | .setComp element generators, ⟨e, gs⟩ =>
    .node ⟨.field (formed_sketch .read element e), .field (formed_generators generators gs), trivial⟩
  | .dictComp key value generators, ⟨k, v, gs⟩ =>
    .node ⟨.field (formed_sketch .read key k), .field (formed_sketch .read value v),
      .field (formed_generators generators gs), trivial⟩
  | .generatorExp element generators, ⟨e, gs⟩ =>
    .node ⟨.field (formed_sketch .read element e), .field (formed_generators generators gs), trivial⟩
  | .await value, sound => .node ⟨.field (formed_sketch .read value sound), trivial⟩
  | .yield value, sound => .node (formed_option (by decide) value sound)
  | .yieldFrom value, sound => .node ⟨.field (formed_sketch .read value sound), trivial⟩
  | .compare left rest, ⟨l, rs⟩ =>
    .node ⟨.field (formed_sketch .read left l), .field (formed_operators rest),
      .field (formed_comparators rest rs), trivial⟩
  | .formatted value conversion format, ⟨v, f, _⟩ =>
    .node ⟨.field (formed_sketch .read value v), .field (formed_conversion conversion),
      formed_option (by decide) format f⟩
  | .joined parts, sound => .node ⟨.field (formed_each .read parts sound), trivial⟩
  | .starred value, sound =>
    .node ⟨.field (formed_sketch role value sound), .field (formed_role role), trivial⟩
  | .slice lower upper step, ⟨l, u, s⟩ =>
    .node (.append (.append (formed_option (by decide) lower l) (formed_option (by decide) upper u))
      (formed_option (by decide) step s))

theorem formed_option {field : String} (plain : Sketch.Plain field) :
    (e : Option Expr) → SoundOption e → Sketch.FormedEach (sketchOption field e)
  | none, _ => trivial
  | some e, sound => ⟨.field (formed_sketch .read e sound) plain, trivial⟩

theorem formed_each (role : Role) :
    (es : List Expr) → SoundEach es → Sketch.FormedEach (sketchEach role es)
  | [], _ => trivial
  | e :: es, ⟨first, rest⟩ => ⟨formed_sketch role e first, formed_each role es rest⟩

theorem formed_keywords :
    (ks : List Keyword) → SoundKeywords ks → Sketch.FormedEach (sketchKeywords ks)
  | [], _ => trivial
  | .mk none value :: rest, ⟨v, _, more⟩ =>
    ⟨.node ⟨.field (formed_sketch .read value v), trivial⟩, formed_keywords rest more⟩
  | .mk (some _) value :: rest, ⟨v, _, more⟩ =>
    ⟨.node ⟨.field trivial, .field (formed_sketch .read value v), trivial⟩,
      formed_keywords rest more⟩

theorem formed_keys :
    (items : List DictItem) → SoundItems items → Sketch.FormedEach (sketchKeys items)
  | [], _ => trivial
  | .pair key _ :: rest, ⟨k, _, more⟩ => ⟨formed_sketch .read key k, formed_keys rest more⟩
  | .spread _ :: rest, ⟨_, more⟩ => ⟨⟨by decide, by decide⟩, formed_keys rest more⟩

theorem formed_values :
    (items : List DictItem) → SoundItems items → Sketch.FormedEach (sketchValues items)
  | [], _ => trivial
  | .pair _ value :: rest, ⟨_, v, more⟩ => ⟨formed_sketch .read value v, formed_values rest more⟩
  | .spread value :: rest, ⟨v, more⟩ => ⟨formed_sketch .read value v, formed_values rest more⟩

theorem formed_generators :
    (gs : List Generator) → SoundGenerators gs → Sketch.FormedEach (sketchGenerators gs)
  | [], _ => trivial
  | .mk isAsync target source conditions :: rest, ⟨t, s, cs, more⟩ =>
    ⟨.node ⟨.field (formed_sketch .assigned target t), .field (formed_sketch .read source s),
      .field (formed_each .read conditions cs),
      .field (by cases isAsync <;> exact ⟨by decide, by decide⟩), trivial⟩,
      formed_generators rest more⟩

theorem formed_defaults :
    (ps : List Parameter) → SoundParameters ps → ∀ s, some s ∈ sketchDefaults ps → Sketch.Formed s
  | [], _, s, member => by simp [sketchDefaults] at member
  | .mk _ none :: rest, ⟨_, _, more⟩, s, member =>
    formed_defaults rest more s (by simpa [sketchDefaults] using member)
  | .mk _ (some default) :: rest, ⟨d, _, more⟩, s, member => by
    rw [sketchDefaults, List.mem_cons, Option.some.injEq] at member
    rcases member with rfl | later
    · exact formed_sketch .read default d
    · exact formed_defaults rest more s later

theorem formed_operators :
    (cs : List Comparison) → Sketch.FormedEach (sketchOperators cs)
  | [] => trivial
  | .mk op _ :: rest => ⟨formed_operator (by cases op <;> decide), formed_operators rest⟩

theorem formed_comparators :
    (cs : List Comparison) → SoundComparisons cs → Sketch.FormedEach (sketchComparators cs)
  | [], _ => trivial
  | .mk _ right :: rest, ⟨r, more⟩ => ⟨formed_sketch .read right r, formed_comparators rest more⟩

end

end Outline
end Bindery

import Bindery.Proofs.EnclosedTexts
import Bindery.Proofs.NormalForms
import Bindery.Proofs.SoundExpressions

/- Line breaks in the printed form of an expression. Names have none, and text has them escaped, except
   inside of the fields of formatted text, where a backslash is not allowed. So every line break that is
   printed is one of a text in a field. -/
namespace Bindery

/-! ### Texts in fields -/

/-- The literal texts among the parts of formatted text. -/
def literalTexts (parts : List Expr) : List String :=
  parts.flatMap fun
    | .constant c => c.fieldTexts true
    | _ => []

mutual

/-- The texts of an expression that stand in fields of formatted text, in their values or in their
    formats; all of its texts when it stands in one itself. -/
def Expr.fieldTexts (inField : Bool) : Expr → List String
  | .constant c => c.fieldTexts inField
  | .name _ => []
  | .attribute value _ => value.fieldTexts inField
  | .subscript value index => value.fieldTexts inField ++ index.fieldTexts inField
  | .call callee args keywords =>
    callee.fieldTexts inField ++ (fieldTextsEach inField args ++ fieldTextsKeywords inField keywords)
  | .logical _ operands => fieldTextsEach inField operands
  | .named _ value => value.fieldTexts inField
  | .binary left _ right => left.fieldTexts inField ++ right.fieldTexts inField
  | .unary _ operand => operand.fieldTexts inField
  | .lambda positionalOnly positional _ keywordOnly _ body =>
    fieldTextsParameters inField positionalOnly ++ (fieldTextsParameters inField positional ++
      (fieldTextsParameters inField keywordOnly ++ body.fieldTexts inField))
  | .conditional test body orelse =>
    test.fieldTexts inField ++ (body.fieldTexts inField ++ orelse.fieldTexts inField)
  | .dict items => fieldTextsItems inField items
  | .set elements => fieldTextsEach inField elements
  | .list elements => fieldTextsEach inField elements
  | .tuple elements => fieldTextsEach inField elements
  | .listComp element generators =>
    element.fieldTexts inField ++ fieldTextsGenerators inField generators
  | .setComp element generators =>
    element.fieldTexts inField ++ fieldTextsGenerators inField generators
  | .dictComp key value generators =>
    key.fieldTexts inField ++ (value.fieldTexts inField ++ fieldTextsGenerators inField generators)
  | .generatorExp element generators =>
    element.fieldTexts inField ++ fieldTextsGenerators inField generators
  | .await value => value.fieldTexts inField
  | .yield value => fieldTextsOption inField value
  | .yieldFrom value => value.fieldTexts inField
  | .compare left rest => left.fieldTexts inField ++ fieldTextsComparisons inField rest
  | .formatted value _ format => value.fieldTexts true ++ fieldTextsFormat inField format
  | .joined parts => fieldTextsEach inField parts
  | .starred value => value.fieldTexts inField
  | .slice lower upper step =>
    fieldTextsOption inField lower ++ (fieldTextsOption inField upper ++ fieldTextsOption inField step)

def fieldTextsOption (inField : Bool) : Option Expr → List String
  | none => []
  | some e => e.fieldTexts inField

def fieldTextsEach (inField : Bool) : List Expr → List String
  | [] => []
  | e :: es => e.fieldTexts inField ++ fieldTextsEach inField es

def fieldTextsKeywords (inField : Bool) : List Keyword → List String
  | [] => []
  | .mk _ value :: rest => value.fieldTexts inField ++ fieldTextsKeywords inField rest

def fieldTextsItems (inField : Bool) : List DictItem → List String
  | [] => []
  | .pair key value :: rest =>
    key.fieldTexts inField ++ (value.fieldTexts inField ++ fieldTextsItems inField rest)
  | .spread value :: rest => value.fieldTexts inField ++ fieldTextsItems inField rest

def fieldTextsGenerators (inField : Bool) : List Generator → List String
  | [] => []
  | .mk _ target source conditions :: rest =>
    target.fieldTexts inField ++ (source.fieldTexts inField ++
      (fieldTextsEach inField conditions ++ fieldTextsGenerators inField rest))

def fieldTextsParameters (inField : Bool) : List Parameter → List String
  | [] => []
  | .mk _ default :: rest => fieldTextsOption inField default ++ fieldTextsParameters inField rest

def fieldTextsComparisons (inField : Bool) : List Comparison → List String
  | [] => []
  | .mk _ right :: rest => right.fieldTexts inField ++ fieldTextsComparisons inField rest

/-- A format is literal text and fields of its own. -/
def fieldTextsFormat (inField : Bool) : Option Expr → List String
  | none => []
  | some (.joined parts) => literalTexts parts ++ fieldTextsEach inField parts
  | some e => e.fieldTexts inField

end

theorem literalTexts_subset (parts : List Expr) : literalTexts parts ⊆ fieldTextsEach true parts := by
  induction parts with
  | nil => simp [literalTexts]
  | cons e es ih =>
    have here : literalTexts [e] ⊆ e.fieldTexts true := by
      cases e <;> simp [literalTexts, Expr.fieldTexts]
    intro t member
    rw [fieldTextsEach, List.mem_append]
    rcases List.mem_append.mp (show t ∈ literalTexts [e] ++ literalTexts es by
      simpa [literalTexts] using member) with first | later
    · exact .inl (here first)
    · exact .inr (ih later)

theorem Text.NormalName.oneLine {id : String} (named : NormalName id) : OneLine id := by
  obtain ⟨w, word, rfl⟩ := named
  exact normalForm_oneLine (.of_name word)

namespace Printer

open Text

variable {texts : List String}

/-! ### The pieces that are put together -/

theorem brackets_brokenBy (needed : Bool) {s : String} (broken : BrokenBy texts s) :
    BrokenBy texts (brackets needed s) := by
  unfold brackets
  split
  · exact (BrokenBy.behind (by decide) broken).before (by decide)
  · exact broken

theorem commas_brokenBy {parts : List String} (broken : ∀ s ∈ parts, BrokenBy texts s) :
    BrokenBy texts (commas parts) := .intercalate (by decide) broken

theorem tupleText_brokenBy {parts : List String} (broken : ∀ s ∈ parts, BrokenBy texts s) :
    BrokenBy texts (tupleText parts) := by
  unfold tupleText
  split
  · exact (broken _ List.mem_cons_self).before (by decide)
  · exact commas_brokenBy broken

theorem beforeDot_oneLine (e : Expr) : OneLine (beforeDot e) := by
  unfold beforeDot
  split <;> decide

theorem parameterParts_brokenBy {positionalOnly positional keywordOnly : List String}
    {rest extra : Option String} (first : ∀ s ∈ positionalOnly, BrokenBy texts s)
    (second : ∀ s ∈ positional, BrokenBy texts s) (third : ∀ s ∈ keywordOnly, BrokenBy texts s)
    (named : NormalNames rest) (named' : NormalNames extra) :
    ∀ s ∈ parameterParts positionalOnly positional rest keywordOnly extra, BrokenBy texts s := by
  have stars : ∀ (stars : String) (name : String), OneLine stars → NormalName name →
      BrokenBy texts (stars ++ name) := fun stars name single named =>
    .behind single (.of_oneLine named.oneLine)
  intro s member
  simp only [parameterParts, List.mem_append] at member
  rcases member with ((((only | slash) | both) | star) | later) | double
  · exact first s only
  · split at slash
    · cases slash
    · exact List.mem_singleton.mp slash ▸ .of_oneLine (by decide)
  · exact second s both
  · split at star
    · exact List.mem_singleton.mp star ▸ stars "*" _ (by decide) (named _ rfl)
    · split at star
      · cases star
      · exact List.mem_singleton.mp star ▸ .of_oneLine (by decide)
  · exact third s later
  · obtain ⟨name, given, rfl⟩ := by simpa using double
    exact stars "**" name (by decide) (named' name given)

theorem fieldText_brokenBy {value : String} {conversion : Option Char} {format : Option String}
    (broken : BrokenBy texts value) (asked : IsConversion conversion)
    (formatted : ∀ f ∈ format, BrokenBy texts f) :
    Gives (fieldText value conversion format) (BrokenBy texts) := by
  unfold fieldText
  split
  · exact .error
  · refine .ok (.append (.append (.append (.append (.append ?_ ?_) broken) ?_) ?_) ?_)
    · exact .of_oneLine (by decide)
    · split
      · exact .of_oneLine (by decide)
      · exact .of_oneLine (by decide)
    · cases conversion with
      | none => exact .of_oneLine (by decide)
      | some c =>
        have letter := asked c rfl
        simp only [Formatted.conversions, List.mem_cons, List.not_mem_nil, or_false] at letter
        rcases letter with rfl | rfl | rfl <;> exact .of_oneLine (by decide)
    · cases format with
      | none => exact .of_oneLine (by decide)
      | some f => exact .behind (by decide) (formatted f rfl)
    · exact .of_oneLine (by decide)

/-! ### Layouts of their own -/

/-- A tuple in an index is printed as elsewhere, but for its brackets. -/
theorem subscript_brokenBy {inField : Bool} {level : Level} {value index : Expr}
    (first : Gives (print inField Level.atom value) (BrokenBy texts))
    (second : Gives (print inField Level.test index) (BrokenBy texts)) :
    Gives (print inField level (.subscript value index)) (BrokenBy texts) := by
  have put : ∀ {v i : String}, BrokenBy texts v → BrokenBy texts i →
      BrokenBy texts (v ++ "[" ++ i ++ "]") := fun v i =>
    ((v.before (by decide)).append i).before (by decide)
  by_cases tuple : ∃ e es, index = .tuple (e :: es)
  · obtain ⟨e, es, rfl⟩ := tuple
    rw [print]
    refine first.andThen fun v broken => ?_
    intro t printed
    obtain ⟨i, here, is, later, same⟩ : ∃ i, print inField Level.test e = .ok i ∧
        ∃ is, printEach inField Level.test es = .ok is ∧ v ++ "[" ++ tupleText (i :: is) ++ "]" = t := by
      simpa only [bind_eq_ok_iff, pure, Except.pure, Except.ok.injEq] using printed
    have whole : print inField Level.test (.tuple (e :: es)) =
        .ok ("(" ++ tupleText (i :: is) ++ ")") := by
      rw [print]
      refine bind_eq_ok_iff.mpr ⟨i :: is, ?_, rfl⟩
      rw [printEach]
      exact bind_eq_ok_iff.mpr ⟨i, here, bind_eq_ok_iff.mpr ⟨is, later, rfl⟩⟩
    have bracketed := second _ whole
    rw [brokenBy_append, brokenBy_append] at bracketed
    exact same ▸ put broken bracketed.1.2
  · rw [print]
    · exact first.andThen fun v broken => second.andThen fun i broken' => .ok (put broken broken')
    · exact fun e es same => tuple ⟨e, es, same⟩

/-- Parts of formatted text that are shown as they are: the fields, and where literal text is shown so,
    that too. -/
def PartsBrokenBy (texts : List String) (literal : Prop) (parts : List Part) : Prop :=
  ∀ part ∈ parts, part.2 = false ∨ literal → BrokenBy texts part.1

theorem PartsBrokenBy.cons {literal : Prop} {part : Part} {parts : List Part}
    (first : part.2 = false ∨ literal → BrokenBy texts part.1)
    (later : PartsBrokenBy texts literal parts) : PartsBrokenBy texts literal (part :: parts) :=
  List.forall_mem_cons.mpr ⟨first, later⟩

/-- A field is printed as by itself, but for the quotes around it. -/
theorem part_brokenBy {inField : Bool} {literal : Prop} {e : Expr} {rest : List Expr}
    (first : Gives (print inField Level.test e) (BrokenBy texts))
    (covered : literal → literalTexts [e] ⊆ texts)
    (later : Gives (printParts inField rest) (PartsBrokenBy texts literal)) :
    Gives (printParts inField (e :: rest)) (PartsBrokenBy texts literal) := by
  by_cases text : ∃ s marked, e = .constant (.text s marked)
  · obtain ⟨s, marked, rfl⟩ := text
    rw [printParts]
    refine later.andThen fun ps parts => .ok (.cons ?_ parts)
    rintro (⟨⟨⟩⟩ | shown)
    exact (doubleBraces_brokenBy s).mono
      (by simpa [literalTexts, Constant.fieldTexts] using covered shown)
  by_cases field : ∃ value conversion format, e = .formatted value conversion format
  · obtain ⟨value, conversion, format, rfl⟩ := field
    rw [printParts]
    intro ps printed
    simp only [bind_eq_ok_iff, pure, Except.pure, Except.ok.injEq] at printed
    obtain ⟨v, hv, f, hf, field, hfield, ps, hps, rfl⟩ := printed
    have quoted : BrokenBy texts ("f'" ++ field ++ "'") := by
      refine first _ ?_
      rw [print]
      exact bind_eq_ok_iff.mpr
        ⟨v, hv, bind_eq_ok_iff.mpr ⟨f, hf, bind_eq_ok_iff.mpr ⟨field, hfield, rfl⟩⟩⟩
    rw [brokenBy_append, brokenBy_append] at quoted
    exact .cons (fun _ => quoted.1.2) (later ps hps)
  · rw [printParts]
    · exact first.andThen fun s broken => later.andThen fun ps parts =>
        .ok (.cons (fun _ => broken) parts)
    · exact fun s marked same => text ⟨s, marked, same⟩
    · exact fun value conversion format same => field ⟨value, conversion, format, same⟩

/-! ### The tree -/

theorem subset_of_append {ss ts : List String} (within : ss ++ ts ⊆ texts) : ss ⊆ texts ∧ ts ⊆ texts :=
  List.append_subset.mp within

mutual

theorem print_brokenBy (inField : Bool) (level : Level) :
    (e : Expr) → e.Sound → e.fieldTexts inField ⊆ texts →
      Gives (print inField level e) (BrokenBy texts)
  | .constant c, _, within => by
    rw [print]
    exact fun t printed => (constantText_brokenBy inField c t printed).mono within
  | .name id, named, _ => by
    rw [print]
    exact .ok (.of_oneLine named.oneLine)
  | .attribute value attr, ⟨sound, named⟩, within => by
    rw [print]
    exact (print_brokenBy inField _ value sound within).andThen fun v broken =>
      .ok (((broken.before (beforeDot_oneLine value)).before (by decide)).before named.oneLine)
  | .subscript value index, ⟨sound, sound'⟩, within => by
    obtain ⟨first, second⟩ := subset_of_append within
    exact subscript_brokenBy (print_brokenBy inField _ value sound first)
      (print_brokenBy inField _ index sound' second)
  | .call callee args keywords, ⟨sound, sounds, sounds'⟩, within => by
    obtain ⟨first, second, third⟩ := And.imp_right subset_of_append (subset_of_append within)
    rw [print]
    refine (print_brokenBy inField _ callee sound first).andThen fun f broken => ?_
    refine (each_brokenBy inField _ args sounds second).andThen fun xs brokens => ?_
    refine (keywords_brokenBy inField keywords sounds' third).andThen fun ks brokens' => ?_
    exact .ok (((broken.before (by decide)).append
      (commas_brokenBy (List.forall_mem_append.mpr ⟨brokens, brokens'⟩))).before (by decide))
  | .logical op operands, sounds, within => by
    have single : OneLine (logicalText op) := by cases op <;> decide
    rw [print]
    exact (rising_brokenBy inField _ operands sounds within).andThen fun xs brokens =>
      .ok (brackets_brokenBy _ (.intercalate single brokens))
  | .named target value, ⟨sound, named⟩, within => by
    rw [print]
    exact (print_brokenBy inField _ value sound within).andThen fun v broken =>
      .ok (brackets_brokenBy _ (.behind (named.oneLine.append (by decide)) broken))
  | .binary left op right, ⟨sound, sound'⟩, within => by
    obtain ⟨first, second⟩ := subset_of_append within
    have single : OneLine (binaryText op) := by cases op <;> decide
    rw [print]
    exact (print_brokenBy inField _ left sound first).andThen fun a broken =>
      (print_brokenBy inField _ right sound' second).andThen fun b broken' =>
        .ok (brackets_brokenBy _ ((((broken.before (by decide)).before single).before (by decide)).append
          broken'))
  | .unary op operand, sound, within => by
    have single : OneLine (unaryText op) := by cases op <;> decide
    rw [print]
    exact (print_brokenBy inField _ operand sound within).andThen fun v broken =>
      .ok (brackets_brokenBy _ (.behind single broken))
  | .lambda positionalOnly positional rest keywordOnly extra body,
      ⟨_, sounds, sounds', sounds'', sound, named, named'⟩, within => by
    obtain ⟨first, within⟩ := subset_of_append within
    obtain ⟨second, third, fourth⟩ := And.imp_right subset_of_append (subset_of_append within)
    rw [print]
    refine (parameters_brokenBy inField positionalOnly sounds first).andThen fun a brokens => ?_
    refine (parameters_brokenBy inField positional sounds' second).andThen fun b brokens' => ?_
    refine (parameters_brokenBy inField keywordOnly sounds'' third).andThen fun c brokens'' => ?_
    refine (print_brokenBy inField _ body sound fourth).andThen fun v broken => ?_
    have parts := parameterParts_brokenBy brokens brokens' brokens'' named named'
    refine .ok (brackets_brokenBy _ (.append (.append ?_ (.of_oneLine (by decide))) broken))
    split
    · exact .of_oneLine (by decide)
    · exact .behind (by decide) (commas_brokenBy parts)
  | .conditional test body orelse, ⟨sound, sound', sound''⟩, within => by
    obtain ⟨first, second, third⟩ := And.imp_right subset_of_append (subset_of_append within)
    rw [print]
    exact (print_brokenBy inField _ body sound' second).andThen fun b broken' =>
      (print_brokenBy inField _ test sound first).andThen fun t broken =>
      (print_brokenBy inField _ orelse sound'' third).andThen fun e broken'' =>
        .ok (brackets_brokenBy _ ((((broken'.before (by decide)).append broken).before (by decide)).append
          broken''))
  | .dict items, sounds, within => by
    rw [print]
    exact (items_brokenBy inField items sounds within).andThen fun xs brokens =>
      .ok ((BrokenBy.behind (by decide) (commas_brokenBy brokens)).before (by decide))
  | .set elements, sounds, within => by
    rw [print]
    refine (each_brokenBy inField _ elements sounds within).andThen fun xs brokens => .ok ?_
    split
    · exact .of_oneLine (by decide)
    · exact (BrokenBy.behind (by decide) (commas_brokenBy brokens)).before (by decide)
  | .list elements, sounds, within => by
    rw [print]
    exact (each_brokenBy inField _ elements sounds within).andThen fun xs brokens =>
      .ok ((BrokenBy.behind (by decide) (commas_brokenBy brokens)).before (by decide))
  | .tuple elements, sounds, within => by
    rw [print]
    exact (each_brokenBy inField _ elements sounds within).andThen fun xs brokens =>
      .ok (brackets_brokenBy _ (tupleText_brokenBy brokens))
  | .listComp element generators, ⟨sound, sounds⟩, within => by
    obtain ⟨first, second⟩ := subset_of_append within
    rw [print]
    exact (print_brokenBy inField _ element sound first).andThen fun e broken =>
      (generators_brokenBy inField generators sounds second).andThen fun g broken' =>
        .ok (((BrokenBy.behind (by decide) broken).append broken').before (by decide))
  | .setComp element generators, ⟨sound, sounds⟩, within => by
    obtain ⟨first, second⟩ := subset_of_append within
    rw [print]
    exact (print_brokenBy inField _ element sound first).andThen fun e broken =>
      (generators_brokenBy inField generators sounds second).andThen fun g broken' =>
        .ok (((BrokenBy.behind (by decide) broken).append broken').before (by decide))
  | .dictComp key value generators, ⟨sound, sound', sounds⟩, within => by
    obtain ⟨first, second, third⟩ := And.imp_right subset_of_append (subset_of_append within)
    rw [print]
    exact (print_brokenBy inField _ key sound first).andThen fun k broken =>
      (print_brokenBy inField _ value sound' second).andThen fun v broken' =>
      (generators_brokenBy inField generators sounds third).andThen fun g broken'' =>
        .ok (((((BrokenBy.behind (by decide) broken).before (by decide)).append broken').append
          broken'').before (by decide))
  | .generatorExp element generators, ⟨sound, sounds⟩, within => by
    obtain ⟨first, second⟩ := subset_of_append within
    rw [print]
    exact (print_brokenBy inField _ element sound first).andThen fun e broken =>
      (generators_brokenBy inField generators sounds second).andThen fun g broken' =>
        .ok (((BrokenBy.behind (by decide) broken).append broken').before (by decide))
  | .await value, sound, within => by
    rw [print]
    exact (print_brokenBy inField _ value sound within).andThen fun v broken =>
      .ok (brackets_brokenBy _ (.behind (by decide) broken))
  | .yield none, _, _ => by
    rw [print]
    exact .ok (brackets_brokenBy _ (.of_oneLine (by decide)))
  | .yield (some value), sound, within => by
    rw [print]
    exact (print_brokenBy inField _ value sound within).andThen fun v broken =>
      .ok (brackets_brokenBy _ (.behind (by decide) broken))
  | .yieldFrom value, sound, within => by
    rw [print]
    exact (print_brokenBy inField _ value sound within).andThen fun v broken =>
      .ok (brackets_brokenBy _ (.behind (by decide) broken))
  | .compare left rest, ⟨sound, sounds⟩, within => by
    obtain ⟨first, second⟩ := subset_of_append within
    rw [print]
    exact (print_brokenBy inField _ left sound first).andThen fun l broken =>
      (comparisons_brokenBy inField rest sounds second).andThen fun r broken' =>
        .ok (brackets_brokenBy _ (broken.append broken'))
  | .formatted value conversion format, ⟨sound, sound', asked⟩, within => by
    obtain ⟨first, second⟩ := subset_of_append within
    rw [print]
    exact (print_brokenBy true _ value sound first).andThen fun v broken =>
      (format_brokenBy inField format sound' second).andThen fun f formatted =>
      (fieldText_brokenBy broken asked formatted).andThen fun field broken' =>
        .ok ((BrokenBy.behind (by decide) broken').before (by decide))
  | .joined parts, sounds, within => by
    have literals : inField = true → literalTexts parts ⊆ texts := by
      rintro rfl
      exact List.Subset.trans (literalTexts_subset parts) within
    rw [print]
    refine (parts_brokenBy inField (inField = true) parts sounds within literals).andThen
      fun ps shown => .ok fun c ends member => ?_
    obtain ⟨part, among, kept, inPart⟩ := joinParts_breaks ends member
    exact shown part among kept c ends inPart
  | .starred value, sound, within => by
    rw [print]
    exact (print_brokenBy inField _ value sound within).andThen fun v broken =>
      .ok (.behind (by decide) broken)
  | .slice lower upper step, ⟨sound, sound', sound''⟩, within => by
    obtain ⟨first, second, third⟩ := And.imp_right subset_of_append (subset_of_append within)
    rw [print]
    refine (option_brokenBy inField lower sound first).andThen fun l broken => ?_
    refine (option_brokenBy inField upper sound' second).andThen fun u broken' => ?_
    refine (option_brokenBy inField step sound'' third).andThen fun s broken'' => ?_
    refine .ok (.append (.append (broken.before (by decide)) broken') ?_)
    split
    · exact .behind (by decide) broken''
    · exact .of_oneLine (by decide)

theorem option_brokenBy (inField : Bool) :
    (e : Option Expr) → SoundOption e → fieldTextsOption inField e ⊆ texts →
      Gives (printOption inField e) (BrokenBy texts)
  | none, _, _ => by
    rw [printOption]
    exact .ok (.of_oneLine (by decide))
  | some e, sound, within => by
    rw [printOption]
    exact print_brokenBy inField _ e sound within

theorem each_brokenBy (inField : Bool) (level : Level) :
    (es : List Expr) → SoundEach es → fieldTextsEach inField es ⊆ texts →
      Gives (printEach inField level es) (∀ s ∈ ·, BrokenBy texts s)
  | [], _, _ => by
    rw [printEach]
    exact .ok (by simp)
  | e :: es, ⟨sound, sounds⟩, within => by
    obtain ⟨first, second⟩ := subset_of_append within
    rw [printEach]
    exact (print_brokenBy inField level e sound first).andThen fun s broken =>
      (each_brokenBy inField level es sounds second).andThen fun ss brokens =>
        .ok (List.forall_mem_cons.mpr ⟨broken, brokens⟩)

theorem rising_brokenBy (inField : Bool) (level : Level) :
    (es : List Expr) → SoundEach es → fieldTextsEach inField es ⊆ texts →
      Gives (printRising inField level es) (∀ s ∈ ·, BrokenBy texts s)
  | [], _, _ => by
    rw [printRising]
    exact .ok (by simp)
  | e :: es, ⟨sound, sounds⟩, within => by
    obtain ⟨first, second⟩ := subset_of_append within
    rw [printRising]
    exact (print_brokenBy inField _ e sound first).andThen fun s broken =>
      (rising_brokenBy inField _ es sounds second).andThen fun ss brokens =>
        .ok (List.forall_mem_cons.mpr ⟨broken, brokens⟩)

theorem keywords_brokenBy (inField : Bool) :
    (ks : List Keyword) → SoundKeywords ks → fieldTextsKeywords inField ks ⊆ texts →
      Gives (printKeywords inField ks) (∀ s ∈ ·, BrokenBy texts s)
  | [], _, _ => by
    rw [printKeywords]
    exact .ok (by simp)
  | .mk none value :: rest, ⟨sound, _, sounds⟩, within => by
    obtain ⟨first, second⟩ := subset_of_append within
    rw [printKeywords]
    exact (print_brokenBy inField _ value sound first).andThen fun v broken =>
      (keywords_brokenBy inField rest sounds second).andThen fun vs brokens =>
        .ok (List.forall_mem_cons.mpr ⟨.behind (by decide) broken, brokens⟩)
  | .mk (some name) value :: rest, ⟨sound, named, sounds⟩, within => by
    obtain ⟨first, second⟩ := subset_of_append within
    rw [printKeywords]
    exact (print_brokenBy inField _ value sound first).andThen fun v broken =>
      (keywords_brokenBy inField rest sounds second).andThen fun vs brokens =>
        .ok (List.forall_mem_cons.mpr
          ⟨.behind ((named name rfl).oneLine.append (by decide)) broken, brokens⟩)

theorem items_brokenBy (inField : Bool) :
    (items : List DictItem) → SoundItems items → fieldTextsItems inField items ⊆ texts →
      Gives (printItems inField items) (∀ s ∈ ·, BrokenBy texts s)
  | [], _, _ => by
    rw [printItems]
    exact .ok (by simp)
  | .pair key value :: rest, ⟨sound, sound', sounds⟩, within => by
    obtain ⟨first, second, third⟩ := And.imp_right subset_of_append (subset_of_append within)
    rw [printItems]
    exact (print_brokenBy inField _ key sound first).andThen fun k broken =>
      (print_brokenBy inField _ value sound' second).andThen fun v broken' =>
      (items_brokenBy inField rest sounds third).andThen fun vs brokens =>
        .ok (List.forall_mem_cons.mpr
          ⟨(broken.before (by decide)).append broken', brokens⟩)
  | .spread value :: rest, ⟨sound, sounds⟩, within => by
    obtain ⟨first, second⟩ := subset_of_append within
    rw [printItems]
    exact (print_brokenBy inField _ value sound first).andThen fun v broken =>
      (items_brokenBy inField rest sounds second).andThen fun vs brokens =>
        .ok (List.forall_mem_cons.mpr ⟨.behind (by decide) broken, brokens⟩)

theorem generators_brokenBy (inField : Bool) :
    (gs : List Generator) → SoundGenerators gs → fieldTextsGenerators inField gs ⊆ texts →
      Gives (printGenerators inField gs) (BrokenBy texts)
  | [], _, _ => by
    rw [printGenerators]
    exact .ok (.of_oneLine (by decide))
  | .mk isAsync target source conditions :: rest, ⟨sound, sound', sounds, sounds'⟩, within => by
    obtain ⟨first, within⟩ := subset_of_append within
    obtain ⟨second, third, fourth⟩ := And.imp_right subset_of_append (subset_of_append within)
    have head : OneLine (if isAsync then " async for " else " for ") := by cases isAsync <;> decide
    rw [printGenerators]
    refine (print_brokenBy inField _ target sound first).andThen fun t broken => ?_
    refine (print_brokenBy inField _ source sound' second).andThen fun s broken' => ?_
    refine (each_brokenBy inField _ conditions sounds third).andThen fun cs brokens => ?_
    refine (generators_brokenBy inField rest sounds' fourth).andThen fun more broken'' => ?_
    refine .ok (((((BrokenBy.behind head broken).before (by decide)).append broken').append
      (.join ?_)).append broken'')
    refine List.forall_mem_map.mpr fun condition member => ?_
    exact .behind (by decide) (brokens condition member)

theorem parameters_brokenBy (inField : Bool) :
    (ps : List Parameter) → SoundParameters ps → fieldTextsParameters inField ps ⊆ texts →
      Gives (printParameters inField ps) (∀ s ∈ ·, BrokenBy texts s)
  | [], _, _ => by
    rw [printParameters]
    exact .ok (by simp)
  | .mk name none :: rest, ⟨_, named, sounds⟩, within => by
    rw [printParameters]
    exact (parameters_brokenBy inField rest sounds within).andThen fun ps brokens =>
      .ok (List.forall_mem_cons.mpr ⟨.of_oneLine named.oneLine, brokens⟩)
  | .mk name (some default) :: rest, ⟨sound, named, sounds⟩, within => by
    obtain ⟨first, second⟩ := subset_of_append within
    rw [printParameters]
    exact (print_brokenBy inField _ default sound first).andThen fun d broken =>
      (parameters_brokenBy inField rest sounds second).andThen fun ps brokens =>
        .ok (List.forall_mem_cons.mpr ⟨.behind (named.oneLine.append (by decide)) broken, brokens⟩)

theorem comparisons_brokenBy (inField : Bool) :
    (cs : List Comparison) → SoundComparisons cs → fieldTextsComparisons inField cs ⊆ texts →
      Gives (printComparisons inField cs) (BrokenBy texts)
  | [], _, _ => by
    rw [printComparisons]
    exact .ok (.of_oneLine (by decide))
  | .mk op right :: rest, ⟨sound, sounds⟩, within => by
    obtain ⟨first, second⟩ := subset_of_append within
    have single : OneLine (" " ++ compareText op ++ " ") := by cases op <;> decide
    rw [printComparisons]
    exact (print_brokenBy inField _ right sound first).andThen fun r broken =>
      (comparisons_brokenBy inField rest sounds second).andThen fun more broken' =>
        .ok ((BrokenBy.behind single broken).append broken')

theorem parts_brokenBy (inField : Bool) (literal : Prop) :
    (parts : List Expr) → SoundEach parts → fieldTextsEach inField parts ⊆ texts →
      (literal → literalTexts parts ⊆ texts) →
      Gives (printParts inField parts) (PartsBrokenBy texts literal)
  | [], _, _, _ => by
    rw [printParts]
    exact .ok (by simp [PartsBrokenBy])
  | e :: es, ⟨sound, sounds⟩, within, literals => by
    obtain ⟨first, second⟩ := subset_of_append within
    have covered : ∀ shown : literal, literalTexts [e] ++ literalTexts es ⊆ texts := by
      intro shown
      simpa [literalTexts] using literals shown
    exact part_brokenBy (print_brokenBy inField _ e sound first)
      (fun shown => (subset_of_append (covered shown)).1)
      (parts_brokenBy inField literal es sounds second
        fun shown => (subset_of_append (covered shown)).2)

theorem format_brokenBy (inField : Bool) :
    (e : Option Expr) → SoundOption e → fieldTextsFormat inField e ⊆ texts →
      Gives (printFormat inField e) (∀ f ∈ ·, BrokenBy texts f)
  | none, _, _ => by
    rw [printFormat]
    exact .ok (by simp)
  | some e, sound, within => by
    cases e with
    | joined parts =>
      obtain ⟨first, second⟩ := subset_of_append within
      rw [printFormat]
      refine (parts_brokenBy inField True parts sound second fun _ => first).andThen
        fun ps shown => .ok ?_
      rintro _ ⟨⟩
      exact .join (List.forall_mem_map.mpr fun part member => shown part member (.inr trivial))
    | _ =>
      rw [printFormat]
      · refine (print_brokenBy inField _ _ sound within).andThen fun s broken => .ok ?_
        rintro _ ⟨⟩
        exact broken
      · simp

end

end Printer

/-- Every line break of a printed expression is one of a text in a field. -/
theorem Expr.text_brokenBy {e : Expr} (sound : e.Sound) :
    Gives e.text (Text.BrokenBy (e.fieldTexts false)) :=
  Printer.print_brokenBy false _ e sound (List.Subset.refl _)

end Bindery

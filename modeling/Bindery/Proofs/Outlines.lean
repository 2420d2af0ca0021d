import Bindery.Guard
import Bindery.Proofs.Outcomes

/- An expression that can be printed has an outline: both write every constant of the tree, and only
   an integer beyond the decimal limit keeps an outline from being written. A source that is read as
   a directive therefore has a structural key. -/
namespace Bindery

namespace Outline

open Printer

theorem constant_defined {inField : Bool} (c : Constant)
    (printed : Defined (Printer.constantText inField c)) : Defined (constantNode c) := by
  have value : Defined (constantText c) := by
    cases c with
    | integer n => exact printed
    | _ => exact ⟨_, rfl⟩
  exact value.andThen fun _ => .ok _

/- A tuple in an index, text beside fields and a field's format are printed in ways of their own, but
   from the same parts as elsewhere. -/
theorem subscript_printed {inField : Bool} {level : Level} {value index : Expr}
    (printed : Defined (print inField level (.subscript value index))) :
    Defined (print inField Level.atom value) ∧ Defined (print inField Level.test index) := by
  cases index with
  | tuple elements =>
    cases elements with
    | nil =>
      simp only [print, Defined.bind_iff] at printed
      obtain ⟨v, hv, i, hi, -⟩ := printed
      exact ⟨⟨v, hv⟩, by rw [print]; exact ⟨i, hi⟩⟩
    | cons e es =>
      simp only [print, Defined.bind_iff] at printed
      obtain ⟨v, hv, i, hi, is, his, -⟩ := printed
      refine ⟨⟨v, hv⟩, ?_⟩
      simp only [print, printEach]
      exact (Defined.andThen ⟨i, hi⟩ fun _ => .andThen ⟨is, his⟩ fun _ => .ok _).andThen
        fun _ => .ok _
  | _ =>
    rw [print] at printed
    · simp only [Defined.bind_iff] at printed
      obtain ⟨v, hv, i, hi, -⟩ := printed
      exact ⟨⟨v, hv⟩, ⟨i, hi⟩⟩
    · simp

theorem part_printed {inField : Bool} {e : Expr} {rest : List Expr}
    (printed : Defined (printParts inField (e :: rest))) :
    Defined (print inField Level.test e) ∧ Defined (printParts inField rest) := by
  cases e with
  | constant c =>
    cases c with
    | text s marked =>
      simp only [printParts, Defined.bind_iff] at printed
      obtain ⟨ps, hps, -⟩ := printed
      exact ⟨by rw [print]; exact .ok _, ⟨ps, hps⟩⟩
    | _ =>
      simp only [printParts, Defined.bind_iff] at printed
      obtain ⟨s, hs, ps, hps, -⟩ := printed
      exact ⟨⟨s, hs⟩, ⟨ps, hps⟩⟩
  | formatted value conversion format =>
    simp only [printParts, Defined.bind_iff] at printed
    obtain ⟨v, hv, f, hf, field, hfield, ps, hps, -⟩ := printed
    refine ⟨?_, ⟨ps, hps⟩⟩
    rw [print]
    simp only [Defined.bind_iff]
    exact ⟨v, hv, f, hf, field, hfield, .ok _⟩
  | _ =>
    simp only [printParts, Defined.bind_iff] at printed
    obtain ⟨s, hs, ps, hps, -⟩ := printed
    exact ⟨⟨s, hs⟩, ⟨ps, hps⟩⟩

theorem format_printed {inField : Bool} {e : Expr}
    (printed : Defined (printFormat inField (some e))) : Defined (print inField Level.test e) := by
  cases e with
  | joined parts =>
    simp only [printFormat, Defined.bind_iff] at printed
    obtain ⟨ps, hps, -⟩ := printed
    rw [print]
    exact Defined.andThen ⟨ps, hps⟩ fun _ => .ok _
  | _ =>
    simp only [printFormat, Defined.bind_iff] at printed
    obtain ⟨s, hs, -⟩ := printed
    exact ⟨s, hs⟩

mutual

theorem outline_defined {inField : Bool} {level : Level} (role : Role) :
    (e : Expr) → Defined (print inField level e) → Defined (outline role e)
  | .constant c, printed => by
    rw [print] at printed
    exact constant_defined c printed
  | .name _, _ => .ok _
  | .attribute value _, printed => by
    simp only [print, Defined.bind_iff] at printed
    obtain ⟨v, hv, -⟩ := printed
    exact (outline_defined .read value ⟨v, hv⟩).andThen fun _ => .ok _
  | .subscript value index, printed => by
    obtain ⟨v, i⟩ := subscript_printed printed
    exact (outline_defined .read value v).andThen fun _ =>
      (outline_defined .read index i).andThen fun _ => .ok _
  | .call callee args keywords, printed => by
    simp only [print, Defined.bind_iff] at printed
    obtain ⟨f, hf, xs, hxs, ks, hks, -⟩ := printed
    exact (outline_defined .read callee ⟨f, hf⟩).andThen fun _ =>
      (each_defined .read args ⟨xs, hxs⟩).andThen fun _ =>
      (keywords_defined keywords ⟨ks, hks⟩).andThen fun _ => .ok _
  | .logical op operands, printed => by
    simp only [print, Defined.bind_iff] at printed
    obtain ⟨xs, hxs, -⟩ := printed
    exact (rising_defined operands ⟨xs, hxs⟩).andThen fun _ => .ok _
  | .named target value, printed => by
    simp only [print, Defined.bind_iff] at printed
    obtain ⟨v, hv, -⟩ := printed
    exact (outline_defined .read value ⟨v, hv⟩).andThen fun _ => .ok _
  | .binary left op right, printed => by
    simp only [print, Defined.bind_iff] at printed
    obtain ⟨a, ha, b, hb, -⟩ := printed
    exact (outline_defined .read left ⟨a, ha⟩).andThen fun _ =>
      (outline_defined .read right ⟨b, hb⟩).andThen fun _ => .ok _
  | .unary op operand, printed => by
    simp only [print, Defined.bind_iff] at printed
    obtain ⟨v, hv, -⟩ := printed
    exact (outline_defined .read operand ⟨v, hv⟩).andThen fun _ => .ok _
  | .lambda positionalOnly positional rest keywordOnly extra body, printed => by
    simp only [print, Defined.bind_iff] at printed
    obtain ⟨a, ha, b, hb, c, hc, v, hv, -⟩ := printed
    exact (parameters_defined positionalOnly ⟨a, ha⟩).andThen fun _ =>
      (parameters_defined positional ⟨b, hb⟩).andThen fun _ =>
      (parameters_defined keywordOnly ⟨c, hc⟩).andThen fun _ =>
      (outline_defined .read body ⟨v, hv⟩).andThen fun _ => .ok _
  | .conditional test body orelse, printed => by
    simp only [print, Defined.bind_iff] at printed
    obtain ⟨b, hb, t, ht, e, he, -⟩ := printed
    exact (outline_defined .read test ⟨t, ht⟩).andThen fun _ =>
      (outline_defined .read body ⟨b, hb⟩).andThen fun _ =>
      (outline_defined .read orelse ⟨e, he⟩).andThen fun _ => .ok _
  | .dict items, printed => by
    simp only [print, Defined.bind_iff] at printed
    obtain ⟨xs, hxs, -⟩ := printed
    exact (keys_defined items ⟨xs, hxs⟩).andThen fun _ =>
      (values_defined items ⟨xs, hxs⟩).andThen fun _ => .ok _
  | .set elements, printed => by
    simp only [print, Defined.bind_iff] at printed
    obtain ⟨xs, hxs, -⟩ := printed
    exact (each_defined .read elements ⟨xs, hxs⟩).andThen fun _ => .ok _
  | .list elements, printed => by
    simp only [print, Defined.bind_iff] at printed
    obtain ⟨xs, hxs, -⟩ := printed
    exact (each_defined role elements ⟨xs, hxs⟩).andThen fun _ => .ok _
  | .tuple elements, printed => by
    simp only [print, Defined.bind_iff] at printed
    obtain ⟨xs, hxs, -⟩ := printed
    exact (each_defined role elements ⟨xs, hxs⟩).andThen fun _ => .ok _
  | .listComp element generators, printed => by
    simp only [print, Defined.bind_iff] at printed
    obtain ⟨e, he, g, hg, -⟩ := printed
    exact (outline_defined .read element ⟨e, he⟩).andThen fun _ =>
      (generators_defined generators ⟨g, hg⟩).andThen fun _ => .ok _
  | .setComp element generators, printed => by
    simp only [print, Defined.bind_iff] at printed
    obtain ⟨e, he, g, hg, -⟩ := printed
    exact (outline_defined .read element ⟨e, he⟩).andThen fun _ =>
      (generators_defined generators ⟨g, hg⟩).andThen fun _ => .ok _
  | .dictComp key value generators, printed => by
    simp only [print, Defined.bind_iff] at printed
    obtain ⟨k, hk, v, hv, g, hg, -⟩ := printed
    exact (outline_defined .read key ⟨k, hk⟩).andThen fun _ =>
      (outline_defined .read value ⟨v, hv⟩).andThen fun _ =>
      (generators_defined generators ⟨g, hg⟩).andThen fun _ => .ok _
  | .generatorExp element generators, printed => by
    simp only [print, Defined.bind_iff] at printed
    obtain ⟨e, he, g, hg, -⟩ := printed
    exact (outline_defined .read element ⟨e, he⟩).andThen fun _ =>
      (generators_defined generators ⟨g, hg⟩).andThen fun _ => .ok _
  | .await value, printed => by
    simp only [print, Defined.bind_iff] at printed
    obtain ⟨v, hv, -⟩ := printed
    exact (outline_defined .read value ⟨v, hv⟩).andThen fun _ => .ok _
  | .yield none, _ => .ok _
  | .yield (some value), printed => by
    simp only [print, Defined.bind_iff] at printed
    obtain ⟨v, hv, -⟩ := printed
    exact ((outline_defined .read value ⟨v, hv⟩).andThen fun _ => .ok _).andThen fun _ => .ok _
  | .yieldFrom value, printed => by
    simp only [print, Defined.bind_iff] at printed
    obtain ⟨v, hv, -⟩ := printed
    exact (outline_defined .read value ⟨v, hv⟩).andThen fun _ => .ok _
  | .compare left rest, printed => by
    simp only [print, Defined.bind_iff] at printed
    obtain ⟨l, hl, r, hr, -⟩ := printed
    exact (outline_defined .read left ⟨l, hl⟩).andThen fun _ =>
      (comparisons_defined rest ⟨r, hr⟩).andThen fun _ => .ok _
  | .formatted value conversion format, printed => by
    simp only [print, Defined.bind_iff] at printed
    obtain ⟨v, hv, f, hf, -⟩ := printed
    exact (outline_defined .read value ⟨v, hv⟩).andThen fun _ =>
      (format_defined format ⟨f, hf⟩).andThen fun _ => .ok _
  | .joined parts, printed => by
    simp only [print, Defined.bind_iff] at printed
    obtain ⟨ps, hps, -⟩ := printed
    exact (parts_defined parts ⟨ps, hps⟩).andThen fun _ => .ok _
  | .starred value, printed => by
    simp only [print, Defined.bind_iff] at printed
    obtain ⟨v, hv, -⟩ := printed
    exact (outline_defined role value ⟨v, hv⟩).andThen fun _ => .ok _
  | .slice lower upper step, printed => by
    simp only [print, Defined.bind_iff] at printed
    obtain ⟨l, hl, u, hu, s, hs, -⟩ := printed
    exact (option_defined "lower" lower ⟨l, hl⟩).andThen fun _ =>
      (option_defined "upper" upper ⟨u, hu⟩).andThen fun _ =>
      (option_defined "step" step ⟨s, hs⟩).andThen fun _ => .ok _

theorem option_defined {inField : Bool} (field : String) :
    (e : Option Expr) → Defined (printOption inField e) → Defined (outlineOption field e)
  | none, _ => .ok _
  | some e, printed => by
    rw [printOption] at printed
    exact (outline_defined .read e printed).andThen fun _ => .ok _

theorem each_defined {inField : Bool} {level : Level} (role : Role) :
    (es : List Expr) → Defined (printEach inField level es) → Defined (outlineEach role es)
  | [], _ => .ok _
  | e :: es, printed => by
    simp only [printEach, Defined.bind_iff] at printed
    obtain ⟨s, hs, ss, hss, -⟩ := printed
    exact (outline_defined role e ⟨s, hs⟩).andThen fun _ =>
      (each_defined role es ⟨ss, hss⟩).andThen fun _ => .ok _

theorem rising_defined {inField : Bool} {level : Level} :
    (es : List Expr) → Defined (printRising inField level es) → Defined (outlineEach .read es)
  | [], _ => .ok _
  | e :: es, printed => by
    simp only [printRising, Defined.bind_iff] at printed
    obtain ⟨s, hs, ss, hss, -⟩ := printed
    exact (outline_defined .read e ⟨s, hs⟩).andThen fun _ =>
      (rising_defined es ⟨ss, hss⟩).andThen fun _ => .ok _

theorem keywords_defined {inField : Bool} :
    (ks : List Keyword) → Defined (printKeywords inField ks) → Defined (outlineKeywords ks)
  | [], _ => .ok _
  | .mk _ value :: rest, printed => by
    simp only [printKeywords, Defined.bind_iff] at printed
    obtain ⟨v, hv, vs, hvs, -⟩ := printed
    exact (outline_defined .read value ⟨v, hv⟩).andThen fun _ =>
      (keywords_defined rest ⟨vs, hvs⟩).andThen fun _ => .ok _

theorem keys_defined {inField : Bool} :
    (items : List DictItem) → Defined (printItems inField items) → Defined (outlineKeys items)
  | [], _ => .ok _
  | .pair key _ :: rest, printed => by
    simp only [printItems, Defined.bind_iff] at printed
    obtain ⟨k, hk, _, _, vs, hvs, -⟩ := printed
    exact (outline_defined .read key ⟨k, hk⟩).andThen fun _ =>
      (keys_defined rest ⟨vs, hvs⟩).andThen fun _ => .ok _
  | .spread _ :: rest, printed => by
    simp only [printItems, Defined.bind_iff] at printed
    obtain ⟨_, _, vs, hvs, -⟩ := printed
    exact (keys_defined rest ⟨vs, hvs⟩).andThen fun _ => .ok _

theorem values_defined {inField : Bool} :
    (items : List DictItem) → Defined (printItems inField items) → Defined (outlineValues items)
  | [], _ => .ok _
  | .pair _ value :: rest, printed => by
    simp only [printItems, Defined.bind_iff] at printed
    obtain ⟨_, _, v, hv, vs, hvs, -⟩ := printed
    exact (outline_defined .read value ⟨v, hv⟩).andThen fun _ =>
      (values_defined rest ⟨vs, hvs⟩).andThen fun _ => .ok _
  | .spread value :: rest, printed => by
    simp only [printItems, Defined.bind_iff] at printed
    obtain ⟨v, hv, vs, hvs, -⟩ := printed
    exact (outline_defined .read value ⟨v, hv⟩).andThen fun _ =>
      (values_defined rest ⟨vs, hvs⟩).andThen fun _ => .ok _

theorem generators_defined {inField : Bool} :
    (gs : List Generator) → Defined (printGenerators inField gs) → Defined (outlineGenerators gs)
  | [], _ => .ok _
  | .mk _ target source conditions :: rest, printed => by
    simp only [printGenerators, Defined.bind_iff] at printed
    obtain ⟨t, ht, s, hs, cs, hcs, more, hmore, -⟩ := printed
    exact (outline_defined .assigned target ⟨t, ht⟩).andThen fun _ =>
      (outline_defined .read source ⟨s, hs⟩).andThen fun _ =>
      (each_defined .read conditions ⟨cs, hcs⟩).andThen fun _ =>
      (generators_defined rest ⟨more, hmore⟩).andThen fun _ => .ok _

theorem parameters_defined {inField : Bool} :
    (ps : List Parameter) → Defined (printParameters inField ps) → Defined (outlineParameters ps)
  | [], _ => .ok _
  | .mk _ none :: rest, printed => by
    simp only [printParameters, Defined.bind_iff] at printed
    obtain ⟨ps, hps, -⟩ := printed
    exact (parameters_defined rest ⟨ps, hps⟩).andThen fun _ => .ok _
  | .mk _ (some default) :: rest, printed => by
    simp only [printParameters, Defined.bind_iff] at printed
    obtain ⟨d, hd, ps, hps, -⟩ := printed
    exact (outline_defined .read default ⟨d, hd⟩).andThen fun _ =>
      (parameters_defined rest ⟨ps, hps⟩).andThen fun _ => .ok _

theorem comparisons_defined {inField : Bool} :
    (cs : List Comparison) → Defined (printComparisons inField cs) →
      Defined (outlineComparisons cs)
  | [], _ => .ok _
  | .mk _ right :: rest, printed => by
    simp only [printComparisons, Defined.bind_iff] at printed
    obtain ⟨r, hr, more, hmore, -⟩ := printed
    exact (outline_defined .read right ⟨r, hr⟩).andThen fun _ =>
      (comparisons_defined rest ⟨more, hmore⟩).andThen fun _ => .ok _

theorem parts_defined {inField : Bool} :
    (es : List Expr) → Defined (printParts inField es) → Defined (outlineEach .read es)
  | [], _ => .ok _
  | e :: rest, printed => by
    obtain ⟨e', rest'⟩ := part_printed printed
    exact (outline_defined .read e e').andThen fun _ =>
      (parts_defined rest rest').andThen fun _ => .ok _

theorem format_defined {inField : Bool} :
    (e : Option Expr) → Defined (printFormat inField e) → Defined (outlineOption "format_spec" e)
  | none, _ => .ok _
  | some e, printed =>
    (outline_defined .read e (format_printed printed)).andThen fun _ => .ok _

end

end Outline

/-! ### Directives -/

theorem dotted_defined (role : Outline.Role) :
    (e : Expr) → (path : String) → e.dottedName? = some path → Defined (Outline.outline role e)
  | .name _, _, _ => .ok _
  | .attribute value _, _, dotted => by
    simp only [Expr.dottedName?, Option.map_eq_some_iff] at dotted
    obtain ⟨path, inner, -⟩ := dotted
    exact (dotted_defined .read value path inner).andThen fun _ => .ok _

namespace Directive

theorem plain?_exprs {args : List Expr} {found : List (Option String × Expr)}
    (plain : plain? args = some found) : found.map Prod.snd = args := by
  induction args generalizing found with
  | nil => simp_all [plain?]
  | cons e es ih =>
    cases e <;> simp only [plain?, Option.map_eq_some_iff, reduceCtorEq] at plain <;>
      obtain ⟨rest, more, rfl⟩ := plain <;> simp [ih more]

theorem keyed?_defined {keywords : List Keyword} {found : List (Option String × Expr)}
    (keyed : keyed? keywords = some found)
    (printed : ∀ e ∈ found, Defined e.2.text) : Defined (Outline.outlineKeywords keywords) := by
  induction keywords generalizing found with
  | nil => exact .ok _
  | cons keyword rest ih =>
    obtain ⟨name, value⟩ := keyword
    cases name with
    | none => simp [keyed?] at keyed
    | some key =>
      simp only [keyed?, Option.map_eq_some_iff] at keyed
      obtain ⟨more, rest', rfl⟩ := keyed
      have here : Defined (Outline.outline .read value) :=
        Outline.outline_defined .read value (printed (some key, value) (by simp))
      exact here.andThen fun _ =>
        (ih rest' fun e member => printed e (List.mem_cons_of_mem _ member)).andThen fun _ => .ok _

theorem each_defined {es : List Expr} (printed : ∀ e ∈ es, Defined e.text) :
    Defined (Outline.outlineEach .read es) := by
  induction es with
  | nil => exact .ok _
  | cons e es ih =>
    exact (Outline.outline_defined .read e (printed e (by simp))).andThen fun _ =>
      (ih fun e' member => printed e' (List.mem_cons_of_mem e member)).andThen fun _ => .ok _

theorem mapError_defined {ε δ α : Type} {x : Except ε α} {f : ε → δ} :
    Defined (x.mapError f) ↔ Defined x := by
  cases x <;> simp [Defined]

/-- Every argument of a directive has been printed. -/
theorem buildArguments_printed {base : Span} {found : List (Option String × Expr)}
    {starts : List Place} (built : Defined (buildArguments base found starts)) :
    ∀ e ∈ found, Defined e.2.text := by
  induction found generalizing starts with
  | nil => simp
  | cons e rest ih =>
    obtain ⟨key, e⟩ := e
    simp only [buildArguments, argument, printed, Defined.bind_iff] at built
    obtain ⟨a, ha, more, hmore, -⟩ := built
    have first : Defined (e.text.mapError SourceFault.print) := by
      have opened : Defined (e.text.mapError SourceFault.print >>= _) := ⟨a, ha⟩
      obtain ⟨source, hsource, -⟩ := Defined.bind_iff.mp opened
      exact ⟨source, hsource⟩
    intro x member
    rcases List.mem_cons.mp member with rfl | later
    · exact mapError_defined.mp first
    · exact ih ⟨more, hmore⟩ x later

theorem ofPhrase_outline {phrase : Reader.Phrase} {span : Span} {d : Directive}
    (read : ofPhrase phrase span = .ok (some d)) : Defined phrase.expr.outline := by
  unfold ofPhrase at read
  unfold Expr.outline
  split at read
  · rename_i target value shape
    have opened : Defined (printed value >>= _) := ⟨_, read⟩
    obtain ⟨source, hsource, -⟩ := Defined.bind_iff.mp opened
    have value' := Outline.outline_defined .read value (mapError_defined.mp ⟨source, hsource⟩)
    rw [shape]
    exact value'.andThen fun _ => .ok _
  · rename_i callee args keywords shape
    split at read
    · rename_i path found dotted arguments
      have opened : Defined (buildArguments span found phrase.argumentStarts >>= _) := ⟨_, read⟩
      obtain ⟨built, hbuilt, -⟩ := Defined.bind_iff.mp opened
      have printed := buildArguments_printed ⟨built, hbuilt⟩
      simp only [arguments?, bind, Option.bind_eq_some_iff, pure, Option.some.injEq] at arguments
      obtain ⟨ps, plain, ks, keyed, rfl⟩ := arguments
      have args' : Defined (Outline.outlineEach .read args) := by
        apply each_defined
        intro e member
        rw [← plain?_exprs plain] at member
        obtain ⟨x, mx, rfl⟩ := List.mem_map.mp member
        exact printed x (List.mem_append_left _ mx)
      have keywords' : Defined (Outline.outlineKeywords keywords) :=
        keyed?_defined keyed fun e member => printed e (List.mem_append_right _ member)
      rw [shape]
      exact (dotted_defined .read callee path dotted).andThen fun _ =>
        args'.andThen fun _ => keywords'.andThen fun _ => .ok _
    · simp at read
  · rename_i e _ _
    simp only [Except.ok.injEq, Option.map_eq_some_iff] at read
    obtain ⟨path, dotted, -⟩ := read
    exact dotted_defined .read _ path dotted

/-- The source of a directive has a structural key. -/
theorem structuralKey_of_read {source : String} {span : Span} {d : Directive}
    (isDirective : read source span = .ok (some d)) :
    ∃ key, Guard.structuralKey source = .ok key := by
  unfold read at isDirective
  cases phrase : bracketedPhrase? source with
  | error fault => simp [phrase, bind, Except.bind] at isDirective
  | ok found =>
    cases found with
    | none => simp [phrase, bind, Except.bind, pure, Except.pure] at isDirective
    | some phrase' =>
      simp only [phrase, bind, Except.bind] at isDirective
      obtain ⟨text, outlined⟩ := ofPhrase_outline isDirective
      exact ⟨text, by simp [Guard.structuralKey, phrase, outlined, bind, Except.bind]⟩

end Directive
end Bindery

import Bindery.Proofs.FormedOutlines

/- The outline of an expression shows the expression, if it has the form in which expressions are
   read. Of other trees some share an outline. -/
namespace Bindery
namespace Outline

theorem parameterSketch_injective {name name' : String}
    (same : parameterSketch name = parameterSketch name') : name = name' := by
  simpa [parameterSketch] using same

theorem logicalName_injective {op op' : LogicalOp} (same : logicalName op = logicalName op') :
    op = op' := by
  cases op <;> cases op' <;> simp_all [logicalName]

theorem unaryName_injective {op op' : UnaryOp} (same : unaryName op = unaryName op') : op = op' := by
  cases op <;> cases op' <;> simp_all [unaryName]

theorem binaryName_injective {op op' : BinaryOp} (same : binaryName op = binaryName op') :
    op = op' := by
  cases op <;> cases op' <;> simp_all [binaryName]

theorem compareName_injective {op op' : CompareOp} (same : compareName op = compareName op') :
    op = op' := by
  cases op <;> cases op' <;> simp_all [compareName]

theorem conversionText_injective {a b : Option Char} (same : conversionText a = conversionText b) :
    a = b := by
  have noSign : ∀ c : Char, conversionText none ≠ conversionText (some c) := by
    intro c same
    have sign : '-' ∈ (toString c.toNat).toList := by
      rw [show toString c.toNat = "-1" from same.symm]
      decide
    exact absurd (number_digits _ _ sign) (by decide)
  cases a with
  | none =>
    cases b with
    | none => rfl
    | some d => exact absurd same (noSign d)
  | some c =>
    cases b with
    | none => exact absurd same.symm (noSign c)
    | some d => rw [Char.toNat_inj.mp (number_injective same)]

/-! ### Parameters -/

theorem map_some_filterMap {α : Type} {ds : List (Option α)} (all : ∀ d ∈ ds, d.isSome = true) :
    (ds.filterMap id).map some = ds := by
  induction ds with
  | nil => rfl
  | cons d ds ih =>
    have rest := ih fun d' member => all d' (List.mem_cons_of_mem d member)
    cases d with
    | none => simpa using all none (by simp)
    | some a => simpa using rest

/-- With nothing absent behind something present, a list is known by its length and by what is
    present. -/
theorem eq_absent_append_present {α : Type} {ds : List (Option α)}
    (last : ds.Pairwise fun d d' => d.isSome = true → d'.isSome = true) :
    ds = List.replicate (ds.length - (ds.filterMap id).length) none ++ (ds.filterMap id).map some := by
  induction ds with
  | nil => rfl
  | cons d ds ih =>
    obtain ⟨first, rest⟩ := List.pairwise_cons.mp last
    cases d with
    | none =>
      have fewer := List.length_filterMap_le id ds
      rw [List.filterMap_cons_none rfl, List.length_cons, Nat.succ_sub fewer, List.replicate_succ,
        List.cons_append, ← ih rest]
    | some a =>
      have present := map_some_filterMap fun d member => first d member rfl
      have full : (ds.filterMap id).length = ds.length := by
        simpa using congrArg List.length present
      have here : (some a :: ds).filterMap id = a :: ds.filterMap id := rfl
      rw [here, List.length_cons, List.length_cons, full, Nat.sub_self, List.map_cons, present]
      rfl

theorem present_inj {α : Type} {ds es : List (Option α)} (length : ds.length = es.length)
    (last : ds.Pairwise fun d d' => d.isSome = true → d'.isSome = true)
    (last' : es.Pairwise fun d d' => d.isSome = true → d'.isSome = true)
    (same : ds.filterMap id = es.filterMap id) : ds = es := by
  rw [eq_absent_append_present last, eq_absent_append_present last', length, same]

theorem length_sketchDefaults (ps : List Parameter) : (sketchDefaults ps).length = ps.length := by
  induction ps with
  | nil => rfl
  | cons p ps ih =>
    obtain ⟨name, default⟩ := p
    cases default <;> simp [sketchDefaults, ih]

theorem sketchDefaults_isSome (ps : List Parameter) :
    (sketchDefaults ps).map Option.isSome = ps.map fun p => p.default?.isSome := by
  induction ps with
  | nil => rfl
  | cons p ps ih =>
    obtain ⟨name, default⟩ := p
    cases default <;> simp [sketchDefaults, ih, Parameter.default?]

theorem sketchDefaults_last {ps qs : List Parameter} (last : DefaultsLast (ps ++ qs)) :
    (sketchDefaults ps ++ sketchDefaults qs).Pairwise
      fun d d' => d.isSome = true → d'.isSome = true := by
  have flags : (sketchDefaults ps ++ sketchDefaults qs).map Option.isSome =
      (ps ++ qs).map fun p => p.default?.isSome := by
    simp [sketchDefaults_isSome]
  have ordered : ((ps ++ qs).map fun p => p.default?.isSome).Pairwise
      fun b b' => b = true → b' = true := List.pairwise_map.mpr last
  rw [← flags] at ordered
  exact List.pairwise_map.mp ordered

/-- The defaults of two adjacent groups of parameters are written as one list. -/
theorem sketchDefaults_inj {ps qs ps' qs' : List Parameter} (last : DefaultsLast (ps ++ qs))
    (last' : DefaultsLast (ps' ++ qs')) (length : ps.length = ps'.length)
    (length' : qs.length = qs'.length)
    (same : (sketchDefaults ps ++ sketchDefaults qs).filterMap id =
      (sketchDefaults ps' ++ sketchDefaults qs').filterMap id) :
    sketchDefaults ps = sketchDefaults ps' ∧ sketchDefaults qs = sketchDefaults qs' := by
  have all := present_inj (by simp [length_sketchDefaults, length, length'])
    (sketchDefaults_last last) (sketchDefaults_last last') same
  exact List.append_inj all (by simp [length_sketchDefaults, length])

/-! ### Nodes -/

/-- The name of an expression's node. -/
def nodeName : Expr → String
  | .constant _ => "Constant"
  | .name _ => "Name"
  | .attribute _ _ => "Attribute"
  | .subscript _ _ => "Subscript"
  | .call _ _ _ => "Call"
  | .logical _ _ => "BoolOp"
  | .named _ _ => "NamedExpr"
  | .binary _ _ _ => "BinOp"
  | .unary _ _ => "UnaryOp"
  | .lambda _ _ _ _ _ _ => "Lambda"
  | .conditional _ _ _ => "IfExp"
  | .dict _ => "Dict"
  | .set _ => "Set"
  | .list _ => "List"
  | .tuple _ => "Tuple"
  | .listComp _ _ => "ListComp"
  | .setComp _ _ => "SetComp"
  | .dictComp _ _ _ => "DictComp"
  | .generatorExp _ _ => "GeneratorExp"
  | .await _ => "Await"
  | .yield _ => "Yield"
  | .yieldFrom _ => "YieldFrom"
  | .compare _ _ => "Compare"
  | .formatted _ _ _ => "FormattedValue"
  | .joined _ => "JoinedStr"
  | .starred _ => "Starred"
  | .slice _ _ _ => "Slice"

theorem sketch_node (role : Role) (e : Expr) :
    ∃ fields, sketch role e = .node (nodeName e) fields := by
  cases e <;> exact ⟨_, by rw [sketch]; rfl⟩

theorem sketch_ne_word (role : Role) (e : Expr) (w : String) : sketch role e ≠ .word w := by
  obtain ⟨fields, node⟩ := sketch_node role e
  simp [node]

theorem nodeName_eq {role role' : Role} {e e' : Expr} (same : sketch role e = sketch role' e') :
    nodeName e = nodeName e' := by
  obtain ⟨fields, node⟩ := sketch_node role e
  obtain ⟨fields', node'⟩ := sketch_node role' e'
  rw [node, node'] at same
  exact (Sketch.node.inj same).1

/-- Absent defaults of keyword-only parameters are written as a word, which no default is. -/
theorem withNone_injective {ds es : List (Option Sketch)}
    (nodes : ∀ s, some s ∈ ds → s ≠ .word "None") (nodes' : ∀ s, some s ∈ es → s ≠ .word "None")
    (same : ds.map (·.getD (.word "None")) = es.map (·.getD (.word "None"))) : ds = es := by
  induction ds generalizing es with
  | nil =>
    cases es with
    | nil => rfl
    | cons e es => simp at same
  | cons d ds ih =>
    cases es with
    | nil => simp at same
    | cons e es =>
      rw [List.map_cons, List.map_cons, List.cons.injEq] at same
      obtain ⟨first, rest⟩ := same
      have tails := ih (fun s member => nodes s (List.mem_cons_of_mem d member))
        (fun s member => nodes' s (List.mem_cons_of_mem e member)) rest
      have heads : d = e := by
        cases d with
        | none =>
          cases e with
          | none => rfl
          | some s => exact absurd first.symm (nodes' s (by simp))
        | some s =>
          cases e with
          | none => exact absurd first (nodes s (by simp))
          | some t => rw [show s = t from first]
      rw [heads, tails]

theorem sketchDefaults_nodes (ps : List Parameter) :
    ∀ s, some s ∈ sketchDefaults ps → s ≠ .word "None" := by
  induction ps with
  | nil => simp [sketchDefaults]
  | cons p ps ih =>
    obtain ⟨name, default⟩ := p
    cases default with
    | none => simpa [sketchDefaults] using ih
    | some e =>
      intro s member
      rw [sketchDefaults, List.mem_cons, Option.some.injEq] at member
      rcases member with rfl | later
      · exact sketch_ne_word .read e "None"
      · exact ih s later

theorem names_inj {ps qs : List Parameter}
    (same : ps.map (fun p => parameterSketch p.name) = qs.map fun p => parameterSketch p.name) :
    ps.map Parameter.name = qs.map Parameter.name := by
  have injective : Function.Injective parameterSketch := fun _ _ => parameterSketch_injective
  refine List.map_injective_iff.mpr injective ?_
  simpa [List.map_map, Function.comp_def] using same

/-- The fields of a list of parameters, of which the starred ones may be absent. -/
theorem parameterFields_inj {a b c d f a' b' c' d' f' : Sketch} {r x r' x' : Option String}
    (same : [.field "posonlyargs" a, .field "args" b] ++ restSketch "vararg" r ++
        [.field "kwonlyargs" c, .field "kw_defaults" d] ++ restSketch "kwarg" x ++
        [.field "defaults" f] =
      [.field "posonlyargs" a', .field "args" b'] ++ restSketch "vararg" r' ++
        [.field "kwonlyargs" c', .field "kw_defaults" d'] ++ restSketch "kwarg" x' ++
        [.field "defaults" f']) :
    a = a' ∧ b = b' ∧ r = r' ∧ c = c' ∧ d = d' ∧ x = x' ∧ f = f' := by
  cases r <;> cases r' <;> cases x <;> cases x' <;>
    simp_all [restSketch, parameterSketch]

theorem sketchOption_inj {field : String} {e e' : Option Expr}
    (same : sketchOption field e = sketchOption field e') :
    Option.Rel (fun e e' => sketch .read e = sketch .read e') e e' := by
  cases e <;> cases e' <;> simp_all [sketchOption]

theorem bounds_inj {l u s l' u' s' : Option Expr}
    (same : sketchOption "lower" l ++ sketchOption "upper" u ++ sketchOption "step" s =
      sketchOption "lower" l' ++ sketchOption "upper" u' ++ sketchOption "step" s') :
    sketchOption "lower" l = sketchOption "lower" l' ∧
      sketchOption "upper" u = sketchOption "upper" u' ∧
      sketchOption "step" s = sketchOption "step" s' := by
  cases l <;> cases l' <;> cases u <;> cases u' <;> cases s <;> cases s' <;>
    simp_all [sketchOption]

mutual

/-- In one role, expressions that are sketched alike are equal. -/
theorem sketch_inj (role : Role) :
    (e e' : Expr) → e.Sound → e'.Sound → sketch role e = sketch role e' → e = e'
  | .constant c, e', sound, sound', same => by
    have names := nodeName_eq same
    cases e' with
    | constant c' =>
      simp only [sketch, Sketch.node.injEq, List.cons.injEq, Sketch.field.injEq, true_and] at same
      rw [constant_inj sound sound' same.1 same.2]
    | _ => simp [nodeName] at names
  | .name id, e', _, _, same => by
    have names := nodeName_eq same
    cases e' with
    | name id' => simpa [sketch, nameSketch] using same
    | _ => simp [nodeName] at names
  | .attribute value attr, e', sound, sound', same => by
    have names := nodeName_eq same
    cases e' with
    | «attribute» value' attr' =>
      simp only [sketch, Sketch.node.injEq, List.cons.injEq, Sketch.field.injEq, Sketch.text.injEq,
        true_and, and_true] at same
      rw [sketch_inj .read value value' sound.1 sound'.1 same.1, same.2]
    | _ => simp [nodeName] at names
  | .subscript value index, e', ⟨v, i⟩, sound', same => by
    have names := nodeName_eq same
    cases e' with
    | subscript value' index' =>
      simp only [sketch, Sketch.node.injEq, List.cons.injEq, Sketch.field.injEq, true_and,
        and_true] at same
      rw [sketch_inj .read value value' v sound'.1 same.1,
        sketch_inj .read index index' i sound'.2 same.2]
    | _ => simp [nodeName] at names
  | .call callee args keywords, e', ⟨f, xs, ks⟩, sound', same => by
    have names := nodeName_eq same
    cases e' with
    | call callee' args' keywords' =>
      simp only [sketch, Sketch.node.injEq, List.cons.injEq, Sketch.field.injEq,
        Sketch.sequence.injEq, true_and, and_true] at same
      rw [sketch_inj .read callee callee' f sound'.1 same.1,
        each_inj .read args args' xs sound'.2.1 same.2.1,
        keywords_inj keywords keywords' ks sound'.2.2 same.2.2]
    | _ => simp [nodeName] at names
  | .logical op operands, e', sound, sound', same => by
    have names := nodeName_eq same
    cases e' with
    | logical op' operands' =>
      simp only [sketch, Sketch.node.injEq, List.cons.injEq, Sketch.field.injEq,
        Sketch.sequence.injEq, true_and, and_true] at same
      rw [logicalName_injective same.1, each_inj .read operands operands' sound sound' same.2]
    | _ => simp [nodeName] at names
  | .named target value, e', sound, sound', same => by
    have names := nodeName_eq same
    cases e' with
    | named target' value' =>
      simp only [sketch, nameSketch, Sketch.node.injEq, List.cons.injEq, Sketch.field.injEq,
        Sketch.text.injEq, true_and, and_true] at same
      rw [same.1, sketch_inj .read value value' sound.1 sound'.1 same.2]
    | _ => simp [nodeName] at names
  | .binary left op right, e', ⟨a, b⟩, sound', same => by
    have names := nodeName_eq same
    cases e' with
    | binary left' op' right' =>
      simp only [sketch, Sketch.node.injEq, List.cons.injEq, Sketch.field.injEq, true_and,
        and_true] at same
      rw [sketch_inj .read left left' a sound'.1 same.1, binaryName_injective same.2.1,
        sketch_inj .read right right' b sound'.2 same.2.2]
    | _ => simp [nodeName] at names
  | .unary op operand, e', sound, sound', same => by
    have names := nodeName_eq same
    cases e' with
    | unary op' operand' =>
      simp only [sketch, Sketch.node.injEq, List.cons.injEq, Sketch.field.injEq, true_and,
        and_true] at same
      rw [unaryName_injective same.1, sketch_inj .read operand operand' sound sound' same.2]
    | _ => simp [nodeName] at names
  | .lambda positionalOnly positional rest keywordOnly extra body, e',
      ⟨last, a, b, c, v, _, _⟩, sound', same => by
    have names := nodeName_eq same
    cases e' with
    | lambda positionalOnly' positional' rest' keywordOnly' extra' body' =>
      obtain ⟨last', a', b', c', v', -, -⟩ := sound'
      simp only [sketch, Sketch.node.injEq, List.cons.injEq, Sketch.field.injEq, true_and,
        and_true] at same
      obtain ⟨fields, bodies⟩ := same
      obtain ⟨as, bs, rfl, cs, ds, rfl, defaults⟩ := parameterFields_inj fields
      have as := names_inj (Sketch.sequence.inj as)
      have bs := names_inj (Sketch.sequence.inj bs)
      obtain ⟨das, dbs⟩ := sketchDefaults_inj last last' (by simpa using congrArg List.length as)
        (by simpa using congrArg List.length bs) (Sketch.sequence.inj defaults)
      have dcs := withNone_injective (sketchDefaults_nodes _) (sketchDefaults_nodes _)
        (Sketch.sequence.inj ds)
      rw [parameters_inj positionalOnly positionalOnly' a a' as das,
        parameters_inj positional positional' b b' bs dbs,
        parameters_inj keywordOnly keywordOnly' c c' (names_inj (Sketch.sequence.inj cs)) dcs,
        sketch_inj .read body body' v v' bodies]
    | _ => simp [nodeName] at names
  | .conditional test body orelse, e', ⟨t, b, e⟩, sound', same => by
    have names := nodeName_eq same
    cases e' with
    | conditional test' body' orelse' =>
      simp only [sketch, Sketch.node.injEq, List.cons.injEq, Sketch.field.injEq, true_and,
        and_true] at same
      rw [sketch_inj .read test test' t sound'.1 same.1,
        sketch_inj .read body body' b sound'.2.1 same.2.1,
        sketch_inj .read orelse orelse' e sound'.2.2 same.2.2]
    | _ => simp [nodeName] at names
  | .dict items, e', sound, sound', same => by
    have names := nodeName_eq same
    cases e' with
    | dict items' =>
      simp only [sketch, Sketch.node.injEq, List.cons.injEq, Sketch.field.injEq,
        Sketch.sequence.injEq, true_and, and_true] at same
      rw [items_inj items items' sound sound' same.1 same.2]
    | _ => simp [nodeName] at names
  | .set elements, e', sound, sound', same => by
    have names := nodeName_eq same
    cases e' with
    | set elements' =>
      simp only [sketch, Sketch.node.injEq, List.cons.injEq, Sketch.field.injEq,
        Sketch.sequence.injEq, true_and, and_true] at same
      rw [each_inj .read elements elements' sound sound' same]
    | _ => simp [nodeName] at names
  | .list elements, e', sound, sound', same => by
    have names := nodeName_eq same
    cases e' with
    | list elements' =>
      simp only [sketch, Sketch.node.injEq, List.cons.injEq, Sketch.field.injEq,
        Sketch.sequence.injEq, true_and, and_true] at same
      rw [each_inj role elements elements' sound sound' same]
    | _ => simp [nodeName] at names
  | .tuple elements, e', sound, sound', same => by
    have names := nodeName_eq same
    cases e' with
    | tuple elements' =>
      simp only [sketch, Sketch.node.injEq, List.cons.injEq, Sketch.field.injEq,
        Sketch.sequence.injEq, true_and, and_true] at same
      rw [each_inj role elements elements' sound sound' same]
    | _ => simp [nodeName] at names
  | .listComp element generators, e', ⟨e, gs⟩, sound', same => by
    have names := nodeName_eq same
    cases e' with
    | listComp element' generators' =>
      simp only [sketch, Sketch.node.injEq, List.cons.injEq, Sketch.field.injEq,
        Sketch.sequence.injEq, true_and, and_true] at same
      rw [sketch_inj .read element element' e sound'.1 same.1,
        generators_inj generators generators' gs sound'.2 same.2]
    | _ => simp [nodeName] at names
  | .setComp element generators, e', ⟨e, gs⟩, sound', same => by
    have names := nodeName_eq same
    cases e' with
    | setComp element' generators' =>
      simp only [sketch, Sketch.node.injEq, List.cons.injEq, Sketch.field.injEq,
        Sketch.sequence.injEq, true_and, and_true] at same
      rw [sketch_inj .read element element' e sound'.1 same.1,
        generators_inj generators generators' gs sound'.2 same.2]
    | _ => simp [nodeName] at names
  | .dictComp key value generators, e', ⟨k, v, gs⟩, sound', same => by
    have names := nodeName_eq same
    cases e' with
    | dictComp key' value' generators' =>
      simp only [sketch, Sketch.node.injEq, List.cons.injEq, Sketch.field.injEq,
        Sketch.sequence.injEq, true_and, and_true] at same
      rw [sketch_inj .read key key' k sound'.1 same.1,
        sketch_inj .read value value' v sound'.2.1 same.2.1,
        generators_inj generators generators' gs sound'.2.2 same.2.2]
    | _ => simp [nodeName] at names
  | .generatorExp element generators, e', ⟨e, gs⟩, sound', same => by
    have names := nodeName_eq same
    cases e' with
    | generatorExp element' generators' =>
      simp only [sketch, Sketch.node.injEq, List.cons.injEq, Sketch.field.injEq,
        Sketch.sequence.injEq, true_and, and_true] at same
      rw [sketch_inj .read element element' e sound'.1 same.1,
        generators_inj generators generators' gs sound'.2 same.2]
    | _ => simp [nodeName] at names
  | .await value, e', sound, sound', same => by
    have names := nodeName_eq same
    cases e' with
    | await value' =>
      simp only [sketch, Sketch.node.injEq, List.cons.injEq, Sketch.field.injEq, true_and,
        and_true] at same
      rw [sketch_inj .read value value' sound sound' same]
    | _ => simp [nodeName] at names
  | .yield value, e', sound, sound', same => by
    have names := nodeName_eq same
    cases e' with
    | yield value' =>
      simp only [sketch, Sketch.node.injEq, true_and] at same
      rw [option_inj value value' sound sound' (sketchOption_inj same)]
    | _ => simp [nodeName] at names
  | .yieldFrom value, e', sound, sound', same => by
    have names := nodeName_eq same
    cases e' with
    | yieldFrom value' =>
      simp only [sketch, Sketch.node.injEq, List.cons.injEq, Sketch.field.injEq, true_and,
        and_true] at same
      rw [sketch_inj .read value value' sound sound' same]
    | _ => simp [nodeName] at names
  | .compare left rest, e', ⟨l, rs⟩, sound', same => by
    have names := nodeName_eq same
    cases e' with
    | compare left' rest' =>
      simp only [sketch, Sketch.node.injEq, List.cons.injEq, Sketch.field.injEq,
        Sketch.sequence.injEq, true_and, and_true] at same
      rw [sketch_inj .read left left' l sound'.1 same.1,
        comparisons_inj rest rest' rs sound'.2 same.2.1 same.2.2]
    | _ => simp [nodeName] at names
  | .formatted value conversion format, e', ⟨v, f, _⟩, sound', same => by
    have names := nodeName_eq same
    cases e' with
    | formatted value' conversion' format' =>
      simp only [sketch, Sketch.node.injEq, List.cons_append, List.nil_append, List.cons.injEq,
        Sketch.field.injEq, Sketch.word.injEq, true_and] at same
      rw [sketch_inj .read value value' v sound'.1 same.1, conversionText_injective same.2.1,
        option_inj format format' f sound'.2.1 (sketchOption_inj same.2.2)]
    | _ => simp [nodeName] at names
  | .joined parts, e', sound, sound', same => by
    have names := nodeName_eq same
    cases e' with
    | joined parts' =>
      simp only [sketch, Sketch.node.injEq, List.cons.injEq, Sketch.field.injEq,
        Sketch.sequence.injEq, true_and, and_true] at same
      rw [each_inj .read parts parts' sound sound' same]
    | _ => simp [nodeName] at names
  | .starred value, e', sound, sound', same => by
    have names := nodeName_eq same
    cases e' with
    | starred value' =>
      simp only [sketch, Sketch.node.injEq, List.cons.injEq, Sketch.field.injEq, true_and,
        and_true] at same
      rw [sketch_inj role value value' sound sound' same]
    | _ => simp [nodeName] at names
  | .slice lower upper step, e', ⟨l, u, s⟩, sound', same => by
    have names := nodeName_eq same
    cases e' with
    | slice lower' upper' step' =>
      simp only [sketch, Sketch.node.injEq, true_and] at same
      obtain ⟨ls, us, ss⟩ := bounds_inj same
      rw [option_inj lower lower' l sound'.1 (sketchOption_inj ls),
        option_inj upper upper' u sound'.2.1 (sketchOption_inj us),
        option_inj step step' s sound'.2.2 (sketchOption_inj ss)]
    | _ => simp [nodeName] at names
termination_by structural e => e

theorem option_inj :
    (e e' : Option Expr) → SoundOption e → SoundOption e' →
      Option.Rel (fun e e' => sketch .read e = sketch .read e') e e' → e = e'
  | none, none, _, _, _ => rfl
  | some e, some e', sound, sound', .some same => by rw [sketch_inj .read e e' sound sound' same]
termination_by structural e => e

theorem each_inj (role : Role) :
    (es es' : List Expr) → SoundEach es → SoundEach es' →
      sketchEach role es = sketchEach role es' → es = es'
  | [], [], _, _, _ => rfl
  | e :: es, e' :: es', ⟨first, rest⟩, ⟨first', rest'⟩, same => by
    simp only [sketchEach, List.cons.injEq] at same
    rw [sketch_inj role e e' first first' same.1, each_inj role es es' rest rest' same.2]
  | [], _ :: _, _, _, same => by simp [sketchEach] at same
  | _ :: _, [], _, _, same => by simp [sketchEach] at same
termination_by structural e => e

theorem keywords_inj :
    (ks ks' : List Keyword) → SoundKeywords ks → SoundKeywords ks' →
      sketchKeywords ks = sketchKeywords ks' → ks = ks'
  | [], [], _, _, _ => rfl
  | .mk name value :: rest, .mk name' value' :: rest', ⟨v, _, more⟩, ⟨v', _, more'⟩, same => by
    simp only [sketchKeywords, List.cons.injEq, Sketch.node.injEq, true_and] at same
    obtain ⟨fields, tails⟩ := same
    have parts : name = name' ∧ sketch .read value = sketch .read value' := by
      cases name <;> cases name' <;> simp_all
    rw [parts.1, sketch_inj .read value value' v v' parts.2,
      keywords_inj rest rest' more more' tails]
  | [], .mk _ _ :: _, _, _, same => by simp [sketchKeywords] at same
  | .mk _ _ :: _, [], _, _, same => by simp [sketchKeywords] at same
termination_by structural e => e

theorem items_inj :
    (items items' : List DictItem) → SoundItems items → SoundItems items' →
      sketchKeys items = sketchKeys items' → sketchValues items = sketchValues items' →
      items = items'
  | [], [], _, _, _, _ => rfl
  | .pair key value :: rest, .pair key' value' :: rest', ⟨k, v, more⟩, ⟨k', v', more'⟩, keys,
      values => by
    simp only [sketchKeys, sketchValues, List.cons.injEq] at keys values
    rw [sketch_inj .read key key' k k' keys.1, sketch_inj .read value value' v v' values.1,
      items_inj rest rest' more more' keys.2 values.2]
  | .spread value :: rest, .spread value' :: rest', ⟨v, more⟩, ⟨v', more'⟩, keys, values => by
    simp only [sketchKeys, sketchValues, List.cons.injEq, true_and] at keys values
    rw [sketch_inj .read value value' v v' values.1,
      items_inj rest rest' more more' keys values.2]
  | .pair key _ :: _, .spread _ :: _, _, _, keys, _ => by
    simp only [sketchKeys, List.cons.injEq] at keys
    exact absurd keys.1 (sketch_ne_word .read key "None")
  | .spread _ :: _, .pair key _ :: _, _, _, keys, _ => by
    simp only [sketchKeys, List.cons.injEq] at keys
    exact absurd keys.1.symm (sketch_ne_word .read key "None")
  | [], .pair _ _ :: _, _, _, keys, _ => by simp [sketchKeys] at keys
  | [], .spread _ :: _, _, _, keys, _ => by simp [sketchKeys] at keys
  | .pair _ _ :: _, [], _, _, keys, _ => by simp [sketchKeys] at keys
  | .spread _ :: _, [], _, _, keys, _ => by simp [sketchKeys] at keys
termination_by structural e => e

theorem generators_inj :
    (gs gs' : List Generator) → SoundGenerators gs → SoundGenerators gs' →
      sketchGenerators gs = sketchGenerators gs' → gs = gs'
  | [], [], _, _, _ => rfl
  | .mk isAsync target source conditions :: rest, .mk isAsync' target' source' conditions' :: rest',
      ⟨t, s, cs, more⟩, ⟨t', s', cs', more'⟩, same => by
    simp only [sketchGenerators, List.cons.injEq, Sketch.node.injEq, Sketch.field.injEq,
      Sketch.sequence.injEq, Sketch.word.injEq, true_and, and_true] at same
    obtain ⟨⟨targets, sources, tests, modes⟩, tails⟩ := same
    have mode : isAsync = isAsync' := by
      cases isAsync <;> cases isAsync' <;> simp_all
    rw [mode, sketch_inj .assigned target target' t t' targets,
      sketch_inj .read source source' s s' sources,
      each_inj .read conditions conditions' cs cs' tests,
      generators_inj rest rest' more more' tails]
  | [], .mk _ _ _ _ :: _, _, _, same => by simp [sketchGenerators] at same
  | .mk _ _ _ _ :: _, [], _, _, same => by simp [sketchGenerators] at same
termination_by structural e => e

theorem parameters_inj :
    (ps ps' : List Parameter) → SoundParameters ps → SoundParameters ps' →
      ps.map Parameter.name = ps'.map Parameter.name → sketchDefaults ps = sketchDefaults ps' →
      ps = ps'
  | [], [], _, _, _, _ => rfl
  | .mk name none :: rest, .mk name' none :: rest', ⟨_, _, more⟩, ⟨_, _, more'⟩, names, defaults => by
    simp only [List.map_cons, Parameter.name, sketchDefaults, List.cons.injEq, true_and]
      at names defaults
    rw [names.1, parameters_inj rest rest' more more' names.2 defaults]
  | .mk name (some d) :: rest, .mk name' (some d') :: rest', ⟨sound, _, more⟩, ⟨sound', _, more'⟩,
      names, defaults => by
    simp only [List.map_cons, Parameter.name, sketchDefaults, List.cons.injEq, Option.some.injEq]
      at names defaults
    rw [names.1, sketch_inj .read d d' sound sound' defaults.1,
      parameters_inj rest rest' more more' names.2 defaults.2]
  | [], _ :: _, _, _, names, _ => by simp at names
  | _ :: _, [], _, _, names, _ => by simp at names
  | .mk _ none :: _, .mk _ (some _) :: _, _, _, _, defaults => by simp [sketchDefaults] at defaults
  | .mk _ (some _) :: _, .mk _ none :: _, _, _, _, defaults => by simp [sketchDefaults] at defaults
termination_by structural e => e

theorem comparisons_inj :
    (cs cs' : List Comparison) → SoundComparisons cs → SoundComparisons cs' →
      sketchOperators cs = sketchOperators cs' → sketchComparators cs = sketchComparators cs' →
      cs = cs'
  | [], [], _, _, _, _ => rfl
  | .mk op right :: rest, .mk op' right' :: rest', ⟨r, more⟩, ⟨r', more'⟩, ops, operands => by
    simp only [sketchOperators, sketchComparators, List.cons.injEq, Sketch.node.injEq, and_true]
      at ops operands
    rw [compareName_injective ops.1, sketch_inj .read right right' r r' operands.1,
      comparisons_inj rest rest' more more' ops.2 operands.2]
  | [], .mk _ _ :: _, _, _, ops, _ => by simp [sketchOperators] at ops
  | .mk _ _ :: _, [], _, _, ops, _ => by simp [sketchOperators] at ops
termination_by structural e => e

end

end Outline
end Bindery

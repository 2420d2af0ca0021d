import Bindery.Proofs.Outcomes
import Bindery.Proofs.Sketches
import Mathlib.Data.List.Forall2

/- Outlines as trees of parts: what an outline writes is the text of such a tree. -/
namespace Bindery

def Parameter.name : Parameter → String
  | .mk name _ => name

namespace Outline

/-! ### Outlines as trees -/

def constantSketch : Constant → Sketch
  | .none => .word "None"
  | .true => .word "True"
  | .false => .word "False"
  | .ellipsis => .word "Ellipsis"
  | .integer n => .word (toString n)
  | .real x => .word x.text
  | .imaginary x => .word x.imaginaryText
  | .text s _ => .text s
  | .bytes bs => .bytes bs

def kindSketch : Constant → List Sketch
  | .text _ true => [.field "kind" (.text "u")]
  | _ => []

def Role.sketch : Role → Sketch
  | .read => .node "Load" []
  | .assigned => .node "Store" []

def nameSketch (id : String) (role : Role) : Sketch :=
  .node "Name" [.field "id" (.text id), .field "ctx" role.sketch]

def parameterSketch (name : String) : Sketch := .node "arg" [.field "arg" (.text name)]

/-- A parameter that stands alone behind its stars. -/
def restSketch (field : String) (name : Option String) : List Sketch :=
  (name.map fun name => Sketch.field field (parameterSketch name)).toList

mutual

def sketch (role : Role) : Expr → Sketch
  | .constant c => .node "Constant" (.field "value" (constantSketch c) :: kindSketch c)
  | .name id => nameSketch id role
  | .attribute value attr =>
    .node "Attribute"
      [.field "value" (sketch .read value), .field "attr" (.text attr), .field "ctx" role.sketch]
  | .subscript value index =>
    .node "Subscript"
      [.field "value" (sketch .read value), .field "slice" (sketch .read index),
       .field "ctx" role.sketch]
  | .call callee args keywords =>
    .node "Call"
      [.field "func" (sketch .read callee), .field "args" (.sequence (sketchEach .read args)),
       .field "keywords" (.sequence (sketchKeywords keywords))]
  | .logical op operands =>
    .node "BoolOp"
      [.field "op" (.node (logicalName op) []),
       .field "values" (.sequence (sketchEach .read operands))]
  | .named target value =>
    .node "NamedExpr"
      [.field "target" (nameSketch target .assigned), .field "value" (sketch .read value)]
  | .binary left op right =>
    .node "BinOp"
      [.field "left" (sketch .read left), .field "op" (.node (binaryName op) []),
       .field "right" (sketch .read right)]
  | .unary op operand =>
    .node "UnaryOp"
      [.field "op" (.node (unaryName op) []), .field "operand" (sketch .read operand)]
  | .lambda positionalOnly positional rest keywordOnly extra body =>
    .node "Lambda"
      [.field "args" (.node "arguments"
        ([.field "posonlyargs" (.sequence (positionalOnly.map fun p => parameterSketch p.name)),
          .field "args" (.sequence (positional.map fun p => parameterSketch p.name))] ++
         restSketch "vararg" rest ++
         [.field "kwonlyargs" (.sequence (keywordOnly.map fun p => parameterSketch p.name)),
          .field "kw_defaults"
            (.sequence ((sketchDefaults keywordOnly).map (·.getD (.word "None"))))] ++
         restSketch "kwarg" extra ++
         [.field "defaults" (.sequence
           ((sketchDefaults positionalOnly ++ sketchDefaults positional).filterMap id))])),
       .field "body" (sketch .read body)]
  | .conditional test body orelse =>
    .node "IfExp"
      [.field "test" (sketch .read test), .field "body" (sketch .read body),
       .field "orelse" (sketch .read orelse)]
  | .dict items =>
    .node "Dict"
      [.field "keys" (.sequence (sketchKeys items)),
       .field "values" (.sequence (sketchValues items))]
  | .set elements => .node "Set" [.field "elts" (.sequence (sketchEach .read elements))]
  | .list elements =>
    .node "List" [.field "elts" (.sequence (sketchEach role elements)), .field "ctx" role.sketch]
  | .tuple elements =>
    .node "Tuple" [.field "elts" (.sequence (sketchEach role elements)), .field "ctx" role.sketch]
  | .listComp element generators =>
    .node "ListComp"
      [.field "elt" (sketch .read element),
       .field "generators" (.sequence (sketchGenerators generators))]
  | .setComp element generators =>
    .node "SetComp"
      [.field "elt" (sketch .read element),
       .field "generators" (.sequence (sketchGenerators generators))]
  | .dictComp key value generators =>
    .node "DictComp"
      [.field "key" (sketch .read key), .field "value" (sketch .read value),
       .field "generators" (.sequence (sketchGenerators generators))]
  | .generatorExp element generators =>
    .node "GeneratorExp"
      [.field "elt" (sketch .read element),
       .field "generators" (.sequence (sketchGenerators generators))]
  | .await value => .node "Await" [.field "value" (sketch .read value)]
  | .yield value => .node "Yield" (sketchOption "value" value)
  | .yieldFrom value => .node "YieldFrom" [.field "value" (sketch .read value)]
  | .compare left rest =>
    .node "Compare"
      [.field "left" (sketch .read left),
       .field "ops" (.sequence (sketchOperators rest)),
       .field "comparators" (.sequence (sketchComparators rest))]
  | .formatted value conversion format =>
    .node "FormattedValue"
      ([.field "value" (sketch .read value),
        .field "conversion" (.word (conversionText conversion))] ++
       sketchOption "format_spec" format)
  | .joined parts => .node "JoinedStr" [.field "values" (.sequence (sketchEach .read parts))]
  | .starred value =>
    .node "Starred" [.field "value" (sketch role value), .field "ctx" role.sketch]
  | .slice lower upper step =>
    .node "Slice"
      (sketchOption "lower" lower ++ sketchOption "upper" upper ++ sketchOption "step" step)

def sketchOption (field : String) : Option Expr → List Sketch
  | none => []
  | some e => [.field field (sketch .read e)]

def sketchEach (role : Role) : List Expr → List Sketch
  | [] => []
  | e :: es => sketch role e :: sketchEach role es

def sketchKeywords : List Keyword → List Sketch
  | [] => []
  | .mk name value :: rest =>
    .node "keyword"
      ((name.map fun n => Sketch.field "arg" (.text n)).toList ++
        [.field "value" (sketch .read value)]) :: sketchKeywords rest

def sketchKeys : List DictItem → List Sketch
  | [] => []
  | .pair key _ :: rest => sketch .read key :: sketchKeys rest
  | .spread _ :: rest => .word "None" :: sketchKeys rest

def sketchValues : List DictItem → List Sketch
  | [] => []
  | .pair _ value :: rest => sketch .read value :: sketchValues rest
  | .spread value :: rest => sketch .read value :: sketchValues rest

def sketchGenerators : List Generator → List Sketch
  | [] => []
  | .mk isAsync target source conditions :: rest =>
    .node "comprehension"
      [.field "target" (sketch .assigned target), .field "iter" (sketch .read source),
       .field "ifs" (.sequence (sketchEach .read conditions)),
       .field "is_async" (.word (if isAsync then "1" else "0"))] :: sketchGenerators rest

def sketchDefaults : List Parameter → List (Option Sketch)
  | [] => []
  | .mk _ none :: rest => none :: sketchDefaults rest
  | .mk _ (some default) :: rest => some (sketch .read default) :: sketchDefaults rest

def sketchOperators : List Comparison → List Sketch
  | [] => []
  | .mk op _ :: rest => .node (compareName op) [] :: sketchOperators rest

def sketchComparators : List Comparison → List Sketch
  | [] => []
  | .mk _ right :: rest => sketch .read right :: sketchComparators rest

end

/-! ### The text of an outline -/

/-- The text of one part. -/
def Renders (s : String) (k : Sketch) : Prop := s.toList = k.render

/-- The texts of several parts. -/
abbrev RendersEach : List String → List Sketch → Prop := List.Forall₂ Renders

/-- The texts of the fields of a node. -/
abbrev RendersFields : List (String × String) → List Sketch → Prop :=
  List.Forall₂ fun f k => ∃ value, k = .field f.1 value ∧ Renders f.2 value

theorem Renders.word (w : String) : Renders w (.word w) := by rw [Renders, Sketch.render]

theorem Renders.text (s : String) : Renders (Text.quoted s) (.text s) := by
  rw [Renders, Sketch.render]

theorem Renders.bytes (bs : List UInt8) : Renders (Text.quotedBytes bs) (.bytes bs) := by
  rw [Renders, Sketch.render]

theorem RendersEach.listed {ss : List String} {ks : List Sketch} (renders : RendersEach ss ks)
    (closing : Char) :
    (", ".intercalate ss).toList ++ [closing] = Sketch.renderUpTo closing ks := by
  rw [String.toList_intercalate]
  induction renders with
  | nil => simp [Sketch.renderUpTo]
  | @cons s k ss ks first rest ih =>
    cases rest with
    | nil => simp [Sketch.renderUpTo, first.symm]
    | cons second rest =>
      rw [Sketch.renderUpTo, ← ih, ← first]
      simp [List.intercalate_cons_cons]

theorem RendersFields.each {fs : List (String × String)} {ks : List Sketch}
    (renders : RendersFields fs ks) :
    RendersEach (fs.map fun (field, value) => field ++ "=" ++ value) ks := by
  rw [RendersEach, List.forall₂_map_left_iff]
  refine renders.imp fun f k ⟨value, same, text⟩ => ?_
  rw [Renders, same, Sketch.render, ← text]
  simp

theorem Renders.node {name : String} {fs : List (String × String)} {ks : List Sketch}
    (renders : RendersFields fs ks) : Renders (node name fs) (.node name ks) := by
  rw [Renders, Sketch.render, ← renders.each.listed]
  simp [Outline.node]

theorem Renders.sequence {ss : List String} {ks : List Sketch} (renders : RendersEach ss ks) :
    Renders (sequence ss) (.sequence ks) := by
  rw [Renders, Sketch.render, ← renders.listed]
  simp [Outline.sequence]

/-! ### The parts of an outline -/

theorem renders_kind (c : Constant) :
    RendersFields (match c with | .text _ true => [("kind", "'u'")] | _ => []) (kindSketch c) := by
  match c with
  | .text _ true => exact .cons ⟨_, rfl, by rw [Renders, Sketch.render]; decide +kernel⟩ .nil
  | .text _ false | .none | .true | .false | .ellipsis | .integer _ | .real _ | .imaginary _
  | .bytes _ => exact .nil

theorem renders_constant (c : Constant) :
    Gives (constantText c) fun s => Renders s (constantSketch c) := by
  cases c with
  | integer n =>
    change Gives (Printer.integerText n) fun s => Renders s (.word (toString n))
    unfold Printer.integerText
    split
    · exact .ok (.word _)
    · rintro _ ⟨⟩
  | text s => exact .ok (.text s)
  | bytes bs => exact .ok (.bytes bs)
  | _ => exact .ok (.word _)

theorem renders_role (role : Role) : Renders role.text role.sketch := by
  cases role <;> (rw [Renders]; decide +kernel)

theorem renders_name (id : String) (role : Role) : Renders (nameNode id role) (nameSketch id role) :=
  .node (.cons ⟨_, rfl, .text id⟩ (.cons ⟨_, rfl, renders_role role⟩ .nil))

theorem renders_parameter (name : String) :
    Renders (parameterNode name) (parameterSketch name) :=
  .node (.cons ⟨_, rfl, .text name⟩ .nil)

theorem renders_rest (field : String) (name : Option String) :
    RendersFields (name.map fun name => (field, parameterNode name)).toList
      (restSketch field name) := by
  cases name with
  | none => exact .nil
  | some name => exact .cons ⟨_, rfl, renders_parameter name⟩ .nil

theorem renders_defaults {ds : List (Option String)} {ks : List (Option Sketch)}
    (renders : List.Forall₂ (Option.Rel Renders) ds ks) :
    RendersEach (ds.map (·.getD "None")) (ks.map (·.getD (.word "None"))) ∧
      RendersEach (ds.filterMap id) (ks.filterMap id) := by
  induction renders with
  | nil => exact ⟨.nil, .nil⟩
  | cons first _ ih =>
    cases first with
    | none => exact ⟨.cons (.word _) ih.1, by simpa using ih.2⟩
    | some renders => exact ⟨.cons renders ih.1, .cons renders ih.2⟩

mutual

theorem renders_outline (role : Role) :
    (e : Expr) → Gives (outline role e) fun s => Renders s (sketch role e)
  | .constant c => (renders_constant c).andThen fun _ value =>
    .ok (.node (.cons ⟨_, rfl, value⟩ (renders_kind c)))
  | .name id => .ok (renders_name id role)
  | .attribute value attr => (renders_outline .read value).andThen fun _ v =>
    .ok (.node (.cons ⟨_, rfl, v⟩
      (.cons ⟨_, rfl, .text attr⟩ (.cons ⟨_, rfl, renders_role role⟩ .nil))))
  | .subscript value index => (renders_outline .read value).andThen fun _ v =>
    (renders_outline .read index).andThen fun _ i =>
    .ok (.node (.cons ⟨_, rfl, v⟩ (.cons ⟨_, rfl, i⟩ (.cons ⟨_, rfl, renders_role role⟩ .nil))))
  | .call callee args keywords => (renders_outline .read callee).andThen fun _ f =>
    (renders_each .read args).andThen fun _ xs =>
    (renders_keywords keywords).andThen fun _ ks =>
    .ok (.node (.cons ⟨_, rfl, f⟩
      (.cons ⟨_, rfl, .sequence xs⟩ (.cons ⟨_, rfl, .sequence ks⟩ .nil))))
  | .logical _ operands => (renders_each .read operands).andThen fun _ xs =>
    .ok (.node (.cons ⟨_, rfl, .node .nil⟩ (.cons ⟨_, rfl, .sequence xs⟩ .nil)))
  | .named target value => (renders_outline .read value).andThen fun _ v =>
    .ok (.node (.cons ⟨_, rfl, renders_name target .assigned⟩ (.cons ⟨_, rfl, v⟩ .nil)))
  | .binary left _ right => (renders_outline .read left).andThen fun _ a =>
    (renders_outline .read right).andThen fun _ b =>
    .ok (.node (.cons ⟨_, rfl, a⟩ (.cons ⟨_, rfl, .node .nil⟩ (.cons ⟨_, rfl, b⟩ .nil))))
  | .unary _ operand => (renders_outline .read operand).andThen fun _ v =>
    .ok (.node (.cons ⟨_, rfl, .node .nil⟩ (.cons ⟨_, rfl, v⟩ .nil)))
  | .lambda positionalOnly positional rest keywordOnly extra body =>
    (renders_parameters positionalOnly).andThen fun _ ra =>
    (renders_parameters positional).andThen fun _ rb =>
    (renders_parameters keywordOnly).andThen fun _ rc =>
    (renders_outline .read body).andThen fun _ v =>
    .ok (.node (.cons ⟨_, rfl, .node (List.rel_append (List.rel_append (List.rel_append
      (List.rel_append (.cons ⟨_, rfl, .sequence ra.1⟩ (.cons ⟨_, rfl, .sequence rb.1⟩ .nil))
        (renders_rest "vararg" rest))
      (.cons ⟨_, rfl, .sequence rc.1⟩
        (.cons ⟨_, rfl, .sequence (renders_defaults rc.2).1⟩ .nil)))
      (renders_rest "kwarg" extra))
      (.cons ⟨_, rfl, .sequence (renders_defaults (List.rel_append ra.2 rb.2)).2⟩ .nil))⟩
      (.cons ⟨_, rfl, v⟩ .nil)))
  | .conditional test body orelse => (renders_outline .read test).andThen fun _ t =>
    (renders_outline .read body).andThen fun _ b =>
    (renders_outline .read orelse).andThen fun _ e =>
    .ok (.node (.cons ⟨_, rfl, t⟩ (.cons ⟨_, rfl, b⟩ (.cons ⟨_, rfl, e⟩ .nil))))
  | .dict items => (renders_keys items).andThen fun _ ks =>
    (renders_values items).andThen fun _ vs =>
    .ok (.node (.cons ⟨_, rfl, .sequence ks⟩ (.cons ⟨_, rfl, .sequence vs⟩ .nil)))
  | .set elements => (renders_each .read elements).andThen fun _ xs =>
    .ok (.node (.cons ⟨_, rfl, .sequence xs⟩ .nil))
  | .list elements => (renders_each role elements).andThen fun _ xs =>
    .ok (.node (.cons ⟨_, rfl, .sequence xs⟩ (.cons ⟨_, rfl, renders_role role⟩ .nil)))
  | .tuple elements => (renders_each role elements).andThen fun _ xs =>
    .ok (.node (.cons ⟨_, rfl, .sequence xs⟩ (.cons ⟨_, rfl, renders_role role⟩ .nil)))
  | .listComp element generators => (renders_outline .read element).andThen fun _ e =>
    (renders_generators generators).andThen fun _ gs =>
    .ok (.node (.cons ⟨_, rfl, e⟩ (.cons ⟨_, rfl, .sequence gs⟩ .nil)))
  | .setComp element generators => (renders_outline .read element).andThen fun _ e =>
    (renders_generators generators).andThen fun _ gs =>
    .ok (.node (.cons ⟨_, rfl, e⟩ (.cons ⟨_, rfl, .sequence gs⟩ .nil)))
  | .dictComp key value generators => (renders_outline .read key).andThen fun _ k =>
    (renders_outline .read value).andThen fun _ v =>
    (renders_generators generators).andThen fun _ gs =>
    .ok (.node (.cons ⟨_, rfl, k⟩ (.cons ⟨_, rfl, v⟩ (.cons ⟨_, rfl, .sequence gs⟩ .nil))))
  | .generatorExp element generators => (renders_outline .read element).andThen fun _ e =>
    (renders_generators generators).andThen fun _ gs =>
    .ok (.node (.cons ⟨_, rfl, e⟩ (.cons ⟨_, rfl, .sequence gs⟩ .nil)))
  | .await value => (renders_outline .read value).andThen fun _ v =>
    .ok (.node (.cons ⟨_, rfl, v⟩ .nil))
  | .yield value => (renders_option "value" value).andThen fun _ v => .ok (.node v)
  | .yieldFrom value => (renders_outline .read value).andThen fun _ v =>
    .ok (.node (.cons ⟨_, rfl, v⟩ .nil))
  | .compare left rest => (renders_outline .read left).andThen fun _ l =>
    (renders_comparisons rest).andThen fun _ rs =>
    .ok (.node (.cons ⟨_, rfl, l⟩
      (.cons ⟨_, rfl, .sequence rs.1⟩ (.cons ⟨_, rfl, .sequence rs.2⟩ .nil))))
  | .formatted value _ format => (renders_outline .read value).andThen fun _ v =>
    (renders_option "format_spec" format).andThen fun _ f =>
    .ok (.node (.cons ⟨_, rfl, v⟩ (.cons ⟨_, rfl, .word _⟩ f)))
  | .joined parts => (renders_each .read parts).andThen fun _ xs =>
    .ok (.node (.cons ⟨_, rfl, .sequence xs⟩ .nil))
  | .starred value => (renders_outline role value).andThen fun _ v =>
    .ok (.node (.cons ⟨_, rfl, v⟩ (.cons ⟨_, rfl, renders_role role⟩ .nil)))
  | .slice lower upper step => (renders_option "lower" lower).andThen fun _ l =>
    (renders_option "upper" upper).andThen fun _ u =>
    (renders_option "step" step).andThen fun _ s =>
    .ok (.node (List.rel_append (List.rel_append l u) s))

theorem renders_option (field : String) :
    (e : Option Expr) → Gives (outlineOption field e) fun s => RendersFields s (sketchOption field e)
  | none => .ok .nil
  | some e => (renders_outline .read e).andThen fun _ s => .ok (.cons ⟨_, rfl, s⟩ .nil)

theorem renders_each (role : Role) :
    (es : List Expr) → Gives (outlineEach role es) fun ss => RendersEach ss (sketchEach role es)
  | [] => .ok .nil
  | e :: es => (renders_outline role e).andThen fun _ s =>
    (renders_each role es).andThen fun _ ss => .ok (.cons s ss)

theorem renders_keywords :
    (ks : List Keyword) → Gives (outlineKeywords ks) fun ss => RendersEach ss (sketchKeywords ks)
  | [] => .ok .nil
  | .mk name value :: rest => (renders_outline .read value).andThen fun _ v =>
    (renders_keywords rest).andThen fun _ vs => by
    refine .ok (.cons (.node (List.rel_append ?_ (.cons ⟨_, rfl, v⟩ .nil))) vs)
    cases name with
    | none => exact .nil
    | some n => exact .cons ⟨_, rfl, .text n⟩ .nil

theorem renders_keys :
    (items : List DictItem) → Gives (outlineKeys items) fun ss => RendersEach ss (sketchKeys items)
  | [] => .ok .nil
  | .pair key _ :: rest => (renders_outline .read key).andThen fun _ k =>
    (renders_keys rest).andThen fun _ ks => .ok (.cons k ks)
  | .spread _ :: rest => (renders_keys rest).andThen fun _ ks => .ok (.cons (.word _) ks)

theorem renders_values :
    (items : List DictItem) →
      Gives (outlineValues items) fun ss => RendersEach ss (sketchValues items)
  | [] => .ok .nil
  | .pair _ value :: rest => (renders_outline .read value).andThen fun _ v =>
    (renders_values rest).andThen fun _ vs => .ok (.cons v vs)
  | .spread value :: rest => (renders_outline .read value).andThen fun _ v =>
    (renders_values rest).andThen fun _ vs => .ok (.cons v vs)

theorem renders_generators :
    (gs : List Generator) →
      Gives (outlineGenerators gs) fun ss => RendersEach ss (sketchGenerators gs)
  | [] => .ok .nil
  | .mk _ target source conditions :: rest => (renders_outline .assigned target).andThen fun _ t =>
    (renders_outline .read source).andThen fun _ s =>
    (renders_each .read conditions).andThen fun _ cs =>
    (renders_generators rest).andThen fun _ more =>
    .ok (.cons (.node (.cons ⟨_, rfl, t⟩ (.cons ⟨_, rfl, s⟩ (.cons ⟨_, rfl, .sequence cs⟩
      (.cons ⟨_, rfl, .word _⟩ .nil))))) more)

theorem renders_parameters :
    (ps : List Parameter) → Gives (outlineParameters ps) fun r =>
      RendersEach r.1 (ps.map fun p => parameterSketch p.name) ∧
        List.Forall₂ (Option.Rel Renders) r.2 (sketchDefaults ps)
  | [] => .ok ⟨.nil, .nil⟩
  | .mk name none :: rest => (renders_parameters rest).andThen fun _ more =>
    .ok ⟨.cons (renders_parameter name) more.1, .cons .none more.2⟩
  | .mk name (some default) :: rest => (renders_outline .read default).andThen fun _ d =>
    (renders_parameters rest).andThen fun _ more =>
    .ok ⟨.cons (renders_parameter name) more.1, .cons (.some d) more.2⟩

theorem renders_comparisons :
    (cs : List Comparison) → Gives (outlineComparisons cs) fun rs =>
      RendersEach (rs.map (·.1)) (sketchOperators cs) ∧
        RendersEach (rs.map (·.2)) (sketchComparators cs)
  | [] => .ok ⟨.nil, .nil⟩
  | .mk _ right :: rest => (renders_outline .read right).andThen fun _ r =>
    (renders_comparisons rest).andThen fun _ more =>
    .ok ⟨.cons (.node .nil) more.1, .cons r more.2⟩

end

end Outline
end Bindery

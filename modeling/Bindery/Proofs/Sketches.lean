import Bindery.Expr.Outline
import Bindery.Proofs.Boundaries

/- What an outline consists of, as a tree: words, quoted text and bytes, named fields, nodes and
   sequences. The text of such a tree shows the tree, because no word and no name has a character
   that ends one. -/
namespace Bindery.Outline

inductive Sketch where
  | word (w : String)
  | text (s : String)
  | bytes (bs : List UInt8)
  | field (name : String) (value : Sketch)
  | node (name : String) (fields : List Sketch)
  | sequence (parts : List Sketch)

namespace Sketch

mutual

def render : Sketch → List Char
  | .word w => w.toList
  | .text s => (Text.quoted s).toList
  | .bytes bs => (Text.quotedBytes bs).toList
  | .field name value => name.toList ++ '=' :: render value
  | .node name fields => name.toList ++ '(' :: renderUpTo ')' fields
  | .sequence parts => '[' :: renderUpTo ']' parts

/-- Parts apart by commas, up to a closing bracket. -/
def renderUpTo (closing : Char) : List Sketch → List Char
  | [] => [closing]
  | [s] => render s ++ [closing]
  | s :: t :: rest => render s ++ ',' :: ' ' :: renderUpTo closing (t :: rest)

end

/-! ### Where words end -/

/-- What the first character behind a word or a name shows. -/
inductive Stop where
  | closing | equals | round | square | quote
  deriving DecidableEq

def stopOf : Char → Option Stop
  | ',' => some .closing
  | ')' => some .closing
  | ']' => some .closing
  | '=' => some .equals
  | '(' => some .round
  | '[' => some .square
  | '\'' => some .quote
  | '"' => some .quote
  | _ => none

def Plain (w : String) : Prop := ∀ c ∈ w.toList, stopOf c = none

instance (w : String) : Decidable (Plain w) := List.decidableBAll (stopOf · = none) w.toList

def stop : Sketch → Stop
  | .word _ => .closing
  | .text _ => .quote
  | .bytes _ => .quote
  | .field _ _ => .equals
  | .node _ _ => .round
  | .sequence _ => .square

/-- The word or the name at the front. -/
def front : Sketch → List Char
  | .word w => w.toList
  | .text _ => []
  | .bytes _ => ['b']
  | .field name _ => name.toList
  | .node name _ => name.toList
  | .sequence _ => []

mutual

def Formed : Sketch → Prop
  | .word w => w ≠ "" ∧ Plain w
  | .text _ => True
  | .bytes _ => True
  | .field name value => Plain name ∧ Formed value
  | .node name fields => Plain name ∧ FormedEach fields
  | .sequence parts => FormedEach parts

def FormedEach : List Sketch → Prop
  | [] => True
  | s :: ss => Formed s ∧ FormedEach ss

end

/-- A node or a field with a plain name is formed if its parts are. -/
theorem Formed.node {name : String} {fields : List Sketch} (each : FormedEach fields)
    (plain : Plain name := by decide +kernel) : Formed (.node name fields) := by
  rw [Formed]
  exact ⟨plain, each⟩

theorem Formed.field {name : String} {value : Sketch} (formed : Formed value)
    (plain : Plain name := by decide +kernel) : Formed (.field name value) := by
  rw [Formed]
  exact ⟨plain, formed⟩

theorem FormedEach.append {ss ts : List Sketch} (formed : FormedEach ss) (more : FormedEach ts) :
    FormedEach (ss ++ ts) := by
  induction ss with
  | nil => exact more
  | cons s ss ih => exact ⟨formed.1, ih formed.2⟩

theorem formedEach_iff {ss : List Sketch} : FormedEach ss ↔ ∀ s ∈ ss, Formed s := by
  induction ss with
  | nil => simp [FormedEach]
  | cons s ss ih => simp [FormedEach, ih]

theorem stopOf_quote {c : Char} (isQuote : Token.isQuote c = true) : stopOf c = some .quote := by
  simp only [Token.isQuote, Bool.or_eq_true, decide_eq_true_eq] at isQuote
  rcases isQuote with rfl | rfl <;> rfl

/-- The front of a text is followed by the character that ends it. -/
theorem render_front {s : Sketch} (formed : Formed s) {c : Char} (closes : stopOf c = some .closing)
    (rest : List Char) :
    (∀ d ∈ s.front, stopOf d = none) ∧
      ∃ d tail, stopOf d = some s.stop ∧ render s ++ c :: rest = s.front ++ d :: tail := by
  cases s with
  | word w => exact ⟨formed.2, c, rest, closes, by rw [render, front]⟩
  | text s =>
    have isQuote := Text.isQuote_quoteFor s.toList
    exact ⟨by simp [front], _, _, stopOf_quote isQuote, by
      rw [render, Text.toList_quoted, Text.Quoted.encodeWith, List.cons_append, List.cons_append]
      rfl⟩
  | bytes bs =>
    have isQuote := Text.isQuote_quoteFor (Text.bytesChars bs)
    exact ⟨by simp [front, stopOf], _, _, stopOf_quote isQuote, by
      rw [render, Text.toList_quotedBytes, List.cons_append, List.cons_append]
      rfl⟩
  | field name value =>
    exact ⟨formed.1, _, _, rfl, by rw [render, List.append_assoc]; rfl⟩
  | node name fields =>
    exact ⟨formed.1, _, _, rfl, by rw [render, List.append_assoc]; rfl⟩
  | sequence parts => exact ⟨by simp [front], _, _, rfl, by rw [render]; rfl⟩

theorem front_inj {cs ds rest more : List Char} {c d : Char}
    (plain : ∀ x ∈ cs, stopOf x = none) (plain' : ∀ x ∈ ds, stopOf x = none)
    (stops : stopOf c ≠ none) (stops' : stopOf d ≠ none)
    (same : cs ++ c :: rest = ds ++ d :: more) : cs = ds ∧ c = d ∧ rest = more := by
  induction cs generalizing ds with
  | nil =>
    cases ds with
    | nil => simpa using same
    | cons x ds =>
      obtain ⟨rfl, -⟩ := List.cons.inj same
      exact absurd (plain' c (by simp)) stops
  | cons x cs ih =>
    cases ds with
    | nil =>
      obtain ⟨rfl, -⟩ := List.cons.inj same
      exact absurd (plain x (by simp)) stops'
    | cons y ds =>
      obtain ⟨rfl, tails⟩ := List.cons.inj same
      obtain ⟨rfl, ends⟩ := ih (fun z member => plain z (by simp [member]))
        (fun z member => plain' z (by simp [member])) tails
      exact ⟨rfl, ends⟩

theorem stop_unique {s t : Sketch} (formed : Formed s) (formed' : Formed t) {c d : Char}
    {rest more : List Char} (closes : stopOf c = some .closing) (closes' : stopOf d = some .closing)
    (same : render s ++ c :: rest = render t ++ d :: more) : s.stop = t.stop ∧ s.front = t.front := by
  obtain ⟨plain, e, tail, stops, split⟩ := render_front formed closes rest
  obtain ⟨plain', e', tail', stops', split'⟩ := render_front formed' closes' more
  rw [split, split'] at same
  obtain ⟨fronts, rfl, -⟩ := front_inj plain plain' (by simp [stops]) (by simp [stops']) same
  rw [stops, Option.some.injEq] at stops'
  exact ⟨stops', fronts⟩

/-- No text begins with a character that closes one. -/
theorem render_ne_closing {s : Sketch} (formed : Formed s) {c d : Char} {rest more : List Char}
    (closes : stopOf c = some .closing) (closes' : stopOf d = some .closing) :
    d :: more ≠ render s ++ c :: rest := by
  intro same
  obtain ⟨plain, e, tail, stops, split⟩ := render_front formed closes rest
  rw [split] at same
  have bare : ∀ x ∈ ([] : List Char), stopOf x = none := by simp
  obtain ⟨fronts, rfl, -⟩ := front_inj bare plain (by simp [closes']) (by simp [stops]) same
  rw [closes', Option.some.injEq] at stops
  cases s with
  | word w =>
    refine formed.1 (String.toList_inj.mp ?_)
    simpa [front] using fronts.symm
  | _ => simp [stop] at stops

mutual

/-- Text of a tree shows the tree and where it ends. -/
theorem render_append_inj : (s t : Sketch) → Formed s → Formed t → {c d : Char} →
    {rest more : List Char} → stopOf c = some .closing → stopOf d = some .closing →
    render s ++ c :: rest = render t ++ d :: more → s = t ∧ c = d ∧ rest = more
  | .word w, t => by
    intro formed formed' _ _ _ _ closes closes' same
    obtain ⟨stops, fronts⟩ := stop_unique formed formed' closes closes' same
    cases t with
    | word w' =>
      obtain rfl := String.toList_inj.mp fronts
      simpa using List.append_cancel_left same
    | _ => simp [stop] at stops
  | .text s, t => by
    intro formed formed' _ _ _ _ closes closes' same
    obtain ⟨stops, fronts⟩ := stop_unique formed formed' closes closes' same
    cases t with
    | text s' =>
      rw [render, render] at same
      obtain ⟨rfl, rests⟩ := Text.quoted_append_inj same
      simpa using rests
    | bytes => simp [front] at fronts
    | _ => simp [stop] at stops
  | .bytes bs, t => by
    intro formed formed' _ _ _ _ closes closes' same
    obtain ⟨stops, fronts⟩ := stop_unique formed formed' closes closes' same
    cases t with
    | bytes bs' =>
      rw [render, render] at same
      obtain ⟨rfl, rests⟩ := Text.quotedBytes_append_inj same
      simpa using rests
    | text => simp [front] at fronts
    | _ => simp [stop] at stops
  | .field name value, t => by
    intro formed formed' _ _ _ _ closes closes' same
    obtain ⟨stops, fronts⟩ := stop_unique formed formed' closes closes' same
    cases t with
    | field name' value' =>
      obtain rfl := String.toList_inj.mp fronts
      rw [render, render, List.append_assoc, List.append_assoc] at same
      have values := (List.cons.inj (List.append_cancel_left same)).2
      obtain ⟨rfl, ends⟩ := render_append_inj value value' formed.2 formed'.2 closes closes' values
      exact ⟨rfl, ends⟩
    | _ => simp [stop] at stops
  | .node name fields, t => by
    intro formed formed' _ _ _ _ closes closes' same
    obtain ⟨stops, fronts⟩ := stop_unique formed formed' closes closes' same
    cases t with
    | node name' fields' =>
      obtain rfl := String.toList_inj.mp fronts
      rw [render, render, List.append_assoc, List.append_assoc] at same
      have parts := (List.cons.inj (List.append_cancel_left same)).2
      obtain ⟨rfl, ends⟩ := renderUpTo_append_inj fields fields' formed.2 formed'.2 rfl (by decide) parts
      exact ⟨rfl, by simpa using ends⟩
    | _ => simp [stop] at stops
  | .sequence parts, t => by
    intro formed formed' _ _ _ _ closes closes' same
    obtain ⟨stops, fronts⟩ := stop_unique formed formed' closes closes' same
    cases t with
    | sequence parts' =>
      rw [render, render] at same
      have parts := (List.cons.inj same).2
      obtain ⟨rfl, ends⟩ := renderUpTo_append_inj _ parts' formed formed' rfl (by decide) parts
      exact ⟨rfl, by simpa using ends⟩
    | _ => simp [stop] at stops
termination_by structural s => s

theorem renderUpTo_append_inj : (ss ts : List Sketch) → FormedEach ss → FormedEach ts →
    {closing : Char} → {rest more : List Char} → stopOf closing = some .closing → closing ≠ ',' →
    renderUpTo closing ss ++ rest = renderUpTo closing ts ++ more → ss = ts ∧ rest = more
  | [], ts, formed, formed', closing, rest, more, closes, noComma, same => by
    match ts, formed' with
    | [], _ => simpa [renderUpTo] using same
    | [t], ⟨formed', _⟩ =>
      rw [renderUpTo, renderUpTo, List.append_assoc] at same
      exact absurd same (render_ne_closing formed' closes closes)
    | t :: u :: ts, ⟨formed', _⟩ =>
      rw [renderUpTo, renderUpTo, List.append_assoc] at same
      exact absurd same (render_ne_closing formed' rfl closes)
  | [s], ts, ⟨formed, _⟩, formed', closing, rest, more, closes, noComma, same => by
    match ts, formed' with
    | [], _ =>
      rw [renderUpTo, renderUpTo, List.append_assoc] at same
      exact absurd same.symm (render_ne_closing formed closes closes)
    | [t], ⟨formed', _⟩ =>
      rw [renderUpTo, renderUpTo, List.append_assoc, List.append_assoc] at same
      obtain ⟨rfl, -, rests⟩ := render_append_inj s t formed formed' closes closes same
      exact ⟨rfl, rests⟩
    | t :: u :: ts, ⟨formed', _⟩ =>
      rw [renderUpTo, renderUpTo, List.append_assoc, List.append_assoc] at same
      obtain ⟨rfl, comma, -⟩ := render_append_inj s t formed formed' closes rfl same
      exact absurd comma noComma
  | s :: s' :: ss, ts, ⟨formed, formedRest⟩, formed', closing, rest, more, closes, noComma, same => by
    match ts, formed' with
    | [], _ =>
      rw [renderUpTo, renderUpTo, List.append_assoc] at same
      exact absurd same.symm (render_ne_closing formed rfl closes)
    | [t], ⟨formed', _⟩ =>
      rw [renderUpTo, renderUpTo, List.append_assoc, List.append_assoc] at same
      obtain ⟨rfl, comma, -⟩ := render_append_inj s t formed formed' rfl closes same
      exact absurd comma.symm noComma
    | t :: u :: ts, ⟨formed', formedRest'⟩ =>
      rw [renderUpTo, renderUpTo, List.append_assoc, List.append_assoc] at same
      obtain ⟨rfl, -, rests⟩ := render_append_inj s t formed formed' rfl rfl same
      obtain ⟨more, rests⟩ := renderUpTo_append_inj (s' :: ss) (u :: ts) formedRest formedRest' closes
        noComma (List.cons.inj rests).2
      exact ⟨by rw [more], rests⟩
termination_by structural ss => ss

end

end Sketch
end Bindery.Outline

import Bindery.Proofs.Json.Scalars
import Bindery.Proofs.Manifests
import Bindery.Proofs.QuotedNames

/- Reading undoes writing for whole values. The text of a value tells the value, but for the order of the
   entries of its objects: they are written, and so read, in the order of their keys. -/
namespace Bindery.Json

/-! ### Values that are read back -/

/-- Values without reals and with integers within a word, where every object has its keys once, and
    arrays and objects contain each other to some depth at most. -/
inductive Plain : Nat → Value → Prop where
  | null {n : Nat} : Plain n .null
  | boolean {n : Nat} (b : Bool) : Plain n (.boolean b)
  | integer {n : Nat} {i : Int} (word : IsWord i) : Plain n (.integer i)
  | text {n : Nat} (s : String) : Plain n (.text s)
  | array {n : Nat} {items : List Value} (plain : ∀ v ∈ items, Plain n v) : Plain (n + 1) (.array items)
  | object {n : Nat} {entries : List (String × Value)} (keys : (entries.map Prod.fst).Nodup)
      (plain : ∀ e ∈ entries, Plain n e.2) : Plain (n + 1) (.object entries)

mutual

/-- The value with all entries in the order of their keys. -/
def Value.ordered : Value → Value
  | .array items => .array (orderedItems items)
  | .object entries => .object (sortEntries (orderedEntries entries))
  | v => v

def orderedItems : List Value → List Value
  | [] => []
  | v :: vs => v.ordered :: orderedItems vs

def orderedEntries : List (String × Value) → List (String × Value)
  | [] => []
  | (key, v) :: rest => (key, v.ordered) :: orderedEntries rest

end

theorem orderedItems_eq (vs : List Value) : orderedItems vs = vs.map Value.ordered := by
  induction vs with
  | nil => rfl
  | cons v vs ih => rw [orderedItems, ih, List.map_cons]

theorem orderedEntries_eq (entries : List (String × Value)) :
    orderedEntries entries = entries.map fun e => (e.1, e.2.ordered) := by
  induction entries with
  | nil => rfl
  | cons e rest ih =>
    obtain ⟨key, v⟩ := e
    rw [orderedEntries, ih, List.map_cons]

/-! ### Texts of values -/

theorem renderItems_eq (vs : List Value) : renderItems vs = vs.map Value.render := by
  induction vs with
  | nil => rfl
  | cons v vs ih => rw [renderItems, ih, List.map_cons]

theorem sortEntries_map {α β : Type} (f : String × α → β) (entries : List (String × α)) :
    sortEntries (entries.map fun e => (e.1, f e)) = (sortEntries entries).map fun e => (e.1, f e) := by
  unfold sortEntries
  rw [List.map_mergeSort]
  exact fun _ _ _ _ => rfl

/-- The text of an entry. -/
def entryText (e : String × Value) : String := quoted e.1 ++ ":" ++ e.2.render

theorem toList_array (items : List Value) : (Value.array items).render.toList =
    '[' :: ((commas (items.map Value.render)).toList ++ [']']) := by
  simp [Value.render, renderItems_eq]

theorem toList_object (entries : List (String × Value)) : (Value.object entries).render.toList =
    '\x7b' :: ((commas ((sortEntries entries).map entryText)).toList ++ ['\x7d']) := by
  have texts := sortEntries_map entryText entries
  unfold entryText at texts ⊢
  rw [Value.render, renderEntries_eq, texts, List.map_map]
  simp [Function.comp_def]

theorem ordered_object (entries : List (String × Value)) : (Value.object entries).ordered =
    .object ((sortEntries entries).map fun e => (e.1, e.2.ordered)) := by
  rw [Value.ordered, orderedEntries_eq, sortEntries_map (fun e : String × Value => e.2.ordered) entries]

theorem commas_cons (part next : String) (rest : List String) :
    (commas (part :: next :: rest)).toList = part.toList ++ ',' :: (commas (next :: rest)).toList := by
  rw [commas, String.intercalate_cons_of_ne_nil (by simp), String.toList_append, String.toList_append,
    List.append_assoc]
  rfl

theorem commas_single (part : String) : commas [part] = part := by
  simp [commas]

theorem toList_quoted (s : String) : (quoted s).toList = '"' :: (s.toList.flatMap escape ++ ['"']) := by
  simp [quoted]

/-- No text of a value begins with a blank, or as if an array had ended. -/
theorem render_begins {n : Nat} {v : Value} (plain : Plain n v) :
    ∃ c cs, v.render.toList = c :: cs ∧ isBlank c = false ∧ c ≠ ']' := by
  cases plain with
  | null => exact ⟨'n', _, rfl, rfl, by decide⟩
  | boolean b => cases b <;> exact ⟨_, _, rfl, rfl, by decide⟩
  | integer word =>
    rename_i i
    obtain ⟨c, cs, chars, rfl | digit⟩ := toString_begins i
    · exact ⟨'-', cs, chars, rfl, by decide⟩
    · refine ⟨c, cs, chars, ?_, isDigit_ne digit (by decide)⟩
      simp only [isBlank, Bool.or_eq_false_iff, decide_eq_false_iff_not]
      exact ⟨⟨⟨isDigit_ne digit (by decide), isDigit_ne digit (by decide)⟩,
        isDigit_ne digit (by decide)⟩, isDigit_ne digit (by decide)⟩
  | text s => exact ⟨_, _, by rw [Value.render, toList_quoted], rfl, by decide⟩
  | array plain => exact ⟨'[', _, toList_array _, rfl, by decide⟩
  | object keys plain => exact ⟨'\x7b', _, toList_object _, rfl, by decide⟩

theorem commas_begins {part : String} {c : Char} {cs : List Char} (begins : part.toList = c :: cs)
    (rest : List String) : ∃ more, (commas (part :: rest)).toList = c :: more := by
  cases rest with
  | nil => exact ⟨cs, by rw [commas_single, begins]⟩
  | cons next rest => exact ⟨_, by rw [commas_cons, begins]; rfl⟩

theorem dropBlanks_cons {c : Char} (printed : isBlank c = false) (cs : List Char) :
    dropBlanks (c :: cs) = c :: cs := by
  simp [dropBlanks, printed]

/-! ### Values read back -/

/-- A value is read back with enough steps and room for its nesting, up to what follows. -/
def ReadBack (n : Nat) (v : Value) : Prop :=
  ∀ fuel depth rest, v.render.toList.length < fuel → n ≤ depth → Follows rest →
    value? fuel depth (v.render.toList ++ rest) = some (v.ordered, rest)

theorem items?_back {n : Nat} {v : Value} {vs : List Value} (plain : ∀ w ∈ v :: vs, Plain n w)
    (back : ∀ w ∈ v :: vs, ReadBack n w) {fuel depth : Nat} (rest : List Char)
    (steps : (commas ((v :: vs).map Value.render)).toList.length + 1 < fuel) (room : n ≤ depth) :
    items? fuel depth ((commas ((v :: vs).map Value.render)).toList ++ ']' :: rest) =
      some ((v :: vs).map Value.ordered, rest) := by
  obtain ⟨fuel, rfl⟩ : ∃ k, fuel = k + 1 := ⟨fuel - 1, by omega⟩
  induction vs generalizing v fuel with
  | nil =>
    simp only [List.map_cons, List.map_nil, commas_single] at steps ⊢
    rw [items?, back v (by simp) fuel depth _ (by omega) room (by simp [Follows])]
    rfl
  | cons w vs ih =>
    obtain ⟨plainHere, plainLater⟩ := List.forall_mem_cons.mp plain
    obtain ⟨here, later⟩ := List.forall_mem_cons.mp back
    obtain ⟨c, cs, begins, printed, -⟩ := render_begins (plainLater w (by simp))
    simp only [List.map_cons] at steps ih ⊢
    rw [commas_cons, List.length_append, List.length_cons] at steps
    obtain ⟨fuel, rfl⟩ : ∃ k, fuel = k + 1 := ⟨fuel - 1, by omega⟩
    have follows : Follows (',' :: ((commas (w.render :: vs.map Value.render)).toList ++ ']' :: rest)) := by
      simp [Follows]
    have next : dropBlanks ((commas (w.render :: vs.map Value.render)).toList ++ ']' :: rest) =
        (commas (w.render :: vs.map Value.render)).toList ++ ']' :: rest := by
      obtain ⟨more, whole⟩ := commas_begins begins (vs.map Value.render)
      rw [whole, List.cons_append, dropBlanks_cons printed]
    rw [commas_cons, List.append_assoc, List.cons_append, items?,
      here (fuel + 1) depth _ (by omega) room follows]
    simp only [Option.bind_eq_bind, Option.bind_some]
    rw [dropBlanks_cons (by rfl)]
    simp only [next, ih plainLater later fuel (by omega)]
    rfl

theorem toList_entryText (e : String × Value) : (entryText e).toList =
    '"' :: (e.1.toList.flatMap escape ++ '"' :: ':' :: e.2.render.toList) := by
  simp [entryText, quoted]

theorem key?_back (key : String) {c : Char} (printed : isBlank c = false) (cs : List Char) :
    key? ('"' :: (key.toList.flatMap escape ++ '"' :: ':' :: c :: cs)) = some (key, c :: cs) := by
  simp only [key?, text?_quoted, Option.bind_eq_bind, Option.bind_some]
  rw [dropBlanks_cons (by rfl)]
  simp only [dropBlanks_cons printed, String.ofList_toList]

theorem putEntry_new {found : List (String × Value)} {key : String} (new : key ∉ found.map Prod.fst)
    (v : Value) : putEntry found key v = found ++ [(key, v)] := by
  have absent : found.any (·.1 == key) = false := by
    simp only [List.any_eq_false, beq_iff_eq]
    rintro e member rfl
    exact new (List.mem_map_of_mem member)
  simp [putEntry, absent]

/-- The entry of an ordered object. -/
def orderedEntry (e : String × Value) : String × Value := (e.1, e.2.ordered)

section

variable {n fuel depth : Nat} {e : String × Value} {found : List (String × Value)} {rest : List Char}

/-- One entry is read with its key, and put behind those that have other keys. -/
theorem entries?_step (new : e.1 ∉ found.map Prod.fst) (plain : Plain n e.2) (back : ReadBack n e.2)
    (steps : (entryText e).toList.length < fuel) (room : n ≤ depth) (follows : Follows rest) :
    entries? (fuel + 1) depth found ((entryText e).toList ++ rest) =
      match dropBlanks rest with
      | '\x7d' :: rest => some (found ++ [orderedEntry e], rest)
      | ',' :: rest => entries? fuel depth (found ++ [orderedEntry e]) (dropBlanks rest)
      | _ => none := by
  obtain ⟨c, cs, begins, printed, -⟩ := render_begins plain
  rw [toList_entryText] at steps ⊢
  have read := back fuel depth rest (by simp at steps; omega) room follows
  rw [begins] at read ⊢
  simp only [List.cons_append, List.append_assoc] at read ⊢
  rw [entries?, key?_back e.1 printed]
  simp only [Option.bind_eq_bind, Option.bind_some, read, putEntry_new new]
  rfl

theorem notMem_of_nodup {es : List (String × Value)}
    (keys : (found.map Prod.fst ++ (e :: es).map Prod.fst).Nodup) : e.1 ∉ found.map Prod.fst := by
  intro member
  exact List.disjoint_of_nodup_append keys member (by simp)

theorem entries?_back (found : List (String × Value)) (rest : List Char) {es : List (String × Value)}
    (keys : (found.map Prod.fst ++ (e :: es).map Prod.fst).Nodup)
    (plain : ∀ f ∈ e :: es, Plain n f.2) (back : ∀ f ∈ e :: es, ReadBack n f.2)
    (steps : (commas ((e :: es).map entryText)).toList.length + 1 < fuel) (room : n ≤ depth) :
    entries? fuel depth found ((commas ((e :: es).map entryText)).toList ++ '\x7d' :: rest) =
      some (found ++ (e :: es).map orderedEntry, rest) := by
  obtain ⟨fuel, rfl⟩ : ∃ k, fuel = k + 1 := ⟨fuel - 1, by omega⟩
  induction es generalizing e found fuel with
  | nil =>
    have new := notMem_of_nodup keys
    simp only [List.map_cons, List.map_nil, commas_single] at steps ⊢
    rw [entries?_step new (plain e (by simp)) (back e (by simp)) (by omega) room (by simp [Follows]),
      dropBlanks_cons (by rfl)]
    rfl
  | cons f es ih =>
    obtain ⟨plainHere, plainLater⟩ := List.forall_mem_cons.mp plain
    obtain ⟨here, later⟩ := List.forall_mem_cons.mp back
    have new := notMem_of_nodup keys
    have keys' : ((found ++ [orderedEntry e]).map Prod.fst ++ (f :: es).map Prod.fst).Nodup := by
      simpa [orderedEntry] using keys
    simp only [List.map_cons] at steps ih ⊢
    rw [commas_cons, List.length_append, List.length_cons] at steps
    obtain ⟨fuel, rfl⟩ : ∃ k, fuel = k + 1 := ⟨fuel - 1, by omega⟩
    have next : dropBlanks ((commas (entryText f :: es.map entryText)).toList ++ '\x7d' :: rest) =
        (commas (entryText f :: es.map entryText)).toList ++ '\x7d' :: rest := by
      obtain ⟨more, whole⟩ := commas_begins (toList_entryText f) (es.map entryText)
      rw [whole, List.cons_append, dropBlanks_cons (by rfl)]
    rw [commas_cons, List.append_assoc, List.cons_append,
      entries?_step new plainHere here (by omega) room (by simp [Follows]), dropBlanks_cons (by rfl)]
    simp only [next, ih _ keys' plainLater later fuel (by omega), List.append_assoc, List.singleton_append]

end

theorem sortEntries_perm {α : Type} (entries : List (String × α)) : (sortEntries entries).Perm entries :=
  List.mergeSort_perm _ _

theorem value?_atom {c : Char} (noArray : c ≠ '[') (noObject : c ≠ '\x7b') (fuel depth : Nat)
    (cs : List Char) : value? (fuel + 1) depth (c :: cs) = atom? (c :: cs) := by
  rw [value?]
  · rintro rest same
    exact noArray (List.cons.inj same).1
  · rintro rest same
    exact noObject (List.cons.inj same).1

/-- Every value of this kind is read back from its text. -/
theorem readBack_of_plain {n : Nat} {v : Value} (plain : Plain n v) : ReadBack n v := by
  induction plain with
  | null =>
    intro fuel depth rest steps room follows
    obtain ⟨fuel, rfl⟩ : ∃ k, fuel = k + 1 := ⟨fuel - 1, by omega⟩
    rfl
  | boolean b =>
    intro fuel depth rest steps room follows
    obtain ⟨fuel, rfl⟩ : ∃ k, fuel = k + 1 := ⟨fuel - 1, by omega⟩
    cases b <;> rfl
  | integer word =>
    rename_i i
    intro fuel depth rest steps room follows
    obtain ⟨fuel, rfl⟩ : ∃ k, fuel = k + 1 := ⟨fuel - 1, by omega⟩
    have read := number?_text word follows
    obtain ⟨c, cs, begins, mark⟩ := toString_begins i
    have other : ∀ d, d ≠ '-' → isDigit d = false → c ≠ d := by
      intro d notMinus notDigit
      rcases mark with rfl | digit
      · exact notMinus.symm
      · exact isDigit_ne digit notDigit
    rw [begins, List.cons_append] at read
    rw [Value.render, begins, List.cons_append,
      value?_atom (other _ (by decide) (by decide)) (other _ (by decide) (by decide)),
      atom?_number mark]
    exact read
  | text s =>
    intro fuel depth rest steps room follows
    obtain ⟨fuel, rfl⟩ : ∃ k, fuel = k + 1 := ⟨fuel - 1, by omega⟩
    rw [Value.render, toList_quoted, List.cons_append, List.append_assoc,
      value?_atom (by decide) (by decide)]
    simp only [atom?, List.singleton_append, text?_quoted, Option.map_some, String.ofList_toList]
    rfl
  | array plain ih =>
    rename_i n items
    intro fuel depth rest steps room follows
    obtain ⟨fuel, rfl⟩ : ∃ k, fuel = k + 1 := ⟨fuel - 1, by omega⟩
    rw [toList_array] at steps ⊢
    rw [Value.ordered, orderedItems_eq]
    have deep : depth ≠ 0 := by omega
    cases items with
    | nil =>
      simp only [List.map_nil, List.cons_append]
      rw [value?, if_neg deep]
      rfl
    | cons v vs =>
      obtain ⟨c, cs, begins, printed, notEnd⟩ := render_begins (plain v (by simp))
      obtain ⟨more, whole⟩ := commas_begins begins (vs.map Value.render)
      have enough : (commas ((v :: vs).map Value.render)).toList.length + 1 < fuel := by
        simp at steps ⊢
        omega
      have shallow : n ≤ depth - 1 := by omega
      have read := items?_back plain ih rest enough shallow
      simp only [List.map_cons] at read ⊢
      rw [whole, List.cons_append] at read
      rw [whole, List.cons_append, List.cons_append, List.cons_append, List.append_assoc,
        List.singleton_append, value?, if_neg deep, dropBlanks_cons printed]
      split
      · rename_i same
        exact absurd (List.cons.inj same).1 notEnd
      · rw [read]
        rfl
  | object keys plain ih =>
    rename_i n entries
    intro fuel depth rest steps room follows
    obtain ⟨fuel, rfl⟩ : ∃ k, fuel = k + 1 := ⟨fuel - 1, by omega⟩
    rw [toList_object] at steps ⊢
    rw [ordered_object]
    have deep : depth ≠ 0 := by omega
    have perm := sortEntries_perm entries
    have keys' : ((sortEntries entries).map Prod.fst).Nodup := (perm.map Prod.fst).nodup_iff.mpr keys
    have plain' : ∀ e ∈ sortEntries entries, Plain n e.2 := fun e member => plain e (perm.mem_iff.mp member)
    have back : ∀ e ∈ sortEntries entries, ReadBack n e.2 := fun e member => ih e (perm.mem_iff.mp member)
    cases sorted : sortEntries entries with
    | nil =>
      simp only [List.map_nil, List.cons_append]
      rw [value?, if_neg deep]
      rfl
    | cons e es =>
      rw [sorted] at keys' plain' back steps
      obtain ⟨more, whole⟩ := commas_begins (toList_entryText e) (es.map entryText)
      have enough : (commas ((e :: es).map entryText)).toList.length + 1 < fuel := by
        simp at steps ⊢
        omega
      have shallow : n ≤ depth - 1 := by omega
      have read := entries?_back [] rest keys' plain' back enough shallow
      simp only [List.map_cons] at read ⊢
      rw [whole, List.cons_append] at read
      rw [whole, List.cons_append, List.cons_append, List.cons_append, List.append_assoc,
        List.singleton_append, value?, if_neg deep, dropBlanks_cons (by rfl)]
      split
      · rename_i same
        exact absurd (List.cons.inj same).1 (by decide)
      · rw [read]
        rfl

theorem read?_render {v : Value} (plain : Plain maxDepth v) : read? v.render.toList = some v.ordered := by
  obtain ⟨c, cs, begins, printed, -⟩ := render_begins plain
  have read := readBack_of_plain plain (v.render.toList.length + 1) maxDepth [] (by omega) le_rfl
    (by simp [Follows])
  have start : dropBlanks v.render.toList = v.render.toList := by rw [begins, dropBlanks_cons printed]
  rw [List.append_nil] at read
  simp only [read?, start, read, Option.bind_eq_bind, Option.bind_some]
  rfl

/-! ### One line -/

theorem mem_commas {parts : List String} {c : Char} (member : c ∈ (commas parts).toList) :
    c = ',' ∨ ∃ part ∈ parts, c ∈ part.toList := by
  induction parts with
  | nil => simp [commas] at member
  | cons part rest ih =>
    cases rest with
    | nil =>
      rw [commas_single] at member
      exact .inr ⟨part, by simp, member⟩
    | cons next rest =>
      rw [commas_cons, List.mem_append, List.mem_cons] at member
      rcases member with here | rfl | later
      · exact .inr ⟨part, by simp, here⟩
      · exact .inl rfl
      · rcases ih later with comma | ⟨other, inRest, inText⟩
        · exact .inl comma
        · exact .inr ⟨other, by simp [inRest], inText⟩

/-- A text without control characters. -/
def Printed (cs : List Char) : Prop := ∀ c ∈ cs, 32 ≤ c.toNat

theorem Printed.of_all {cs : List Char} (all : cs.all (fun c => decide (32 ≤ c.toNat)) = true) :
    Printed cs := fun c member => of_decide_eq_true (List.all_eq_true.mp all c member)

theorem Printed.append {cs ds : List Char} (first : Printed cs) (rest : Printed ds) :
    Printed (cs ++ ds) := fun c member =>
  (List.mem_append.mp member).elim (first c) (rest c)

theorem Printed.cons {c : Char} {cs : List Char} (first : 32 ≤ c.toNat) (rest : Printed cs) :
    Printed (c :: cs) := List.forall_mem_cons.mpr ⟨first, rest⟩

theorem printed_shortEscape {x c : Char} (short : shortEscape? x = some c) : 32 ≤ x.toNat := by
  unfold shortEscape? at short
  split at short <;> first | decide | cases short

theorem printed_escape (c : Char) : Printed (escape c) := by
  rcases escape_cases c with ⟨x, -, short, form⟩ | ⟨-, form⟩ | ⟨printed, -, -, form⟩
  · rw [form]
    exact .cons (by decide) (.cons (printed_shortEscape short) (List.forall_mem_nil _))
  · rw [form]
    refine .cons (by decide) (.cons (by decide) fun d member => ?_)
    obtain ⟨n, small, rfl⟩ := Text.mem_hexDigits member
    exact (by decide : ∀ n < 16, 32 ≤ (Text.hexChar n).toNat) n small
  · rw [form]
    exact .cons printed (List.forall_mem_nil _)

theorem printed_quoted (s : String) : Printed (quoted s).toList := by
  rw [toList_quoted]
  refine .cons (by decide) (.append (fun c member => ?_) (.cons (by decide) (List.forall_mem_nil _)))
  obtain ⟨d, -, inEscape⟩ := List.mem_flatMap.mp member
  exact printed_escape d c inEscape

theorem printed_integer (n : Int) : Printed (toString n).toList := by
  have digits : Printed (Nat.toDigits 10 n.natAbs) := by
    intro c member
    have digit := (spelled_toDigits n.natAbs).digits c member
    simp only [isDigit, Bool.and_eq_true, decide_eq_true_eq] at digit
    have least : '0'.toNat ≤ c.toNat := digit.1
    exact le_trans (by decide) least
  rw [toList_toString]
  split
  · exact .cons (by decide) digits
  · exact digits

theorem printed_commas {parts : List String} (printed : ∀ part ∈ parts, Printed part.toList) :
    Printed (commas parts).toList := by
  intro c member
  rcases mem_commas member with rfl | ⟨part, inParts, inText⟩
  · decide
  · exact printed part inParts c inText

/-- The text of a value is one line. -/
theorem printed_render {n : Nat} {v : Value} (plain : Plain n v) : Printed v.render.toList := by
  have empty : Printed [] := List.forall_mem_nil _
  induction plain with
  | null => exact .of_all (by decide)
  | boolean b => cases b <;> exact .of_all (by decide)
  | integer word => exact printed_integer _
  | text s => exact printed_quoted s
  | array plain ih =>
    rw [toList_array]
    refine .cons (by decide) (.append (printed_commas ?_) (.cons (by decide) empty))
    rintro part inParts
    obtain ⟨v, member, rfl⟩ := List.mem_map.mp inParts
    exact ih v member
  | object keys plain ih =>
    rename_i n entries
    rw [toList_object]
    refine .cons (by decide) (.append (printed_commas ?_) (.cons (by decide) empty))
    rintro part inParts
    obtain ⟨e, member, rfl⟩ := List.mem_map.mp inParts
    have value := ih e ((sortEntries_perm entries).mem_iff.mp member)
    rw [entryText, String.toList_append, String.toList_append]
    exact .append (.append (printed_quoted e.1) (.cons (by decide) empty)) value

end Bindery.Json

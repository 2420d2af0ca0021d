import Bindery.Proofs.Boundaries

/- The tail of a module tells what it registers. Its lines are the lines that were joined, as long as
   none of them has a break of its own; a line that begins a registration tells whether a condition
   stands in front of it; and a statement shows the name, the kind and the identifier of its item. -/
namespace Bindery.Glue

open Text

/-- The condition that guards are written as; without guards there is none. -/
def conditionOf (guards : List Guard) : Except SourceFault (Option String) :=
  if guards.isEmpty then .ok none
  else (conditions guards).map fun cs => some (" and ".intercalate cs)

/-- The lines of an item under a condition. -/
def linesOf (item : Item) : Option String → List String
  | none => [statement item]
  | some condition => ["if " ++ condition ++ ":", indent ++ statement item]

theorem registration_eq (item : Item) (guards : List Guard) :
    registration item guards = (conditionOf guards).map (linesOf item) := by
  unfold registration conditionOf
  split
  · rfl
  · cases conditions guards <;> rfl

/-- Two entries are registered alike: the same item under the same condition. -/
structure SameRegistration (a b : Entry) : Prop where
  kind : a.item.kind = b.item.kind
  ident : a.item.ident = b.item.ident
  name : a.item.name = b.item.name
  condition : conditionOf a.guards = conditionOf b.guards

/-! ### Statements -/

/-- Marks that part an identifier from the glue around it. -/
def identStops : List Char := ['\n', '.', '(']

theorem notMem_of_isName {cs : List Char} (isName : Text.isName cs = true) {c : Char}
    (stop : c ∈ identStops) : c ∉ cs := by
  have noName : identStops.all (fun c => !isNameStart c && !isNameContinue c) = true := by decide
  have apart := List.all_eq_true.mp noName c stop
  simp only [Bool.and_eq_true, Bool.not_eq_true'] at apart
  intro member
  cases cs with
  | nil => simp at member
  | cons d ds =>
    simp only [Text.isName, Bool.and_eq_true, List.all_eq_true] at isName
    rcases List.mem_cons.mp member with rfl | later
    · simp [isName.1] at apart
    · simp [isName.2 c later] at apart

/-- The first letter behind the first dot of a value. -/
def kindMark : Item.Kind → Char
  | .function => 'c'
  | .attr => 'n'
  | .classObject => 'm'

theorem value_mark (item : Item) (dot : '.' ∉ item.ident.toList) :
    ∃ lead rest, '.' ∉ lead ∧ (value item).toList = lead ++ '.' :: kindMark item.kind :: rest := by
  obtain ⟨kind, ident, name⟩ := item
  have apart : '.' ∉ ['v', 'm'] := by decide
  cases kind with
  | function => exact ⟨['v', 'm'], _, apart, by simp only [value, String.toList_append]; rfl⟩
  | attr => exact ⟨['v', 'm'], _, apart, by simp only [value, String.toList_append]; rfl⟩
  | classObject => exact ⟨ident.toList, _, dot, by simp only [value, String.toList_append]; rfl⟩

/-- A value tells the kind and the identifier of its item. -/
theorem value_inj {item other : Item} (names : item.name = other.name)
    (dot : '.' ∉ item.ident.toList) (dot' : '.' ∉ other.ident.toList)
    (same : value item = value other) : item.kind = other.kind ∧ item.ident = other.ident := by
  obtain ⟨lead, rest, noDot, text⟩ := value_mark item dot
  obtain ⟨lead', rest', noDot', text'⟩ := value_mark other dot'
  have kinds : item.kind = other.kind := by
    rw [same, text'] at text
    have marks := (append_stop_inj noDot' noDot text).2
    cases kind : item.kind <;> cases kind' : other.kind <;> simp_all [kindMark]
  obtain ⟨kind, ident, name⟩ := item
  obtain ⟨kind', ident', name'⟩ := other
  obtain rfl : name = name' := names
  obtain rfl : kind = kind' := kinds
  refine ⟨rfl, ?_⟩
  cases kind with
  | function =>
    have before := (String.append_left_inj _).mp ((String.append_left_inj _).mp
      ((String.append_left_inj _).mp same))
    exact (String.append_right_inj _).mp before
  | attr => exact (String.append_right_inj _).mp ((String.append_left_inj _).mp same)
  | classObject => exact (String.append_left_inj _).mp same

/-- Quoted text in the midst of a text shows itself and what is put behind it. -/
theorem quoted_between_inj {lead between stop s t before after : String}
    (same : lead ++ quoted s ++ between ++ before ++ stop =
      lead ++ quoted t ++ between ++ after ++ stop) : s = t ∧ before = after := by
  have chars := congrArg String.toList ((String.append_left_inj _).mp same)
  simp only [String.toList_append, List.append_assoc, List.append_cancel_left_eq] at chars
  obtain ⟨names, rest⟩ := quoted_append_inj chars
  exact ⟨names, String.toList_inj.mp (List.append_cancel_left rest)⟩

/-- A statement tells its item. -/
theorem statement_inj {item other : Item} (dot : '.' ∉ item.ident.toList)
    (dot' : '.' ∉ other.ident.toList) (same : statement item = statement other) : item = other := by
  obtain ⟨names, values⟩ := quoted_between_inj same
  obtain ⟨kinds, idents⟩ := value_inj names dot dot' values
  obtain ⟨kind, ident, name⟩ := item
  obtain ⟨kind', ident', name'⟩ := other
  obtain rfl : kind = kind' := kinds
  obtain rfl : ident = ident' := idents
  obtain rfl : name = name' := names
  rfl

/-! ### Registrations -/

theorem head?_append {lead rest : String} {c : Char} (first : lead.toList.head? = some c) :
    (lead ++ rest).toList.head? = some c := by
  rw [String.toList_append, List.head?_append, first, Option.some_or]

/-- The line of a condition is no statement. -/
theorem statement_ne_if (item : Item) (condition : String) :
    statement item ≠ "if " ++ condition ++ ":" := by
  have statement' : (statement item).toList.head? = some 'v' :=
    head?_append (head?_append (head?_append (head?_append rfl)))
  have condition' : ("if " ++ condition ++ ":").toList.head? = some 'i' :=
    head?_append (head?_append rfl)
  intro clash
  rw [clash, condition'] at statement'
  exact absurd statement' (by decide)

theorem linesOf_inj {item other : Item} {condition condition' : Option String}
    {rest more : List String} (dot : '.' ∉ item.ident.toList) (dot' : '.' ∉ other.ident.toList)
    (same : linesOf item condition ++ rest = linesOf other condition' ++ more) :
    item = other ∧ condition = condition' ∧ rest = more := by
  cases condition with
  | none =>
    cases condition' with
    | none =>
      obtain ⟨statements, rests⟩ := List.cons.inj same
      exact ⟨statement_inj dot dot' statements, rfl, rests⟩
    | some c => exact absurd (List.cons.inj same).1 (statement_ne_if item c)
  | some c =>
    cases condition' with
    | none => exact absurd (List.cons.inj same).1.symm (statement_ne_if other c)
    | some c' =>
      obtain ⟨conditions, later⟩ := List.cons.inj same
      obtain ⟨statements, rests⟩ := List.cons.inj later
      have bare := (String.append_right_inj _).mp ((String.append_left_inj _).mp conditions)
      exact ⟨statement_inj dot dot' ((String.append_right_inj _).mp statements),
        congrArg some bare, rests⟩

theorem linesOf_ne_nil (item : Item) (condition : Option String) : linesOf item condition ≠ [] := by
  cases condition <;> simp [linesOf]

theorem registrations_cons {e : Entry} {rest : List Entry} {statements : List (List String)}
    (written : registrations (e :: rest) = .ok statements) :
    ∃ condition more, conditionOf e.guards = .ok condition ∧ registrations rest = .ok more ∧
      statements = linesOf e.item condition :: more := by
  simp only [registrations, registration_eq, bind_eq_ok_iff, pure, Except.pure,
    Except.ok.injEq] at written
  obtain ⟨lines, here, more, later, rfl⟩ := written
  obtain ⟨condition, known, rfl⟩ := map_eq_ok_iff.mp here
  exact ⟨condition, more, known, later, rfl⟩

/-- The lines of a sequence of registrations tell the sequence. -/
theorem registrations_inj {entries entries' : List Entry} {statements statements' : List (List String)}
    (dots : ∀ e ∈ entries, '.' ∉ e.item.ident.toList)
    (dots' : ∀ e ∈ entries', '.' ∉ e.item.ident.toList)
    (written : registrations entries = .ok statements)
    (written' : registrations entries' = .ok statements')
    (same : statements.flatten = statements'.flatten) :
    List.Forall₂ SameRegistration entries entries' := by
  induction entries generalizing entries' statements statements' with
  | nil =>
    cases written
    cases entries' with
    | nil => exact .nil
    | cons e' rest' =>
      obtain ⟨condition, more, -, -, rfl⟩ := registrations_cons written'
      exact absurd (List.append_eq_nil_iff.mp same.symm).1 (linesOf_ne_nil _ _)
  | cons e rest ih =>
    obtain ⟨condition, more, here, later, rfl⟩ := registrations_cons written
    cases entries' with
    | nil =>
      cases written'
      exact absurd (List.append_eq_nil_iff.mp same).1 (linesOf_ne_nil _ _)
    | cons e' rest' =>
      obtain ⟨condition', more', here', later', rfl⟩ := registrations_cons written'
      obtain ⟨items, conditions, rests⟩ := linesOf_inj (dots e (by simp)) (dots' e' (by simp)) same
      refine .cons ⟨by rw [items], by rw [items], by rw [items], by rw [here, here', conditions]⟩ ?_
      exact ih (fun x member => dots x (by simp [member])) (fun x member => dots' x (by simp [member]))
        later later' rests

/-! ### Lines of the tail -/

/-- Lines without breaks of their own are the lines of the tail. -/
theorem tailLines_of_tail {name name' : String} {statements statements' : List (List String)}
    (single : ∀ line ∈ tailLines name statements, '\n' ∉ line.toList)
    (single' : ∀ line ∈ tailLines name' statements', '\n' ∉ line.toList)
    (same : tail name statements = tail name' statements') :
    tailLines name statements = tailLines name' statements' := by
  have whole : ∀ {lines : List String}, (∀ line ∈ lines, '\n' ∉ line.toList) →
      lines.flatMap (fun line => splitAt '\n' line.toList) = lines.map String.toList := by
    intro lines single
    rw [List.map_eq_flatMap]
    exact List.flatMap_congr fun line member => splitAt_of_notMem (single line member)
  have pieces := congrArg (fun s => splitAt '\n' s.toList) same
  simp only [splitAt_tail, whole single, whole single', List.append_cancel_right_eq] at pieces
  exact List.map_injective_iff.mpr (fun _ _ => String.toList_inj.mp) pieces

/-- The body of the routine: the lines of all registrations, or a line that passes. -/
def bodyLines (lines : List String) : List String :=
  if (lines.map (indent ++ ·)).isEmpty then [indent ++ "pass"] else lines.map (indent ++ ·)

theorem bodyLines_inj {lines lines' : List String} (acts : "pass" ∉ lines) (acts' : "pass" ∉ lines')
    (same : bodyLines lines = bodyLines lines') : lines = lines' := by
  cases lines with
  | nil =>
    cases lines' with
    | nil => rfl
    | cons line rest =>
      have first := (List.cons.inj same).1
      exact absurd ((String.append_right_inj _).mp first) (by rintro rfl; simp at acts')
  | cons line rest =>
    cases lines' with
    | nil =>
      have first := (List.cons.inj same).1
      exact absurd ((String.append_right_inj _).mp first) (by rintro rfl; simp at acts)
    | cons line' rest' =>
      exact List.map_injective_iff.mpr (fun _ _ => (String.append_right_inj _).mp) same

/-- The lines of the tail tell the name and the lines of all registrations. -/
theorem tailLines_inj {name name' : String} {statements statements' : List (List String)}
    (acts : "pass" ∉ statements.flatten) (acts' : "pass" ∉ statements'.flatten)
    (same : tailLines name statements = tailLines name' statements') :
    name = name' ∧ statements.flatten = statements'.flatten := by
  obtain ⟨names, later⟩ := List.cons.inj same
  have behind : bodyLines statements.flatten = bodyLines statements'.flatten :=
    List.append_cancel_right (List.cons.inj (List.cons.inj (List.cons.inj later).2).2).2
  exact ⟨quoted_injective ((String.append_right_inj _).mp names), bodyLines_inj acts acts' behind⟩

/-! ### What the lines hold -/

theorem mem_conditions {guards : List Guard} {cs : List String} (rendered : conditions guards = .ok cs)
    {c : String} (member : c ∈ cs) : ∃ g ∈ guards, g.render = .ok c := by
  induction guards generalizing cs with
  | nil =>
    cases rendered
    simp at member
  | cons g gs ih =>
    simp only [conditions, bind_eq_ok_iff, pure, Except.pure, Except.ok.injEq] at rendered
    obtain ⟨s, here, ss, later, rfl⟩ := rendered
    rcases List.mem_cons.mp member with rfl | inRest
    · exact ⟨g, by simp, here⟩
    · obtain ⟨g', inGuards, found⟩ := ih later inRest
      exact ⟨g', by simp [inGuards], found⟩

theorem notMem_intercalate {c : Char} {lead : String} {parts : List String} (apart : c ∉ lead.toList)
    (absent : ∀ part ∈ parts, c ∉ part.toList) : c ∉ (lead.intercalate parts).toList := by
  induction parts with
  | nil => simp
  | cons part rest ih =>
    have later := ih fun p member => absent p (by simp [member])
    by_cases atEnd : rest = []
    · simpa [atEnd] using absent part
    · rw [String.intercalate_cons_of_ne_nil atEnd]
      simp only [String.toList_append, List.mem_append, not_or]
      exact ⟨⟨absent part (by simp), apart⟩, later⟩

/-- No guard is written over several lines. -/
def SingleLine (guards : List Guard) : Prop :=
  ∀ g ∈ guards, ∀ s, g.render = .ok s → '\n' ∉ s.toList

theorem notMem_linesOf {item : Item} {guards : List Guard} {condition : Option String}
    (ident : '\n' ∉ item.ident.toList) (single : SingleLine guards)
    (known : conditionOf guards = .ok condition) {line : String}
    (member : line ∈ linesOf item condition) : '\n' ∉ line.toList := by
  have statement' := (statement_printable item).noBreak (c := '\n') (by decide) ident
  cases condition with
  | none =>
    obtain rfl := List.mem_singleton.mp member
    exact statement'
  | some c =>
    have rendered : ∃ cs, conditions guards = .ok cs ∧ " and ".intercalate cs = c := by
      unfold conditionOf at known
      split at known
      · simp at known
      · simpa [map_eq_ok_iff] using known
    obtain ⟨cs, parts, rfl⟩ := rendered
    have condition' : '\n' ∉ (" and ".intercalate cs).toList :=
      notMem_intercalate (by decide) fun part inParts => by
        obtain ⟨g, inGuards, found⟩ := mem_conditions parts inParts
        exact single g inGuards part found
    rcases List.mem_pair.mp member with rfl | rfl
    · simp only [String.toList_append, List.mem_append, not_or]
      exact ⟨⟨by decide, condition'⟩, by decide⟩
    · simp only [String.toList_append, List.mem_append, not_or]
      exact ⟨by decide, statement'⟩

theorem linesOf_ne_pass {item : Item} {condition : Option String} {line : String}
    (member : line ∈ linesOf item condition) : line ≠ "pass" := by
  have begins : ∃ c ∈ ['v', 'i', ' '], line.toList.head? = some c := by
    cases condition with
    | none =>
      obtain rfl := List.mem_singleton.mp member
      exact ⟨'v', by simp, head?_append (head?_append (head?_append (head?_append rfl)))⟩
    | some c =>
      rcases List.mem_pair.mp member with rfl | rfl
      · exact ⟨'i', by simp, head?_append (head?_append rfl)⟩
      · exact ⟨' ', by simp, head?_append rfl⟩
  obtain ⟨c, known, first⟩ := begins
  rintro rfl
  obtain rfl : 'p' = c := by simpa using first
  exact absurd known (by decide)

theorem mem_flatten_registrations {entries : List Entry} {statements : List (List String)}
    (written : registrations entries = .ok statements) {line : String}
    (member : line ∈ statements.flatten) :
    ∃ e ∈ entries, ∃ condition, conditionOf e.guards = .ok condition ∧
      line ∈ linesOf e.item condition := by
  induction entries generalizing statements with
  | nil =>
    cases written
    simp at member
  | cons e rest ih =>
    obtain ⟨condition, more, here, later, rfl⟩ := registrations_cons written
    rcases List.mem_append.mp member with own | inRest
    · exact ⟨e, by simp, condition, here, own⟩
    · obtain ⟨e', inEntries, found⟩ := ih later inRest
      exact ⟨e', by simp [inEntries], found⟩

/-- An entry that the glue can be told for: its identifier is a name, its guards are on one line. -/
structure Plain (e : Entry) : Prop where
  ident : Text.isName e.item.ident.toList = true
  guards : SingleLine e.guards

theorem notMem_tailLines {name : String} {entries : List Entry} {statements : List (List String)}
    (plain : ∀ e ∈ entries, Plain e) (written : registrations entries = .ok statements) :
    ∀ line ∈ tailLines name statements, '\n' ∉ line.toList := by
  have inBody : ∀ line ∈ bodyLines statements.flatten, '\n' ∉ line.toList := by
    intro line member
    unfold bodyLines at member
    split at member
    · obtain rfl := List.mem_singleton.mp member
      decide
    · obtain ⟨own, inLines, rfl⟩ := List.mem_map.mp member
      obtain ⟨e, inEntries, condition, known, found⟩ := mem_flatten_registrations written inLines
      have absent := notMem_linesOf (notMem_of_isName (plain e inEntries).ident (by decide))
        (plain e inEntries).guards known found
      simp only [String.toList_append, List.mem_append, not_or]
      exact ⟨by decide, absent⟩
  have name' : '\n' ∉ (nameLine name).toList := (nameLine_printable name).noBreak (by decide) (by simp)
  have parts : tailLines name statements = nameLine name ::
      (["", "", "def extend_module(vm, module):"] ++ bodyLines statements.flatten ++
        ["", "", "def make_module(vm):",
         indent ++ "module = vm.new_module(MODULE_NAME, vm.ctx.new_dict())",
         indent ++ "extend_module(vm, module)", indent ++ "return module"]) := rfl
  rw [parts]
  simp only [List.forall_mem_cons, List.forall_mem_append]
  refine ⟨name', ⟨?_, inBody⟩, ?_⟩
  · decide
  · decide

/- The tail tells the registrations. Two tails of plain entries that are the same text name the same
   module and register the same items, in the same order and under the same conditions. -/
theorem tail_tells_registrations {name name' : String} {entries entries' : List Entry}
    {statements statements' : List (List String)}
    (plain : ∀ e ∈ entries, Plain e) (plain' : ∀ e ∈ entries', Plain e)
    (written : registrations entries = .ok statements)
    (written' : registrations entries' = .ok statements')
    (same : tail name statements = tail name' statements') :
    name = name' ∧ List.Forall₂ SameRegistration entries entries' := by
  have noDot : ∀ {entries : List Entry}, (∀ e ∈ entries, Plain e) →
      ∀ e ∈ entries, '.' ∉ e.item.ident.toList :=
    fun plain e member => notMem_of_isName (plain e member).ident (by decide)
  have acts : ∀ {entries statements}, registrations entries = .ok statements →
      "pass" ∉ statements.flatten := by
    intro entries statements written member
    obtain ⟨e, -, condition, -, found⟩ := mem_flatten_registrations written member
    exact linesOf_ne_pass found rfl
  have lines := tailLines_of_tail (notMem_tailLines plain written) (notMem_tailLines plain' written') same
  obtain ⟨names, flat⟩ := tailLines_inj (acts written) (acts written') lines
  exact ⟨names, registrations_inj (noDot plain) (noDot plain') written written' flat⟩

/-- A function and an attribute, under names that look like glue; the function has these guards. -/
def chimes (sources : List String) : List Entry :=
  [⟨⟨.function, "ring", "x', vm.new_pyobj(ring(vm)))\n    if y:"⟩, sources.map fun s => ⟨s, "", {}⟩⟩,
   ⟨⟨.attr, "ring", "pass\n\n\ndef make_module(vm):"⟩, []⟩]

def chimeLines : List (List String) :=
  (chimes []).zipWith (fun e condition => linesOf e.item condition) [some "(1) and (2)", none]

/-- Two guards and one that is written like their conjunction leave the same tail, and so the same
    registrations, though the guards differ. -/
theorem chimes_told_from_their_tail :
    registrations (chimes ["1", "2"]) = .ok chimeLines ∧
    registrations (chimes ["1) and (2"]) = .ok chimeLines ∧
    List.Forall₂ SameRegistration (chimes ["1", "2"]) (chimes ["1) and (2"]) := by
  have rendered : ∀ source ∈ ["1", "2", "1) and (2"], ∃ s, Guard.render ⟨source, "", {}⟩ = .ok s ∧
      '\n' ∉ s.toList := by
    simp only [List.forall_mem_cons]
    exact ⟨⟨"(1)", by decide +kernel⟩, ⟨"(2)", by decide +kernel⟩, ⟨"(1) and (2)", by decide +kernel⟩,
      by simp⟩
  have plain : ∀ sources ⊆ ["1", "2", "1) and (2"], ∀ e ∈ chimes sources, Plain e := by
    intro sources known e member
    have guards : ∀ g ∈ e.guards, ∃ source ∈ sources, g = ⟨source, "", {}⟩ := by
      rcases List.mem_pair.mp member with rfl | rfl <;> simp +contextual [eq_comm]
    have ident : Text.isName "ring".toList = true := by decide
    refine ⟨?_, fun g inGuards s render => ?_⟩
    · rcases List.mem_pair.mp member with rfl | rfl <;> exact ident
    · obtain ⟨source, inSources, rfl⟩ := guards g inGuards
      obtain ⟨s', render', single⟩ := rendered source (known inSources)
      rw [render', Except.ok.injEq] at render
      exact render ▸ single
  have written : registrations (chimes ["1", "2"]) = .ok chimeLines := by decide +kernel
  have written' : registrations (chimes ["1) and (2"]) = .ok chimeLines := by decide +kernel
  exact ⟨written, written',
    (tail_tells_registrations (plain _ (by simp))
      (plain _ (by simp)) written written'
      (rfl : tail "bells" chimeLines = tail "bells" chimeLines)).2⟩

end Bindery.Glue

import Bindery.Proofs.Carriers
import Bindery.Proofs.Conjunctions
import Bindery.Proofs.DirectiveForms
import Bindery.Proofs.JoinedTexts

/- The condition of a registration is read as the guards that it is made of: a guard whose text is on one line
   and has words of its own is an operand wherever its text stands. -/
namespace Bindery

namespace Reader

open Token

/-- The condition of a text that is one line `if condition:`. -/
def ifLine? (cs : List Char) : Option Expr := do
  let ts ← Token.scanAll cs
  let rest ← keyword? "if" ts
  let (test, rest) ← named (stepsPerWord * (cs.length + 4)) rest
  let rest ← mark? ":" rest
  if rest.isEmpty then some test.expr else none

/-! ### Operands as texts -/

/-- A text on one line, with words of its own, that is read as this tree. -/
structure Denotes (s : List Char) (e : Expr) : Prop where
  unbroken : ∀ c ∈ s, c ≠ '\n' ∧ c ≠ '\r'
  words : (scanAll s).isSome
  reads : ∃ p, phrase? ('(' :: s ++ [')']) = some p ∧ p.expr = e

/-- A text whose words are an operand wherever it stands. -/
structure OperandText (s : List Char) (e : Expr) : Prop where
  unbroken : ∀ c ∈ s, c ≠ '\n' ∧ c ≠ '\r'
  operand : ∃ w, Operand (stepsPerWord * (s.length + 6)) w e ∧
    ∀ {d more tokens}, endsWords d = true → Speaks [] (d :: more) tokens →
      Speaks [] (s ++ d :: more) (w ++ tokens)

namespace Denotes

variable {s : List Char} {e : Expr} (denotes : Denotes s e)
include denotes

theorem bracketed : OperandText ('(' :: s ++ [')']) e := by
  obtain ⟨unbroken, words, p, phrase, rfl⟩ := denotes
  obtain ⟨alone, apart⟩ := Option.isSome_iff_exists.mp words
  obtain ⟨words, found, -⟩ := Option.bind_eq_some_iff.mp phrase
  obtain ⟨o, inner, c, rfl, opens, closes, same, balanced⟩ := scanAll_alone apart found
  have steps : stepsPerWord * (('(' :: s ++ [')']).length + 4) = stepsPerWord * (s.length + 6) - 15 + 15 := by
    simp only [stepsPerWord, List.length_append, List.length_cons, List.length_nil]
    omega
  rw [phrase?_group found opens balanced steps, Option.map_eq_some_iff] at phrase
  obtain ⟨⟨p, rest⟩, read, rfl⟩ := phrase
  obtain rfl : rest = [] := parenthesized_finished balanced _ _ _ read
  constructor
  · intro d member
    simp at member
    rcases member with rfl | member | rfl
    · decide
    · exact unbroken d member
    · decide
  · refine ⟨_, (operand_of_group balanced closes read).weaken ?_, ?_⟩
    · simp only [stepsPerWord, List.length_append, List.length_cons, List.length_nil]
      omega
    · intro d more tokens ends speaks
      have speaks := speaks_bracketed unbroken apart found speaks
      rw [← same] at speaks
      simpa using speaks

theorem bare (tight : Guard.isTight e = true) : OperandText s e := by
  obtain ⟨unbroken, words, p, phrase, rfl⟩ := denotes
  obtain ⟨alone, apart⟩ := Option.isSome_iff_exists.mp words
  obtain ⟨words, found, -⟩ := Option.bind_eq_some_iff.mp phrase
  obtain ⟨o, inner, c, rfl, opens, closes, same, balanced⟩ := scanAll_alone apart found
  have steps : stepsPerWord * (('(' :: s ++ [')']).length + 4) = stepsPerWord * (s.length + 6) - 17 + 17 := by
    simp only [stepsPerWord, List.length_append, List.length_cons, List.length_nil]
    omega
  have alone : standsAlone p.expr = true := by
    cases shape : p.expr <;> simp [Guard.isTight, shape] at tight <;> rfl
  rw [phrase?_group_iff found opens closes balanced steps alone] at phrase
  obtain ⟨k, less, read⟩ := named_tight tight phrase
  refine ⟨unbroken, _, (operand_of_primary balanced closes read).weaken (by omega), ?_⟩
  intro d more tokens ends speaks
  have speaks := speaks_before unbroken apart found (.inl rfl) ends speaks
  rwa [← same] at speaks

end Denotes

/-! ### Lines -/

/-- The operands behind the first one, as they stand in a line. -/
def furtherText (ops : List (List Char × Expr)) : List Char := ops.flatMap fun op => " and ".toList ++ op.1

theorem length_furtherText_cons (op : List Char × Expr) (ops : List (List Char × Expr)) :
    (furtherText (op :: ops)).length = 5 + op.1.length + (furtherText ops).length := by
  simp only [furtherText, List.flatMap_cons, List.length_append, show " and ".toList.length = 5 from rfl]

theorem five_le_furtherText (ops : List (List Char × Expr)) : 5 * ops.length ≤ (furtherText ops).length := by
  induction ops with
  | nil => simp
  | cons op ops ih =>
    rw [length_furtherText_cons, List.length_cons]
    omega

theorem length_furtherText (ops : List (List Char × Expr)) : ∀ op ∈ ops,
    op.1.length + 5 * ops.length ≤ (furtherText ops).length := by
  induction ops with
  | nil => simp
  | cons first ops ih =>
    intro op member
    have few := five_le_furtherText ops
    rw [length_furtherText_cons, List.length_cons]
    rcases List.mem_cons.mp member with rfl | later
    · omega
    · have := ih op later
      omega

section
variable {ops : List (List Char × Expr)} (operands : ∀ op ∈ ops, OperandText op.1 op.2)

/-- A line goes on behind an operand with a blank or a colon. -/
theorem furtherText_begins (ops : List (List Char × Expr)) :
    ∃ d more, furtherText ops ++ [':'] = d :: more ∧ endsWords d = true := by
  cases ops with
  | nil => exact ⟨':', [], rfl, by decide⟩
  | cons op ops =>
    exact ⟨' ', "and ".toList ++ op.1 ++ furtherText ops ++ [':'], by simp [furtherText], by decide⟩

include operands

theorem speaks_further {fuel : Nat} (enough : ∀ op ∈ ops, stepsPerWord * (op.1.length + 6) ≤ fuel) :
    ∃ words : List (List Token × Expr), words.map Prod.snd = ops.map Prod.snd ∧
      (∀ w ∈ words, Operand fuel w.1 w.2) ∧ Speaks [] (furtherText ops ++ [':'])
        ((words.flatMap fun w => .word "and" :: w.1) ++ [.mark ":"]) := by
  induction ops with
  | nil => exact ⟨[], rfl, nofun, .word (c := ':') rfl rfl rfl le_rfl .nil⟩
  | cons op ops ih =>
    obtain ⟨here, operands⟩ := List.forall_mem_cons.mp operands
    obtain ⟨fits, enough⟩ := List.forall_mem_cons.mp enough
    obtain ⟨words, trees, each, speaks⟩ := ih operands enough
    obtain ⟨w, operand, standing⟩ := here.operand
    obtain ⟨d, more, begins, ends⟩ := furtherText_begins ops
    refine ⟨(w, op.2) :: words, by simp [trees], ?_, ?_⟩
    · exact List.forall_mem_cons.mpr ⟨operand.weaken fits, each⟩
    · rw [begins] at speaks
      have behind := standing ends speaks
      rw [← begins] at behind
      have spaced := Speaks.letters (w := "and") (d := ' ') rfl rfl (by decide) (.blank rfl behind)
      have spaced := Speaks.blank (c := ' ') rfl spaced
      simpa [furtherText] using spaced

theorem notMem_furtherText : '\r' ∉ furtherText ops := by
  intro member
  obtain ⟨op, listed, member⟩ := List.mem_flatMap.mp member
  rcases List.mem_append.mp member with fixed | own
  · exact absurd fixed (by decide)
  · exact ((operands op listed).unbroken _ own).2 rfl

/-- The words of a line are `if`, those of the operands with `and` between them, and a colon. -/
theorem scanAll_line {s : List Char} {e : Expr} {fuel : Nat} (first : OperandText s e)
    (fits : stepsPerWord * (s.length + 6) ≤ fuel)
    (enough : ∀ op ∈ ops, stepsPerWord * (op.1.length + 6) ≤ fuel) :
    ∃ (w : List Token) (words : List (List Token × Expr)) (ts : List Lexeme),
      scanAll ("if ".toList ++ (s ++ (furtherText ops ++ [':']))) = some ts ∧
      ts.map Lexeme.token =
        .word "if" :: (w ++ ((words.flatMap fun w => .word "and" :: w.1) ++ [.mark ":"])) ∧
      words.map Prod.snd = ops.map Prod.snd ∧ Operand fuel w e ∧ ∀ w ∈ words, Operand fuel w.1 w.2 := by
  obtain ⟨w, operand, standing⟩ := first.operand
  obtain ⟨words, trees, each, speaks⟩ := speaks_further operands enough
  obtain ⟨d, more, begins, ends⟩ := furtherText_begins ops
  have spoken : Speaks [] ("if".toList ++ ' ' :: (s ++ (furtherText ops ++ [':'])))
      (.word "if" :: (w ++ ((words.flatMap fun w => .word "and" :: w.1) ++ [.mark ":"]))) := by
    refine .letters rfl rfl (by decide) (.blank rfl ?_)
    rw [begins] at speaks ⊢
    exact standing ends speaks
  have unbroken : '\r' ∉ "if".toList ++ ' ' :: (s ++ (furtherText ops ++ [':'])) := by
    have own : '\r' ∉ s := fun member => (first.unbroken _ member).2 rfl
    have further := notMem_furtherText operands
    simp [own, further]
  obtain ⟨ts, scanned, tokens⟩ := spoken.scanAll unbroken
  exact ⟨w, words, ts, scanned, tokens, trees, operand.weaken fits, each⟩

/-- A line of operands is read as their condition. -/
theorem ifLine?_operands {s : List Char} {e : Expr} (first : OperandText s e) :
    ifLine? ("if ".toList ++ (s ++ (furtherText ops ++ [':']))) = some (conjoined e (ops.map Prod.snd)) := by
  have size : ("if ".toList ++ (s ++ (furtherText ops ++ [':']))).length = s.length + (furtherText ops).length + 4 := by
    simp only [List.length_append, show "if ".toList.length = 3 from rfl, List.length_singleton]
    omega
  have few : 5 * ops.length ≤ (furtherText ops).length := five_le_furtherText ops
  -- The fuel that is left behind the words which make a condition of the operands.
  obtain ⟨fuel, total⟩ : ∃ fuel, stepsPerWord * (s.length + (furtherText ops).length + 8) =
      0 + fuel + 15 + ops.length := by
    refine ⟨stepsPerWord * (s.length + (furtherText ops).length + 8) - 15 - ops.length, ?_⟩
    simp only [stepsPerWord]
    omega
  have fits : stepsPerWord * (s.length + 6) ≤ fuel := by
    simp only [stepsPerWord] at total ⊢
    omega
  have enough : ∀ op ∈ ops, stepsPerWord * (op.1.length + 6) ≤ fuel := by
    intro op member
    have := length_furtherText ops op member
    simp only [stepsPerWord] at total ⊢
    omega
  obtain ⟨w, words, ts, scanned, tokens, trees, operand, each⟩ := scanAll_line operands first fits enough
  obtain ⟨⟨token, start⟩, ts, rfl, rfl, behind⟩ := List.map_eq_cons_iff.mp tokens
  rw [← List.append_assoc] at behind
  obtain ⟨us, colon, rfl, own, last⟩ := List.map_eq_append_iff.mp behind
  obtain ⟨⟨token, place⟩, colon, rfl, rfl, none⟩ := List.map_eq_cons_iff.mp last
  obtain rfl : colon = [] := by simpa using none
  obtain ⟨p, read, tree⟩ := named_operands each ⟨place, [], rfl⟩ operand own 0
  have count : words.length = ops.length := by simpa using congrArg List.length trees
  rw [count, ← total] at read
  unfold ifLine?
  rw [size, ← trees, ← tree, scanned]
  simp [keyword?, read, mark?]

end

end Reader

/-! ### Guards -/

/-- The source in brackets is read as this tree. -/
def Guard.Reads (g : Guard) (tree : Expr) : Prop :=
  ∃ phrase, bracketedPhrase? g.source = .ok (some phrase) ∧ phrase.expr = tree

theorem Guard.reads_each {guards : List Guard} (reads : ∀ g ∈ guards, ∃ tree, g.Reads tree) :
    ∃ trees, List.Forall₂ Guard.Reads guards trees := by
  induction guards with
  | nil => exact ⟨[], .nil⟩
  | cons g guards ih =>
    obtain ⟨⟨tree, here⟩, later⟩ := List.forall_mem_cons.mp reads
    obtain ⟨trees, reads⟩ := ih later
    exact ⟨tree :: trees, .cons here reads⟩

/-- The source is on one line and has words of its own. -/
structure Guard.Plain (g : Guard) : Prop where
  unbroken : ∀ c ∈ g.source.toList, c ≠ '\n' ∧ c ≠ '\r'
  words : (Token.scanAll g.source.toList).isSome

/-- The text of its condition, as it is written or else as its tree is printed, is on one line and is read as
    this tree. -/
structure Guard.OneLine (g : Guard) (tree : Expr) : Prop where
  reads : g.Reads tree
  shown : ∃ text, (if g.source.toList.contains '\n' then Directive.printed tree else .ok g.source) = .ok text ∧
    Reader.Denotes text.toList tree

namespace Guard.OneLine

variable {g : Guard} {tree : Expr}

/-- A source without line breaks is the text itself. -/
theorem of_plain (reads : g.Reads tree) (plain : g.Plain) : g.OneLine tree := by
  have noFeed : g.source.toList.contains '\n' = false := by
    by_contra feed
    exact (plain.unbroken '\n' (by simpa using feed)).1 rfl
  refine ⟨reads, g.source, by rw [noFeed]; rfl, plain.unbroken, plain.words, ?_⟩
  obtain ⟨phrase, read, rfl⟩ := reads
  obtain ⟨-, read⟩ := Directive.bracketedPhrase?_eq_ok_iff.mp read
  exact ⟨phrase, read, rfl⟩

theorem render (single : g.OneLine tree) :
    ∃ s, g.render = .ok s ∧ Reader.OperandText s.toList tree := by
  obtain ⟨⟨phrase, read, rfl⟩, text, shown, denotes⟩ := single
  have rendered : g.render = .ok (if isTight phrase.expr then text else "(" ++ text ++ ")") := by
    unfold Guard.render
    rw [read]
    simp only [bind, Except.bind]
    split at shown
    · next feed =>
      rw [if_pos feed, shown]
      rfl
    · next feed =>
      rw [if_neg feed]
      cases shown
      rfl
  refine ⟨_, rendered, ?_⟩
  split
  · next tight => exact denotes.bare tight
  · simpa using denotes.bracketed

end Guard.OneLine

namespace Glue

theorem conditions_oneLine {guards : List Guard} {trees : List Expr}
    (single : List.Forall₂ Guard.OneLine guards trees) : ∃ ops : List (List Char × Expr),
      conditions guards = .ok (ops.map fun op => String.ofList op.1) ∧ ops.map Prod.snd = trees ∧
      ∀ op ∈ ops, Reader.OperandText op.1 op.2 := by
  induction single with
  | nil => exact ⟨[], rfl, rfl, nofun⟩
  | @cons g tree guards trees here _ ih =>
    obtain ⟨s, rendered, operand⟩ := here.render
    obtain ⟨ops, written, rfl, each⟩ := ih
    refine ⟨(s.toList, tree) :: ops, ?_, rfl, List.forall_mem_cons.mpr ⟨operand, each⟩⟩
    rw [conditions, rendered, written]
    simp [bind, Except.bind, pure, Except.pure]

theorem toList_conditions (op : List Char × Expr) (ops : List (List Char × Expr)) :
    ("if " ++ " and ".intercalate ((op :: ops).map fun op => String.ofList op.1) ++ ":").toList =
      "if ".toList ++ (op.1 ++ (Reader.furtherText ops ++ [':'])) := by
  have texts : ∀ (op : List Char × Expr) (ops : List (List Char × Expr)),
      (" and ".intercalate ((op :: ops).map fun op => String.ofList op.1)).toList =
        op.1 ++ Reader.furtherText ops := by
    intro op ops
    induction ops generalizing op with
    | nil => simp [Reader.furtherText]
    | cons next ops ih =>
      rw [List.map_cons, String.intercalate_cons_of_ne_nil (by simp), String.toList_append, String.toList_append,
        ih, String.toList_ofList]
      simp [Reader.furtherText]
  rw [String.toList_append, String.toList_append, texts]
  simp

/-- Guards on one line make one line, and its condition is what they are with `and` between them. -/
theorem registration_oneLine (item : Item) {g : Guard} {guards : List Guard} {tree : Expr} {trees : List Expr}
    (single : List.Forall₂ Guard.OneLine (g :: guards) (tree :: trees)) :
    ∃ line, registration item (g :: guards) = .ok [line, indent ++ statement item] ∧
      Reader.ifLine? line.toList = some (Reader.conjoined tree trees) := by
  obtain ⟨ops, written, same, each⟩ := conditions_oneLine single
  cases ops with
  | nil => cases same
  | cons op ops =>
    obtain ⟨rfl, rfl⟩ := List.cons.inj same
    obtain ⟨first, further⟩ := List.forall_mem_cons.mp each
    refine ⟨_, by rw [registration, written]; rfl, ?_⟩
    rw [toList_conditions]
    exact Reader.ifLine?_operands further first

/-- A carriage return ends a line too: this guard is read, but its line is no condition. -/
example : (bracketedPhrase? "cfg\r(x)").toOption.join.isSome ∧
    (registration ⟨.function, "f", "f"⟩ [⟨"cfg\r(x)", "", {}⟩]).toOption.map
      (fun lines => lines.map fun line => (Reader.ifLine? line.toList).isSome) = some [false, false] := by
  decide +kernel

theorem registrations_each {entries : List Entry} {statements : List (List String)}
    (written : registrations entries = .ok statements) :
    List.Forall₂ (fun entry lines => registration entry.item entry.guards = .ok lines) entries statements := by
  induction entries generalizing statements with
  | nil =>
    cases written
    exact .nil
  | cons entry entries ih =>
    simp only [registrations, bind_eq_ok_iff, pure, Except.pure, Except.ok.injEq] at written
    obtain ⟨lines, here, more, later, rfl⟩ := written
    exact .cons here (ih later)

end Glue

/-! ### Bodies -/

/-- The guards of a declaration are read as they are written in its annotations. -/
theorem Declaration.guards_read {d : Declaration} (isRead : d.IsRead) :
    ∀ g ∈ d.guards, ∃ tree, g.Reads tree := by
  intro g member
  simp only [guards, List.mem_map, List.mem_filter] at member
  obtain ⟨a, ⟨here, guard⟩, rfl⟩ := member
  obtain ⟨start, read⟩ := (isRead a here).directive
  cases directive : a.directive with
  | none => simp [ Annotation.isGuard, directive] at guard
  | some form =>
    rw [directive] at read
    obtain ⟨phrase?, phrased, formed⟩ := bind_eq_ok_iff.mp read
    cases phrase? with
    | none => cases formed
    | some phrase => exact ⟨phrase.expr, phrase, phrased, rfl⟩

/-- The lines of an entry: one line for its condition, which is read as its guards are, with `and` between
    them and in their order. -/
structure Entry.Conditioned (entry : Entry) (lines : List String) (line : String) (tree : Expr)
    (trees : List Expr) : Prop where
  guards : List.Forall₂ Guard.Reads entry.guards (tree :: trees)
  lines : lines = [line, Glue.indent ++ Glue.statement entry.item]
  condition : Reader.ifLine? line.toList = some (Reader.conjoined tree trees)

namespace Expansion

variable {source : String} {path moduleName : Option String} {ds : List Declaration} {e : Expansion}

theorem guards_read (read : Declaration.ofSource source path = .ok ds)
    (expanded : (ofDeclarations source path moduleName ds).1 = .ok e) :
    ∀ entry ∈ e.registry.entries, ∀ g ∈ entry.guards, ∃ tree, g.Reads tree := by
  have each : List.Forall₂ (fun entry c => (∀ g ∈ entry.guards, ∃ tree, g.Reads tree) ∧ Carries ds entry c)
      e.registry.entries (carriers ds) := by
    refine (carried expanded).imp fun entry c carries => ⟨?_, carries⟩
    have isRead := Declaration.ofSource_isRead read _ (List.mem_of_getElem? carries.declared)
    exact carries.guards ▸ Declaration.guards_read isRead
  exact ((List.forall₂_and_left _ _).mp each).1

/-- Where the guards of an item are on one line in their decorators, they survive the expansion: the
    condition in front of its registration is made of the same trees. -/
theorem conditions_survive (read : Declaration.ofSource source path = .ok ds)
    (expanded : (ofDeclarations source path moduleName ds).1 = .ok e) :
    ∃ front statements, e.source = Glue.append front (Glue.tail e.moduleName statements) ∧
      List.Forall₂ (fun entry lines => entry.guards ≠ [] → (∀ g ∈ entry.guards, g.Plain) →
        ∃ line tree trees, entry.Conditioned lines line tree trees) e.registry.entries statements := by
  obtain ⟨w, -, -, registry, -, written⟩ := written_of_ok expanded
  simp only [expandedSource, bind_eq_ok_iff, pure, Except.pure, Except.ok.injEq] at written
  obtain ⟨statements, registered, text⟩ := written
  rw [← registry] at registered
  refine ⟨_, statements, text.symm, ?_⟩
  refine ((List.forall₂_and_left _ _).mpr
    ⟨guards_read read expanded, Glue.registrations_each registered⟩).imp ?_
  rintro ⟨item, guards⟩ lines ⟨reads, written⟩ guarded plain
  obtain ⟨g, guards, rfl⟩ := List.exists_cons_of_ne_nil guarded
  obtain ⟨trees, reads⟩ := Guard.reads_each reads
  obtain ⟨tree, trees, -, -, rfl⟩ := List.forall₂_cons_left_iff.mp reads
  have single := ((List.forall₂_and_left _ _).mpr ⟨plain, reads⟩).imp fun _ _ both =>
    Guard.OneLine.of_plain both.2 both.1
  obtain ⟨line, alone, condition⟩ := Glue.registration_oneLine item single
  exact ⟨line, tree, trees, reads, Except.ok.inj (written.symm.trans alone), condition⟩

end Expansion
end Bindery

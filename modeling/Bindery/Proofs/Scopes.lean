import Bindery.Proofs.Carriers
import Bindery.Proofs.QuotedNames
import Bindery.Text.Normal

/- What the identifiers of the registrations stand for. The definitions of a body bind their names one
   after the other, then the tail binds its own, and a later binding of a name takes the place of an
   earlier one; inside the routine that registers the items its parameters and the names that its
   conditions assign to come first. So an identifier stands for the declaration that carried the
   annotation as long as nothing else comes between. -/
namespace Bindery

/-! ### Assignments in expressions -/

namespace Expr

mutual

/-- The names that an expression assigns to in the scope around it. The body of a lambda is a scope of
    its own; a comprehension is none to its assignments. -/
def assigned : Expr → List String
  | .constant _ | .name _ => []
  | .attribute value _ => assigned value
  | .subscript value index => assigned value ++ assigned index
  | .call callee args keywords => assigned callee ++ assignedEach args ++ assignedKeywords keywords
  | .logical _ operands => assignedEach operands
  | .named target value => target :: assigned value
  | .binary left _ right => assigned left ++ assigned right
  | .unary _ operand => assigned operand
  | .lambda positionalOnly positional _ keywordOnly _ _ =>
    assignedParameters positionalOnly ++ assignedParameters positional ++
      assignedParameters keywordOnly
  | .conditional test body orelse => assigned test ++ assigned body ++ assigned orelse
  | .dict items => assignedItems items
  | .set elements | .list elements | .tuple elements => assignedEach elements
  | .listComp element generators | .setComp element generators
  | .generatorExp element generators => assigned element ++ assignedGenerators generators
  | .dictComp key value generators => assigned key ++ assigned value ++ assignedGenerators generators
  | .await value | .yieldFrom value | .starred value => assigned value
  | .yield value => assignedOption value
  | .compare left rest => assigned left ++ assignedComparisons rest
  | .formatted value _ format => assigned value ++ assignedOption format
  | .joined parts => assignedEach parts
  | .slice lower upper step => assignedOption lower ++ assignedOption upper ++ assignedOption step

def assignedOption : Option Expr → List String
  | none => []
  | some e => assigned e

def assignedEach : List Expr → List String
  | [] => []
  | e :: es => assigned e ++ assignedEach es

def assignedKeywords : List Keyword → List String
  | [] => []
  | .mk _ value :: rest => assigned value ++ assignedKeywords rest

def assignedItems : List DictItem → List String
  | [] => []
  | .pair key value :: rest => assigned key ++ assigned value ++ assignedItems rest
  | .spread value :: rest => assigned value ++ assignedItems rest

def assignedGenerators : List Generator → List String
  | [] => []
  | .mk _ target source conditions :: rest =>
    assigned target ++ assigned source ++ assignedEach conditions ++ assignedGenerators rest

/-- The default of a parameter is evaluated outside. -/
def assignedParameters : List Parameter → List String
  | [] => []
  | .mk _ default :: rest => assignedOption default ++ assignedParameters rest

def assignedComparisons : List Comparison → List String
  | [] => []
  | .mk _ right :: rest => assigned right ++ assignedComparisons rest

end

end Expr

/-- The names that a condition assigns to. -/
def Guard.assigned (g : Guard) : List String :=
  match bracketedPhrase? g.source with
  | .ok (some phrase) => phrase.expr.assigned
  | _ => []

namespace Scope

/-- What a name stands for: a declaration of the body, by its position, a name of the tail, a parameter
    of the routine, or what a condition assigns. -/
inductive Referent where
  | declaration (position : Nat)
  | appended (name : String)
  | parameter (name : String)
  | assigned (name : String)
  deriving DecidableEq, Repr

/-- Names are the same if their normal forms are. -/
def SameName (a b : String) : Prop := Text.normalForm a = Text.normalForm b

instance (a b : String) : Decidable (SameName a b) :=
  inferInstanceAs (Decidable (_ = _))

/-! ### Frames -/

/-- The names of a scope with what they stand for, the latest binding first. -/
abbrev Frame := List (String × Referent)

namespace Frame

def bind (f : Frame) (name : String) (referent : Referent) : Frame :=
  (Text.normalForm name, referent) :: f

def bindAll (f : Frame) : List (String × Referent) → Frame
  | [] => f
  | (name, referent) :: rest => (f.bind name referent).bindAll rest

def find? (f : Frame) (name : String) : Option Referent := f.lookup (Text.normalForm name)

variable {f : Frame} {name : String} {referent : Referent} {bs : List (String × Referent)}

theorem find?_bind (other : String) : (f.bind other referent).find? name =
    if SameName other name then some referent else f.find? name := by
  rw [bind, find?, List.lookup_cons]
  by_cases same : SameName other name
  · have here : (Text.normalForm name == Text.normalForm other) = true := beq_iff_eq.mpr (Eq.symm same)
    rw [if_pos same, here]
  · have apart : (Text.normalForm name == Text.normalForm other) = false := by
      rw [beq_eq_false_iff_ne]
      exact Ne.symm same
    rw [if_neg same, apart]
    rfl

theorem bindAll_append (bs more : List (String × Referent)) :
    f.bindAll (bs ++ more) = (f.bindAll bs).bindAll more := by
  induction bs generalizing f with
  | nil => rfl
  | cons b bs ih => exact ih

/-- Bindings of other names change nothing. -/
theorem find?_bindAll_other (other : ∀ b ∈ bs, ¬ SameName b.1 name) :
    (f.bindAll bs).find? name = f.find? name := by
  induction bs generalizing f with
  | nil => rfl
  | cons b bs ih =>
    obtain ⟨here, later⟩ := List.forall_mem_cons.mp other
    rw [bindAll, ih later, find?_bind, if_neg here]

/-- A name that was bound stands for what one of its bindings says. -/
theorem find?_bindAll_bound (bound : ∃ b ∈ bs, SameName b.1 name) :
    ∃ b ∈ bs, SameName b.1 name ∧ (f.bindAll bs).find? name = some b.2 := by
  induction bs generalizing f with
  | nil => simp at bound
  | cons b bs ih =>
    by_cases later : ∃ b ∈ bs, SameName b.1 name
    · obtain ⟨own, member, same, found⟩ := ih later
      exact ⟨own, List.mem_cons_of_mem b member, same, found⟩
    · have other : ∀ b ∈ bs, ¬ SameName b.1 name := fun own member same =>
        later ⟨own, member, same⟩
      obtain ⟨own, member, same⟩ := bound
      obtain rfl : own = b :=
        (List.mem_cons.mp member).resolve_right fun inRest => other own inRest same
      refine ⟨own, by simp, same, ?_⟩
      rw [bindAll, find?_bindAll_other other, find?_bind, if_pos same]

/-- A name stands for a declaration if it does so without further bindings that are of none, and none of
    them is of this name. -/
theorem find?_bindAll_declaration {k : Nat} (foreign : ∀ b ∈ bs, b.2 ≠ .declaration k) :
    (f.bindAll bs).find? name = some (.declaration k) ↔
      (∀ b ∈ bs, ¬ SameName b.1 name) ∧ f.find? name = some (.declaration k) := by
  by_cases bound : ∃ b ∈ bs, SameName b.1 name
  · obtain ⟨b, member, same, found⟩ := find?_bindAll_bound (f := f) bound
    rw [found, Option.some.injEq]
    exact ⟨fun own => absurd own (foreign b member), fun ⟨apart, _⟩ => absurd same (apart b member)⟩
  · have other : ∀ b ∈ bs, ¬ SameName b.1 name := fun b member same => bound ⟨b, member, same⟩
    rw [find?_bindAll_other other]
    exact ⟨fun found => ⟨other, found⟩, And.right⟩

end Frame

/-! ### The definitions of a body -/

/-- The definitions of a body bind their names in order. -/
def declared (ds : List Declaration) : List (String × Referent) :=
  ds.zipIdx.map fun p => (p.1.ident, .declaration p.2)

/-- No declaration behind a position has the name. -/
def NotRebound (ds : List Declaration) (name : String) (k : Nat) : Prop :=
  ∀ d ∈ ds.drop (k + 1), ¬ SameName d.ident name

instance (ds : List Declaration) (name : String) (k : Nat) : Decidable (NotRebound ds name k) :=
  inferInstanceAs (Decidable (∀ d ∈ ds.drop (k + 1), ¬ SameName d.ident name))

/-- A declaration is the last one of a body that has a name. -/
def LastNamed (ds : List Declaration) (name : String) (k : Nat) : Prop :=
  ∃ d, ds[k]? = some d ∧ SameName d.ident name ∧ NotRebound ds name k

/-- With one more definition behind it, a body's last one of a name is that one or the last before. -/
theorem lastNamed_snoc {ds : List Declaration} {d : Declaration} {name : String} {k : Nat} :
    LastNamed (ds ++ [d]) name k ↔
      if SameName d.ident name then k = ds.length else LastNamed ds name k := by
  rcases Nat.lt_trichotomy k ds.length with earlier | rfl | behind
  · have rest : (ds ++ [d]).drop (k + 1) = ds.drop (k + 1) ++ [d] :=
      List.drop_append_of_le_length earlier
    simp only [LastNamed, NotRebound, List.getElem?_append_left earlier, rest,
      List.forall_mem_append, List.forall_mem_singleton]
    split <;> rename_i same
    · simp [same, earlier.ne]
    · simp [same]
  · simp [LastNamed, NotRebound]
  · have none_ : ds[k]? = none := List.getElem?_eq_none behind.le
    have none' : (ds ++ [d])[k]? = none := List.getElem?_eq_none (by simp; omega)
    simp [LastNamed, none_, none', behind.ne']

theorem find?_declared {ds : List Declaration} {name : String} {k : Nat} :
    (Frame.bindAll [] (declared ds)).find? name = some (.declaration k) ↔ LastNamed ds name k := by
  -- the definitions are bound one after the other, so the last one decides first
  induction ds using List.reverseRecOn with
  | nil => simp [declared, Frame.bindAll, Frame.find?, LastNamed]
  | append_singleton ds d ih =>
    have step : declared (ds ++ [d]) = declared ds ++ [(d.ident, .declaration ds.length)] := by
      simp [declared, List.zipIdx_append]
    rw [step, Frame.bindAll_append, lastNamed_snoc]
    simp only [Frame.bindAll, Frame.find?_bind]
    split
    · simp [eq_comm]
    · exact ih

/-! ### The tail -/

/-- The name that a line of a module body binds, if it begins a definition or assigns to a name. A line
    that is indented binds nothing in the module. -/
def boundBy? (line : String) : Option String :=
  let cs := line.toList
  if "def ".toList.isPrefixOf cs then
    some (String.ofList ((cs.drop "def ".length).takeWhile (· ≠ '(')))
  else
    let word := cs.takeWhile (· ≠ ' ')
    if !word.isEmpty && " = ".toList.isPrefixOf (cs.drop word.length) then some (String.ofList word)
    else none

/-- The parameters of the routine that a line begins. -/
def parametersOf (line : String) : List String :=
  let inside := ((line.toList.dropWhile (· ≠ '(')).drop 1).takeWhile (· ≠ ')')
  (Text.splitAt ',' inside).map fun cs => String.ofList (cs.dropWhile (· = ' '))

/-- The name of the routine that registers the items. -/
def routine : String := "extend_module"

/-- The parameters of that routine among the lines of a module body. -/
def parametersIn (lines : List String) : List String :=
  match lines.find? fun line => boundBy? line = some routine with
  | some line => parametersOf line
  | none => []

/-- The names that the tail of an expansion binds. -/
def appendedNames : List String := ["MODULE_NAME", routine, "make_module"]

def parameterNames : List String := ["vm", "module"]

theorem boundBy?_indented (line : String) : boundBy? (Glue.indent ++ line) = none := by
  simp [boundBy?, Glue.indent, String.toList_append]

theorem boundBy?_moduleName (value : String) :
    boundBy? ("MODULE_NAME = " ++ value) = some "MODULE_NAME" := by
  simp [boundBy?, String.toList_append]

theorem boundBy?_blank : boundBy? "" = none := by decide

theorem boundBy?_routine : boundBy? "def extend_module(vm, module):" = some routine := by decide

theorem tailLines_bind (moduleName : String) (statements : List (List String)) :
    (Glue.tailLines moduleName statements).filterMap boundBy? = appendedNames := by
  have maker : boundBy? "def make_module(vm):" = some "make_module" := by decide
  simp only [Glue.tailLines]
  split <;>
    simp [List.filterMap_append, boundBy?_indented, boundBy?_moduleName,
      boundBy?_blank, boundBy?_routine, maker, appendedNames]

theorem parametersIn_tailLines (moduleName : String) (statements : List (List String)) :
    parametersIn (Glue.tailLines moduleName statements) = parameterNames := by
  have header : (Glue.tailLines moduleName statements).find? (fun line => boundBy? line = some routine)
      = some "def extend_module(vm, module):" := by
    simp [Glue.tailLines, boundBy?_moduleName, boundBy?_blank, boundBy?_routine,
      routine]
  rw [parametersIn, header]
  decide

/-! ### In the routine -/

/-- The names that the conditions of entries assign to. -/
def assignedIn (entries : List Entry) : List String :=
  (entries.flatMap (·.guards)).flatMap Guard.assigned

/-- The names in sight where the routine runs, outer ones first: those of the body's definitions, those
    of the lines behind it, and those of the routine's own. A name that a routine assigns to anywhere
    is its own throughout. -/
def visible (ds : List Declaration) (entries : List Entry) (lines : List String) : Frame :=
  Frame.bindAll [] (declared ds ++ (
    (lines.filterMap boundBy?).map (fun name => (name, .appended name)) ++
    (parametersIn lines).map (fun name => (name, .parameter name)) ++
    (assignedIn entries).map (fun name => (name, .assigned name))))

/-- A name in the routine stands for a declaration just if that is the last one of this name, and neither
    the tail nor the routine nor a condition has the name for itself. -/
theorem find?_visible {ds : List Declaration} {entries : List Entry} {moduleName name : String}
    {statements : List (List String)} {k : Nat} :
    (visible ds entries (Glue.tailLines moduleName statements)).find? name = some (.declaration k) ↔
      (∀ other ∈ appendedNames ++ parameterNames ++ assignedIn entries, ¬ SameName other name) ∧
        LastNamed ds name k := by
  rw [visible, tailLines_bind, parametersIn_tailLines, Frame.bindAll_append,
    Frame.find?_bindAll_declaration, find?_declared]
  · simp only [List.forall_mem_append, List.forall_mem_map]
  · simp [or_imp, forall_and]

/-! ### Registrations -/

/-- The lines behind the body of an expansion. -/
def tailOf (e : Expansion) : Except SourceFault (List String) :=
  (Glue.registrations e.registry.entries).map (Glue.tailLines e.moduleName)

/-- What the identifier of an entry stands for where it is registered. -/
def referent? (ds : List Declaration) (e : Expansion) (lines : List String) (entry : Entry) :
    Option Referent :=
  (visible ds e.registry.entries lines).find? entry.item.ident

/-- Nothing takes the identifier of a declaration from it: neither the tail nor the routine nor a
    condition has the name for itself, and no later declaration has it. -/
structure Kept (ds : List Declaration) (e : Expansion) (c : Carrier) : Prop where
  ofTail : ∀ other ∈ appendedNames, ¬ SameName other c.declaration.ident
  ofRoutine : ∀ other ∈ parameterNames, ¬ SameName other c.declaration.ident
  ofConditions : ∀ other ∈ assignedIn e.registry.entries, ¬ SameName other c.declaration.ident
  last : NotRebound ds c.declaration.ident c.position

theorem kept_iff {ds : List Declaration} {e : Expansion} {c : Carrier} : Kept ds e c ↔
    (∀ other ∈ appendedNames ++ parameterNames ++ assignedIn e.registry.entries,
      ¬ SameName other c.declaration.ident) ∧ NotRebound ds c.declaration.ident c.position := by
  simp only [List.forall_mem_append]
  constructor
  · rintro ⟨tail, routine, conditions, last⟩
    exact ⟨⟨⟨tail, routine⟩, conditions⟩, last⟩
  · rintro ⟨⟨⟨tail, routine⟩, conditions⟩, last⟩
    exact ⟨tail, routine, conditions, last⟩

instance (ds : List Declaration) (e : Expansion) (c : Carrier) : Decidable (Kept ds e c) :=
  decidable_of_iff' _ kept_iff

/-- The statement of an entry is one of the routine, perhaps under a condition. -/
theorem statement_mem_tailLines {entries : List Entry} {statements : List (List String)}
    (registered : Glue.registrations entries = .ok statements) (moduleName : String) {entry : Entry}
    (member : entry ∈ entries) : ∃ lead ∈ [Glue.indent, Glue.indent ++ Glue.indent],
      lead ++ Glue.statement entry.item ∈ Glue.tailLines moduleName statements := by
  obtain ⟨lead, known, found⟩ := Glue.mem_registrations registered member
  refine ⟨Glue.indent ++ lead, by rcases List.mem_pair.mp known with rfl | rfl <;> simp, ?_⟩
  rw [String.append_assoc]
  exact Glue.mem_tailLines found

/-- The entries of an expansion belong to the binding annotations of its body, one to one and in order,
    and the statement of each is in the routine. The identifier that it uses stands there for the
    declaration with the annotation just if nothing takes it. -/
theorem registrations_refer {source : String} {path moduleName : Option String}
    {ds : List Declaration} {e : Expansion}
    (expanded : (Expansion.ofDeclarations source path moduleName ds).1 = .ok e) :
    ∃ lines, tailOf e = .ok lines ∧
      e.source = Glue.append
        (Glue.strip source (Expansion.rowsOf ((carriers ds).map Carrier.annotation)))
        ("\n".intercalate lines ++ "\n") ∧
      (∀ entry ∈ e.registry.entries, ∃ lead ∈ [Glue.indent, Glue.indent ++ Glue.indent],
        lead ++ Glue.statement entry.item ∈ lines) ∧
      List.Forall₂ (fun entry c => Carries ds entry c ∧
        (referent? ds e lines entry = some (.declaration c.position) ↔ Kept ds e c))
        e.registry.entries (carriers ds) := by
  obtain ⟨w, ended, -, registry, -, written⟩ := Expansion.written_of_ok expanded
  have removed : w.removed = (carriers ds).map Carrier.annotation := by
    rw [Walk.ofDeclarations_fits (Walk.fits_of_ok ended), Except.ok.injEq] at ended
    subst ended
    rw [carriers, List.map_flatMap]
    conv_lhs => rw [← List.zipIdx_map_fst 0 ds, List.flatMap_map]
    simp [Function.comp_def]
  simp only [Expansion.expandedSource, bind_eq_ok_iff, pure, Except.pure, Except.ok.injEq] at written
  obtain ⟨statements, registered, text⟩ := written
  rw [← registry] at registered
  refine ⟨_, by rw [tailOf, registered]; rfl, by rw [← removed]; exact text.symm,
    fun entry => statement_mem_tailLines registered e.moduleName, ?_⟩
  refine (Expansion.carried expanded).imp fun entry c carries => ⟨carries, ?_⟩
  rw [referent?, find?_visible, carries.ident, kept_iff]
  refine and_congr_right fun _ => ?_
  constructor
  · rintro ⟨-, -, -, last⟩
    exact last
  · intro last
    exact ⟨_, carries.declared, rfl, last⟩

/-- Two functions of different names, one of them under a condition, and another definition. -/
def distinctBody : String :=
  "@pyfunction\ndef f(): pass\n@cfg(unix)\n@pyattr\ndef g(vm): pass\ndef h(): pass\n"

theorem distinctBody_refers : ∃ ds e lines, Declaration.ofSource distinctBody none = .ok ds ∧
    (Expansion.ofDeclarations distinctBody none none ds).1 = .ok e ∧ tailOf e = .ok lines ∧
    e.registry.entries.length = 2 ∧
    List.Forall₂ (fun entry c => referent? ds e lines entry = some (.declaration c.position))
      e.registry.entries (carriers ds) := by
  obtain ⟨ds, read, e, expanded, entries, kept⟩ : ∃ ds, Declaration.ofSource distinctBody none = .ok ds ∧
      ∃ e, (Expansion.ofDeclarations distinctBody none none ds).1 = .ok e ∧
        e.registry.entries.length = 2 ∧ ∀ c ∈ carriers ds, Kept ds e c := by decide +kernel
  obtain ⟨lines, written, -, -, refers⟩ := registrations_refer expanded
  have each := (List.forall₂_and_left _ _).mpr ⟨kept, refers.flip⟩
  exact ⟨ds, e, lines, read, expanded, written, entries,
    each.flip.imp fun _ _ ⟨own, _, refer⟩ => refer.mpr own⟩

/-- A function with the name of a parameter, two of one name under different conditions, one with a name
    of the tail, and one whose own condition assigns to its name. -/
def overlappingBody : String :=
  "@pyfunction\ndef vm(): pass\n@cfg(unix)\n@pyfunction\ndef f(): pass\n" ++
  "@cfg(windows)\n@pyfunction\ndef f(): pass\n@pyfunction\ndef make_module(): pass\n" ++
  "@cfg((g := 1))\n@pyfunction\ndef g(): pass\n"

/-- Of the five functions only the second of the two is registered as itself. -/
theorem overlappingBody_confused : ∃ ds, Declaration.ofSource overlappingBody none = .ok ds ∧
    ∃ e, (Expansion.ofDeclarations overlappingBody none none ds).1 = .ok e ∧
    ∃ lines, tailOf e = .ok lines ∧
      (carriers ds).map (fun c => Referent.declaration c.position) =
        [.declaration 0, .declaration 1, .declaration 2, .declaration 3, .declaration 4] ∧
      e.registry.entries.map (referent? ds e lines) =
        [some (.parameter "vm"), some (.declaration 2), some (.declaration 2),
          some (.appended "make_module"), some (.assigned "g")] ∧
      ¬ List.Forall₂ (fun entry c => referent? ds e lines entry = some (.declaration c.position))
        e.registry.entries (carriers ds) := by
  decide +kernel

end Scope
end Bindery

import Bindery.Proofs.Walks

/- Where the faults of a body come from that are no diagnostics. A decorator is read exactly when its
   text has no null character and all its operands can be printed and evaluated. What has been read can
   be written again, so that once all decorators of a body are read only a binding on the wrong kind
   of declaration is a fault. -/
namespace Bindery

/-! ### Printing again -/

namespace Printer

variable {inField : Bool}

/-- The level of a place decides on brackets only. -/
theorem print_level (level level' : Level) (e : Expr) :
    Defined (print inField level e) ↔ Defined (print inField level' e) := by
  cases e with
  | subscript value index =>
    rw [print.eq_def inField level, print.eq_def inField level']
    cases index with
    | tuple elements => cases elements <;> exact Iff.rfl
    | _ => exact Iff.rfl
  | yield value =>
    cases value with
    | none => exact iff_of_true ⟨_, rfl⟩ ⟨_, rfl⟩
    | some value => simp only [print, Defined.bind_iff, Defined.pure]
  | _ => simp only [print, Defined.bind_iff, Defined.pure]

theorem dotted_printed (level : Level) :
    (e : Expr) → (path : String) → e.dottedName? = some path → Defined (print inField level e)
  | .name _, _, _ => .ok _
  | .attribute value _, _, dotted => by
    simp only [Expr.dottedName?, Option.map_eq_some_iff] at dotted
    obtain ⟨path, inner, -⟩ := dotted
    exact (dotted_printed Level.atom value path inner).andThen fun _ => .ok _

theorem each_printed {es : List Expr} (printed : ∀ e ∈ es, Defined e.text) :
    Defined (printEach false Level.test es) := by
  induction es with
  | nil => exact .ok _
  | cons e es ih =>
    obtain ⟨own, more⟩ := List.forall_mem_cons.mp printed
    exact Defined.andThen own fun _ => (ih more).andThen fun _ => .ok _

theorem keywords_printed {keywords : List Keyword} {found : List (Option String × Expr)}
    (keyed : Directive.keyed? keywords = some found) (printed : ∀ e ∈ found, Defined e.2.text) :
    Defined (printKeywords false keywords) := by
  induction keywords generalizing found with
  | nil => exact .ok _
  | cons keyword rest ih =>
    obtain ⟨name, value⟩ := keyword
    cases name with
    | none => simp [Directive.keyed?] at keyed
    | some key =>
      simp only [Directive.keyed?, Option.map_eq_some_iff] at keyed
      obtain ⟨more, rest', rfl⟩ := keyed
      obtain ⟨own, others⟩ := List.forall_mem_cons.mp printed
      exact Defined.andThen own fun _ => (ih rest' others).andThen fun _ => .ok _

end Printer

/-! ### Reading directives -/

namespace Directive

/-- The expressions of a phrase that its directive prints and evaluates. -/
def operands : Expr → List Expr
  | .named _ value => [value]
  | .call callee args keywords =>
    match callee.dottedName?, arguments? args keywords with
    | some _, some found => found.map Prod.snd
    | _, _ => []
  | _ => []

/-- An expression can be printed, and no number in it is too large for its value. -/
def Readable (e : Expr) : Prop := Defined e.text ∧ Literal.ofExpr e ≠ .error .integerTooLarge

theorem valueOf_defined (e : Expr) :
    Defined (valueOf e) ↔ Literal.ofExpr e ≠ .error .integerTooLarge := by
  unfold valueOf
  cases value : Literal.ofExpr e with
  | ok v => simp [Defined]
  | error fault => cases fault <;> simp [Defined]

theorem printed_defined (e : Expr) : Defined (printed e) ↔ Defined e.text := mapError_defined

theorem argument_defined (base : Span) (key : Option String) (e : Expr) (start : Place) :
    Defined (argument base key e start) ↔ Readable e :=
  Defined.both_iff.trans (and_congr (printed_defined e) (valueOf_defined e))

theorem buildArguments_defined (base : Span) (found : List (Option String × Expr))
    (starts : List Place) :
    Defined (buildArguments base found starts) ↔ ∀ e ∈ found.map Prod.snd, Readable e := by
  induction found generalizing starts with
  | nil => simp [buildArguments, Defined]
  | cons e rest ih =>
    obtain ⟨key, e⟩ := e
    simp only [buildArguments, Defined.both_iff, argument_defined, ih, List.map_cons,
      List.forall_mem_cons]

theorem ofPhrase_defined (phrase : Reader.Phrase) (span : Span) :
    Defined (ofPhrase phrase span) ↔ ∀ e ∈ operands phrase.expr, Readable e := by
  unfold ofPhrase operands
  cases phrase.expr with
  | named target value =>
    simp only [Defined.both_iff, printed_defined, valueOf_defined, List.forall_mem_singleton,
      Readable]
  | call callee args keywords =>
    cases dotted : callee.dottedName? with
    | none => simp [dotted, Defined]
    | some path =>
      cases arguments : arguments? args keywords with
      | none => simp [dotted, arguments, Defined]
      | some found =>
        simp only [dotted, arguments, Defined.first_iff, buildArguments_defined]
  | _ => simp [Defined]

/-- A text without a null character, and with readable operands when it is a phrase. -/
def Legible (source : String) : Prop :=
  '\x00' ∉ source.toList ∧
    ∀ phrase, Reader.phrase? ('(' :: source.toList ++ [')']) = some phrase →
      ∀ e ∈ operands phrase.expr, Readable e

/-- The legible texts are those that are read, be it as a directive or as none. -/
theorem read_defined (source : String) (span : Span) :
    Defined (read source span) ↔ Legible source := by
  unfold read bracketedPhrase? Legible
  by_cases null : '\x00' ∈ source.toList
  · simp [null, Defined, bind, Except.bind]
  · cases phrase : Reader.phrase? ('(' :: source.toList ++ [')']) with
    | none => simp [null, Defined, bind, Except.bind, pure, Except.pure]
    | some found =>
      simpa [null, bind, Except.bind] using ofPhrase_defined found span

/-- A directive can be printed again as a whole. -/
theorem ofPhrase_printed {phrase : Reader.Phrase} {span : Span} {d : Directive}
    (read : ofPhrase phrase span = .ok (some d)) : Defined phrase.expr.text := by
  have readable := (ofPhrase_defined phrase span).mp ⟨_, read⟩
  unfold ofPhrase at read
  split at read
  · rename_i target value shape
    rw [shape] at readable ⊢
    have value' : Defined value.text := (readable value (List.mem_singleton.mpr rfl)).1
    exact ((Printer.print_level .test .atom value).mp value').andThen fun _ => .ok _
  · rename_i callee args keywords shape
    split at read
    · rename_i path found dotted arguments
      rw [shape] at readable ⊢
      simp only [operands, dotted, arguments, List.forall_mem_map] at readable
      simp only [arguments?, bind, Option.bind_eq_some_iff, pure, Option.some.injEq] at arguments
      obtain ⟨ps, plain, ks, keyed, rfl⟩ := arguments
      have args' : ∀ e ∈ args, Defined e.text := by
        rw [← plain?_exprs plain, List.forall_mem_map]
        exact fun e member => (readable e (List.mem_append_left _ member)).1
      have keywords' : Defined (Printer.printKeywords false keywords) :=
        Printer.keywords_printed keyed fun e member =>
          (readable e (List.mem_append_right _ member)).1
      exact (Printer.dotted_printed .atom callee path dotted).andThen fun _ =>
        (Printer.each_printed args').andThen fun _ => keywords'.andThen fun _ => .ok _
    · simp at read
  · simp only [Except.ok.injEq, Option.map_eq_some_iff] at read
    obtain ⟨path, dotted, -⟩ := read
    exact Printer.dotted_printed .test _ path dotted

end Directive

/-! ### Declarations -/

/-- The decorators of a statement. -/
def Body.Statement.decorators : Body.Statement → List Body.Decorator
  | .definition decorators _ => decorators
  | .other => []

namespace Declaration

theorem annotationsOf_defined (path : Option String) (decorators : List Body.Decorator) :
    Defined (annotationsOf path decorators) ↔ ∀ d ∈ decorators, Directive.Legible d.source := by
  induction decorators with
  | nil => simp [annotationsOf, Defined]
  | cons d ds ih =>
    simp only [annotationsOf, Annotation.ofDecorator, Defined.both_iff, Defined.first_iff,
      Directive.read_defined, ih, List.forall_mem_cons]

theorem ofStatements_defined (path : Option String) (found : List Body.Statement) :
    Defined (ofStatements path found) ↔
      ∀ s ∈ found, ∀ d ∈ s.decorators, Directive.Legible d.source := by
  induction found with
  | nil => simp [ofStatements, Defined]
  | cons s rest ih =>
    cases s with
    | other => simpa [ofStatements, Body.Statement.decorators] using ih
    | definition decorators definition =>
      simp only [ofStatements, ofDefinition, Defined.both_iff, Defined.first_iff,
        annotationsOf_defined, ih, List.forall_mem_cons, Body.Statement.decorators]

end Declaration

/-! ### Bodies -/

/-- The condition of a directive can be written, on however many lines it stands. -/
theorem Guard.render_defined {g : Guard} {span : Span} {d : Directive}
    (read : Directive.read g.source span = .ok (some d)) : Defined g.render := by
  obtain ⟨phrase?, phrased, rest⟩ := bind_eq_ok_iff.mp read
  unfold Guard.render
  rw [phrased]
  cases phrase? with
  | none => exact .ok _
  | some phrase =>
    have printed : Defined (Directive.printed phrase.expr) :=
      (Directive.printed_defined _).mpr (Directive.ofPhrase_printed rest)
    refine Defined.bind_iff.mpr ⟨some phrase, rfl, ?_⟩
    dsimp only
    split
    · exact printed.andThen fun _ => .ok _
    · exact (Defined.ok g.source).andThen fun _ => .ok _

namespace Declaration

theorem guards_render {d : Declaration} (isRead : d.IsRead) :
    ∀ g ∈ d.guards, Defined g.render := by
  intro g member
  simp only [guards, List.mem_map, List.mem_filter] at member
  obtain ⟨a, ⟨inDeclaration, guard⟩, rfl⟩ := member
  obtain ⟨start, read⟩ := (isRead a inDeclaration).directive
  cases directive : a.directive with
  | none => simp [ Annotation.isGuard, directive] at guard
  | some directive' => exact Guard.render_defined (g := a.guard) (directive ▸ read)

theorem entryOf_guards {d : Declaration} {a : Annotation} {e : Entry}
    (found : d.entryOf a = some e) : e.guards = d.guards := by
  rw [entryOf_eq, Option.map_eq_some_iff] at found
  obtain ⟨-, -, rfl⟩ := found
  rfl

end Declaration

namespace Glue

theorem conditions_defined {guards : List Guard} (render : ∀ g ∈ guards, Defined g.render) :
    Defined (conditions guards) := by
  induction guards with
  | nil => exact .ok _
  | cons g gs ih =>
    obtain ⟨here, later⟩ := List.forall_mem_cons.mp render
    exact here.andThen fun _ => (ih later).andThen fun _ => .ok _

theorem registration_defined {item : Item} {guards : List Guard}
    (render : ∀ g ∈ guards, Defined g.render) : Defined (registration item guards) := by
  unfold registration
  split
  · exact .ok _
  · exact (conditions_defined render).andThen fun _ => .ok _

theorem registrations_defined {entries : List Entry}
    (render : ∀ e ∈ entries, ∀ g ∈ e.guards, Defined g.render) :
    Defined (registrations entries) := by
  induction entries with
  | nil => exact .ok _
  | cons e es ih =>
    obtain ⟨here, later⟩ := List.forall_mem_cons.mp render
    exact (registration_defined here).andThen fun _ => (ih later).andThen fun _ => .ok _

end Glue

/-! ### Misplaced bindings -/

namespace Registry

/-- The fault is a binding among the annotations that expects another kind of declaration. -/
def Misplaced (fault : Fault) (d : Declaration) : Prop :=
  ∃ a ∈ d.annotations, ∃ b, a.binding? = some b ∧ d.kind ≠ b.expects ∧
    fault = .kindMismatch ⟨b, d.kind, d.ident⟩

theorem classifyOne_fault {kind : Declaration.Kind} {ident : String} {found : Findings}
    {a : Annotation} {stop : Stop} (isRead : a.IsRead)
    (stopped : classifyOne kind ident found a = .error stop) :
    ∃ b, a.binding? = some b ∧ kind ≠ b.expects ∧ stop.fault = .kindMismatch ⟨b, kind, ident⟩ := by
  unfold classifyOne at stopped
  split at stopped
  · contradiction
  · rename_i d directive
    split at stopped
    · rename_i guard
      have isGuard : a.isGuard = true := by simp [ Annotation.isGuard, directive, guard]
      obtain ⟨key, structural⟩ := isRead.key isGuard
      simp [ Annotation.make_guard a key structural] at stopped
    · split at stopped
      · contradiction
      · rename_i b binding
        split at stopped
        · rename_i mismatch
          obtain rfl := Except.error.inj stopped
          exact ⟨b, by simp [ Annotation.binding?, directive, binding], mismatch, rfl⟩
        · split at stopped <;> contradiction

theorem classifyAll_fault {kind : Declaration.Kind} {ident : String} {as : List Annotation}
    {found : Findings} {stop : Stop} (isRead : ∀ a ∈ as, a.IsRead)
    (stopped : classifyAll kind ident found as = .error stop) :
    ∃ a ∈ as, ∃ b, a.binding? = some b ∧ kind ≠ b.expects ∧
      stop.fault = .kindMismatch ⟨b, kind, ident⟩ := by
  induction as generalizing found with
  | nil => simp [classifyAll] at stopped
  | cons a as ih =>
    obtain ⟨here, later⟩ := List.forall_mem_cons.mp isRead
    rcases bind_eq_error_iff.mp stopped with first | ⟨next, -, rest⟩
    · exact ⟨a, List.mem_cons_self, classifyOne_fault here first⟩
    · obtain ⟨a', member, misplaced⟩ := ih later rest
      exact ⟨a', List.mem_cons_of_mem a member, misplaced⟩

theorem extract_fault {r : Registry} {d : Declaration} {stop : Stop} (isRead : d.IsRead)
    (stopped : r.extract d = .error stop) : Misplaced stop.fault d := by
  rcases bind_eq_error_iff.mp stopped with classified | ⟨found, -, rest⟩
  · exact classifyAll_fault isRead classified
  · contradiction

end Registry

namespace Walk

theorem along_fault {w : Walk} {ds : List Declaration} {stop : Stop}
    (isRead : ∀ d ∈ ds, d.IsRead) (stopped : w.along ds = .error stop) :
    ∃ d ∈ ds, Registry.Misplaced stop.fault d := by
  induction ds generalizing w with
  | nil => contradiction
  | cons d ds ih =>
    obtain ⟨here, later⟩ := List.forall_mem_cons.mp isRead
    simp only [along] at stopped
    split at stopped
    · rename_i first refused
      obtain rfl := Except.error.inj stopped
      exact ⟨d, List.mem_cons_self, Registry.extract_fault here refused⟩
    · obtain ⟨d', member, misplaced⟩ := ih later stopped
      exact ⟨d', List.mem_cons_of_mem d member, misplaced⟩

end Walk

/-! ### Expansions -/

namespace Expansion

/-- The text of a walk over a body that has been read can be written. -/
theorem expandedSource_defined {name source : String} {ds : List Declaration} {w : Walk}
    (isRead : ∀ d ∈ ds, d.IsRead) (walked : Walk.ofDeclarations ds = .ok w) :
    Defined (expandedSource name source w) := by
  refine Defined.first_iff.mpr (Glue.registrations_defined ?_)
  rw [Walk.ofDeclarations_fits (Walk.fits_of_ok walked), Except.ok.injEq] at walked
  subst walked
  intro e registered
  obtain ⟨⟨d, a⟩, bound, entry⟩ := List.mem_filterMap.mp (Registry.mem_of_mem_ofOffers registered)
  rw [Declaration.entryOf_guards entry]
  exact Declaration.guards_render (isRead d (Declaration.mem_bindings bound).1)

/-- Once a body is read, nothing but a misplaced binding keeps it from either an expansion or
    diagnostics. -/
theorem ofDeclarations_fault {source : String} {path moduleName : Option String}
    {ds : List Declaration} {fault : Registry.Fault} (isRead : ∀ d ∈ ds, d.IsRead)
    (stopped : (ofDeclarations source path moduleName ds).1 = .error (.registry fault)) :
    ∃ d ∈ ds, Registry.Misplaced fault d := by
  unfold ofDeclarations at stopped
  split at stopped
  · rename_i stop walked
    obtain rfl : stop.fault = fault := by simpa using stopped
    exact Walk.along_fault isRead walked
  · rename_i w walked
    split at stopped
    · simp at stopped
    · have written : Defined
          (expandedSource (ModuleName.resolve (identOfPath path) moduleName) source w) :=
        expandedSource_defined isRead walked
      obtain ⟨text, written⟩ := written
      simp [written] at stopped

theorem ofSource_read {source : String} {path moduleName : Option String} {ds : List Declaration}
    (read : Declaration.ofSource source path = .ok ds) :
    ofSource source path moduleName = (ofDeclarations source path moduleName ds).1 := by
  simp [ofSource, read, bind, Except.bind]

/-- A body fails with a fault of a source exactly when one of its decorators is not legible. -/
theorem source_fault_iff (source : String) (path moduleName : Option String) :
    (∃ f, ofSource source path moduleName = .error (.registry (.source f))) ↔
      ∃ found, Body.statements source = .ok found ∧
        ¬ ∀ s ∈ found, ∀ d ∈ s.decorators, Directive.Legible d.source := by
  cases statements : Body.statements source with
  | error place =>
    simp [ofSource, Declaration.ofSource, statements, bind, Except.bind, Fault.ofRead]
  | ok found =>
    simp only [Except.ok.injEq, exists_eq_left', ← Declaration.ofStatements_defined path]
    cases declarations : Declaration.ofStatements path found with
    | error f =>
      simp [ofSource, Declaration.ofSource, statements, declarations, bind, Except.bind,
        Fault.ofRead, Defined]
    | ok ds =>
      have read : Declaration.ofSource source path = .ok ds := by
        simp [Declaration.ofSource, statements, declarations]
      refine iff_of_false ?_ (not_not_intro ⟨ds, rfl⟩)
      rintro ⟨f, stopped⟩
      rw [ofSource_read read] at stopped
      obtain ⟨d, -, a, -, b, -, -, misplaced⟩ :=
        ofDeclarations_fault (Declaration.ofSource_isRead read) stopped
      contradiction

/-- It fails with a mismatch exactly when it is read and a binding expects another kind of
    declaration. -/
theorem mismatch_iff (source : String) (path moduleName : Option String) :
    (∃ m, ofSource source path moduleName = .error (.registry (.kindMismatch m))) ↔
      ∃ ds, Declaration.ofSource source path = .ok ds ∧ ¬ ∀ d ∈ ds, d.KindsAgree := by
  cases read : Declaration.ofSource source path with
  | error fault =>
    cases fault <;> simp [ofSource, read, bind, Except.bind, Fault.ofRead]
  | ok ds =>
    have isRead := Declaration.ofSource_isRead read
    simp only [Except.ok.injEq, exists_eq_left', ofSource_read read]
    constructor
    · rintro ⟨m, stopped⟩ agree
      obtain ⟨d, inBody, a, member, b, binds, mismatch, -⟩ := ofDeclarations_fault isRead stopped
      exact mismatch (agree d inBody a member b binds)
    · intro disagree
      have misfit : ¬ ∀ d ∈ ds, d.Fits := fun fits =>
        disagree fun d inBody a member => (fits d inBody a member).kind
      obtain ⟨stop, walked⟩ := Walk.along_stops misfit [] {} rfl
      obtain ⟨d, -, a, -, b, -, -, misplaced⟩ := Walk.along_fault isRead walked
      exact ⟨⟨b, d.kind, d.ident⟩, by simp [ofDeclarations, Walk.ofDeclarations, walked, misplaced]⟩

end Expansion
end Bindery

import Bindery.Generation
import Bindery.Proofs.Outcomes

/- Reading and expanding a source under another path. A path is carried along in the places of all that is
   found, and nothing is decided by it: whatever is found under one path is found under any other, with
   its places moved there. -/
namespace Bindery

variable (path : Option String)

/-! ### Moving -/

/-- The same place in a file of another path. -/
def Span.moved (s : Span) : Span := { s with path }

def Diagnostic.moved (d : Diagnostic) : Diagnostic := { d with span := d.span.moved path }

def Diagnostic.Batch.moved (b : Batch) : Batch := ⟨b.first.moved path, b.rest.map (·.moved path)⟩

def Argument.moved (a : Argument) : Argument := { a with span := a.span.moved path }

def Directive.moved : Directive → Directive
  | .bare name span => .bare name (span.moved path)
  | .applied name args span => .applied name (args.map (·.moved path)) (span.moved path)
  | .assigned name value source span => .assigned name value source (span.moved path)

def Annotation.moved (a : Annotation) : Annotation :=
  { a with directive := a.directive.map (·.moved path), span := a.span.moved path }

def Declaration.moved (d : Declaration) : Declaration :=
  { d with span := d.span.moved path, annotations := d.annotations.map (·.moved path) }

def Declaration.ReadFault.moved : ReadFault → ReadFault
  | .unreadable d => .unreadable (d.moved path)
  | .source f => .source f

def Guard.moved (g : Guard) : Guard := { g with span := g.span.moved path }

/-- The same item under the same conditions. -/
def Entry.moved (e : Entry) : Entry := { e with guards := e.guards.map (·.moved path) }

def Registry.moved (r : Registry) : Registry := ⟨r.entries.map (·.moved path)⟩

/-- Each thing with its place moved. -/
def movedAll {α : Type} (found : List (α × Span)) : List (α × Span) :=
  found.map fun x => (x.1, x.2.moved path)

namespace Registry

def Findings.moved (f : Findings) : Findings :=
  { items := movedAll path f.items
    guards := f.guards.map (·.moved path)
    diagnostics := f.diagnostics.map (·.moved path) }

def Stop.moved (s : Stop) : Stop := { s with diagnostics := s.diagnostics.map (·.moved path) }

def Extraction.moved (e : Extraction) : Extraction :=
  { registry := e.registry.moved path
    declaration := e.declaration.moved path
    removed := e.removed.map (·.moved path)
    diagnostics := e.diagnostics.map (·.moved path) }

end Registry

def Walk.moved (w : Walk) : Walk :=
  { registry := w.registry.moved path
    declarations := w.declarations.map (·.moved path)
    removed := w.removed.map (·.moved path)
    diagnostics := w.diagnostics.map (·.moved path) }

def Walk.Stop.moved (s : Stop) : Stop := { s with walk := s.walk.moved path }

/-- The same text and the same items. -/
def Expansion.moved (e : Expansion) : Expansion :=
  { e with
    registry := e.registry.moved path
    declarations := e.declarations.map (·.moved path) }

def Expansion.Fault.moved : Fault → Fault
  | .problems batch => .problems (batch.moved path)
  | .registry f => .registry f

/-- An outcome with all its places moved. -/
def movedOutcome {ε α : Type} (fault : ε → ε) (value : α → α) (x : Except ε α) : Except ε α :=
  (x.map value).mapError fault

@[simp] theorem movedOutcome_ok {ε α : Type} (fault : ε → ε) (value : α → α) (a : α) :
    movedOutcome fault value (.ok a) = .ok (value a) := rfl

@[simp] theorem movedOutcome_error {ε α : Type} (fault : ε → ε) (value : α → α) (e : ε) :
    movedOutcome fault value (.error e) = .error (fault e) := rfl

/-- A chain of steps is moved if each step is. -/
theorem movedOutcome_bind {ε α β : Type} {fault : ε → ε} {value : α → α} {value' : β → β}
    {x x' : Except ε α} {f f' : α → Except ε β} (first : x' = movedOutcome fault value x)
    (rest : ∀ a, f' (value a) = movedOutcome fault value' (f a)) :
    (x' >>= f') = movedOutcome fault value' (x >>= f) := by
  subst first
  cases x with
  | error e => rfl
  | ok a => exact rest a

/-! ### Diagnostics -/

namespace Diagnostic.Batch

theorem toList_moved (b : Batch) : (b.moved path).toList = b.toList.map (·.moved path) := rfl

theorem ofList?_moved (ds : List Diagnostic) :
    ofList? (ds.map (·.moved path)) = (ofList? ds).map (·.moved path) := by
  cases ds <;> rfl

end Diagnostic.Batch

/-! ### Reading -/

namespace Directive

theorem argument_moved (base : Span) (key : Option String) (e : Expr) (start : Place) :
    argument (base.moved path) key e start = movedOutcome id (·.moved path) (argument base key e start) := by
  unfold argument
  cases printed e with
  | error f => rfl
  | ok source => cases valueOf e <;> rfl

theorem buildArguments_moved (base : Span) (found : List (Option String × Expr)) (starts : List Place) :
    buildArguments (base.moved path) found starts =
      movedOutcome id (List.map (·.moved path)) (buildArguments base found starts) := by
  induction found generalizing starts with
  | nil => rfl
  | cons entry rest ih =>
    exact movedOutcome_bind (argument_moved path base entry.1 entry.2 _) fun a =>
      movedOutcome_bind (ih _) fun _ => rfl

theorem ofPhrase_moved (phrase : Reader.Phrase) (span : Span) :
    ofPhrase phrase (span.moved path) =
      movedOutcome id (Option.map (·.moved path)) (ofPhrase phrase span) := by
  unfold ofPhrase
  split
  · rename_i target value _
    cases printed value with
    | error f => rfl
    | ok source => cases valueOf value <;> rfl
  · split
    · exact movedOutcome_bind (buildArguments_moved path span _ _) fun _ => rfl
    · rfl
  · simp only [movedOutcome_ok, Option.map_map]
    rfl

theorem read_moved (source : String) (span : Span) :
    read source (span.moved path) = movedOutcome id (Option.map (·.moved path)) (read source span) := by
  unfold read
  cases bracketedPhrase? source with
  | error f => rfl
  | ok phrase? =>
    cases phrase? with
    | none => rfl
    | some phrase => exact ofPhrase_moved path phrase span

theorem ident?_moved (d : Directive) : (d.moved path).ident? = d.ident? := by
  cases d <;> rfl

end Directive

theorem Annotation.ofDecorator_moved (before : Option String) (d : Body.Decorator) :
    ofDecorator path d = movedOutcome id (·.moved path) (ofDecorator before d) := by
  refine movedOutcome_bind (Directive.read_moved path d.source (Span.ofPlace before d.sourceStart)) ?_
  intro directive
  cases directive with
  | none => rfl
  | some directive =>
    simp [ Annotation.moved, Directive.ident?_moved, Span.ofPlace, Span.moved, pure, Except.pure]

namespace Declaration

theorem annotationsOf_moved (before : Option String) (decorators : List Body.Decorator) :
    annotationsOf path decorators =
      movedOutcome id (List.map (·.moved path)) (annotationsOf before decorators) := by
  induction decorators with
  | nil => rfl
  | cons d ds ih =>
    exact movedOutcome_bind ( Annotation.ofDecorator_moved path before d) fun a =>
      movedOutcome_bind ih fun _ => rfl

theorem ofStatements_moved (before : Option String) (found : List Body.Statement) :
    ofStatements path found =
      movedOutcome id (List.map (·.moved path)) (ofStatements before found) := by
  induction found with
  | nil => rfl
  | cons s rest ih =>
    cases s with
    | other => exact ih
    | definition decorators d =>
      have read := annotationsOf_moved path before decorators
      exact movedOutcome_bind (movedOutcome_bind read fun _ => rfl) fun found =>
        movedOutcome_bind ih fun _ => rfl

/-- The declarations of a source are the same under any path. -/
theorem ofSource_moved (source : String) (before : Option String) :
    ofSource source path =
      movedOutcome (·.moved path) (List.map (·.moved path)) (ofSource source before) := by
  unfold ofSource
  cases Body.statements source with
  | error place => rfl
  | ok found =>
    dsimp only
    rw [ofStatements_moved path before]
    cases ofStatements before found <;> rfl

end Declaration

/-! ### Registering -/

namespace Annotation

@[simp] theorem binding?_moved (a : Annotation) : (a.moved path).binding? = a.binding? := by
  simp [binding?, moved]

@[simp] theorem isBinding_moved (a : Annotation) : (a.moved path).isBinding = a.isBinding := by
  simp [isBinding]

end Annotation

theorem Guard.make_moved (source key : String) (span : Span) :
    make source key (span.moved path) = movedOutcome id (·.moved path) (make source key span) := by
  unfold make
  split
  · cases structuralKey source <;> rfl
  · rfl

theorem Guard.sameList_moved (as bs : List Guard) :
    sameList (as.map (·.moved path)) (bs.map (·.moved path)) = sameList as bs := by
  induction as generalizing bs with
  | nil => cases bs <;> rfl
  | cons a as ih =>
    cases bs with
    | nil => rfl
    | cons b bs => exact congrArg (a.same b && ·) (ih bs)

theorem Entry.clashes_moved (a b : Entry) : (a.moved path).clashes (b.moved path) = a.clashes b :=
  congrArg (a.item.name == b.item.name && ·) (Guard.sameList_moved path a.guards b.guards)

theorem Argument.placeOr_moved (fallback : Span) (a : Argument) :
    (a.moved path).placeOr (some (fallback.moved path)) = (a.placeOr (some fallback)).moved path := by
  unfold placeOr
  split <;> rename_i known <;> simp_all [Argument.moved, Span.moved]

namespace Arguments

theorem faults_moved (directive : String) (allowed : List String) (span : Span) (args : List Argument) :
    faults directive allowed (some (span.moved path)) (args.map (·.moved path)) =
      (faults directive allowed (some span) args).map (·.moved path) := by
  simp only [faults, List.filterMap_map, List.map_filterMap]
  congr 1
  funext a
  have same : (a.moved path).check allowed = a.check allowed := rfl
  simp only [Function.comp_apply, same, Argument.placeOr_moved]
  cases a.check allowed <;> rfl

theorem ofList_moved (directive ident : String) (allowed : List String) (span : Span)
    (args : List Argument) :
    ofList directive ident (args.map (·.moved path)) allowed (some (span.moved path)) =
      movedOutcome (·.moved path) id (ofList directive ident args allowed (some span)) := by
  have same : accepted allowed (args.map (·.moved path)) = accepted allowed args := by
    simp only [accepted, List.filterMap_map]
    rfl
  unfold ofList
  rw [faults_moved, Diagnostic.Batch.ofList?_moved, same]
  cases Diagnostic.Batch.ofList? (faults directive allowed (some span) args) <;> rfl

end Arguments

namespace Binding

theorem argumentsOf_moved (b : Binding) (d : Directive) :
    b.argumentsOf (d.moved path) =
      movedOutcome (·.moved path) (List.map (·.moved path)) (b.argumentsOf d) := by
  cases d <;> rfl

theorem classify_moved (b : Binding) (ident : String) (d : Directive) (span : Span) :
    b.classify ident (d.moved path) (span.moved path) =
      movedOutcome (·.moved path) id (b.classify ident d span) :=
  movedOutcome_bind (argumentsOf_moved path b d) fun args =>
    movedOutcome_bind (Arguments.ofList_moved path b.name ident b.allowed span args) fun _ => rfl

end Binding

namespace Registry

theorem find?_moved (r : Registry) (e : Entry) :
    (r.moved path).find? (e.moved path) = (r.find? e).map (·.moved path) := by
  simp only [find?, moved, List.find?_map, Function.comp_def, Entry.clashes_moved]

theorem add_moved (r : Registry) (item : Item) (guards : List Guard) (span : Span) :
    (r.moved path).add item (guards.map (·.moved path)) (span.moved path) =
      movedOutcome (·.moved path) (·.moved path) (r.add item guards span) := by
  have found := find?_moved path r ⟨item, guards⟩
  unfold add
  rw [show (⟨item, guards.map (·.moved path)⟩ : Entry) = Entry.moved path ⟨item, guards⟩ from rfl,
    found]
  cases r.find? ⟨item, guards⟩ with
  | some first => rfl
  | none => simp [moved, Entry.moved]

theorem addAll_moved (r : Registry) (guards : List Guard) (items : List (Item × Span)) :
    (r.moved path).addAll (guards.map (·.moved path)) (movedAll path items) =
      ((r.addAll guards items).1.moved path, (r.addAll guards items).2.map (·.moved path)) := by
  induction items generalizing r with
  | nil => rfl
  | cons offer rest ih =>
    obtain ⟨item, span⟩ := offer
    simp only [movedAll, List.map_cons, addAll, add_moved]
    cases r.add item guards span with
    | ok r => exact ih r
    | error batch =>
      have more := ih r
      simp only [movedAll] at more
      simp [more, Diagnostic.Batch.toList_moved]

theorem classifyOne_moved (kind : Declaration.Kind) (ident : String) (found : Findings)
    (a : Annotation) :
    classifyOne kind ident (found.moved path) (a.moved path) =
      movedOutcome (·.moved path) (·.moved path) (classifyOne kind ident found a) := by
  unfold classifyOne
  cases directive : a.directive with
  | none => simp [ Annotation.moved, directive]
  | some d =>
    simp only [ Annotation.moved, directive, Option.map_some, Guard.make_moved, Binding.classify_moved]
    by_cases guard : a.name = some Annotation.guardName
    · rw [if_pos guard, if_pos guard]
      cases Guard.make a.source "" a.span with
      | error f => rfl
      | ok g => simp [Findings.moved]
    · rw [if_neg guard, if_neg guard]
      cases a.name.bind Binding.ofName? with
      | none => rfl
      | some b =>
        dsimp only
        by_cases other : kind ≠ b.expects
        · rw [if_pos other, if_pos other]
          rfl
        · rw [if_neg other, if_neg other]
          cases b.classify ident d a.span with
          | ok item => simp [Findings.moved, movedAll]
          | error batch => simp [Findings.moved, Diagnostic.Batch.toList_moved]

theorem classifyAll_moved (kind : Declaration.Kind) (ident : String) (found : Findings)
    (as : List Annotation) :
    classifyAll kind ident (found.moved path) (as.map (·.moved path)) =
      movedOutcome (·.moved path) (·.moved path) (classifyAll kind ident found as) := by
  induction as generalizing found with
  | nil => rfl
  | cons a rest ih => exact movedOutcome_bind (classifyOne_moved path kind ident found a) fun _ => ih _

theorem extract_moved (r : Registry) (d : Declaration) :
    (r.moved path).extract (d.moved path) =
      movedOutcome (·.moved path) (·.moved path) (r.extract d) := by
  refine movedOutcome_bind (classifyAll_moved path d.kind d.ident {} d.annotations) fun found => ?_
  simp only [Findings.moved, addAll_moved]
  simp [pure, Except.pure, Extraction.moved, Declaration.moved, List.filter_map, Function.comp_def]

end Registry

/-! ### Walking -/

namespace Walk

theorem along_moved (w : Walk) (ds : List Declaration) :
    (w.moved path).along (ds.map (·.moved path)) =
      movedOutcome (·.moved path) (·.moved path) (w.along ds) := by
  induction ds generalizing w with
  | nil => rfl
  | cons d ds ih =>
    have extracted := Registry.extract_moved path w.registry d
    simp only [List.map_cons, along, moved, extracted]
    cases w.registry.extract d with
    | error stop => simp [Stop.moved, Registry.Stop.moved, moved]
    | ok found =>
      simpa [append, moved, Registry.Extraction.moved] using ih (w.append found)

theorem ofDeclarations_moved (ds : List Declaration) :
    ofDeclarations (ds.map (·.moved path)) =
      movedOutcome (·.moved path) (·.moved path) (ofDeclarations ds) :=
  along_moved path {} ds

end Walk

namespace Glue

theorem registrations_moved (entries : List Entry) :
    registrations (entries.map (·.moved path)) = registrations entries := by
  have rendered : ∀ guards : List Guard,
      conditions (guards.map (·.moved path)) = conditions guards := by
    intro guards
    induction guards with
    | nil => rfl
    | cons g gs ih =>
      have own : (g.moved path).render = g.render := rfl
      rw [List.map_cons, conditions, conditions, ih, own]
  have own : ∀ e : Entry, registration (e.moved path).item (e.moved path).guards =
      registration e.item e.guards := by
    intro e
    simp [registration, Entry.moved, rendered]
  induction entries with
  | nil => rfl
  | cons e es ih => rw [List.map_cons, registrations, registrations, ih, own]

end Glue

namespace Expansion

theorem rowsOf_moved (annotations : List Annotation) :
    rowsOf (annotations.map (·.moved path)) = rowsOf annotations := by
  simp [rowsOf, Annotation.moved]

theorem expandedSource_moved (name source : String) (w : Walk) :
    expandedSource name source (w.moved path) = expandedSource name source w := by
  simp only [expandedSource, Walk.moved, Registry.moved, Glue.registrations_moved, rowsOf_moved]

/-- Under a name that is given, declarations are expanded in the same way under any path. -/
theorem ofDeclarations_moved (source name : String) (before : Option String)
    (ds : List Declaration) :
    (ofDeclarations source path (some name) (ds.map (·.moved path))).1 =
      movedOutcome (·.moved path) (·.moved path) (ofDeclarations source before (some name) ds).1 := by
  unfold ofDeclarations
  rw [Walk.ofDeclarations_moved]
  cases Walk.ofDeclarations ds with
  | error stop => rfl
  | ok w =>
    simp only [movedOutcome_ok, Walk.moved, Diagnostic.Batch.ofList?_moved]
    cases Diagnostic.Batch.ofList? w.diagnostics with
    | some batch => rfl
    | none =>
      have written := expandedSource_moved path name source w
      simp only [Walk.moved] at written
      simp only [Option.map_none, ModuleName.resolve, Option.getD_some, written]
      cases expandedSource name source w <;> rfl

/-- Under a name that is given, a source is expanded in the same way under any path: to the same text
    and the same items, or to the same problems but for their places. -/
theorem ofSource_moved (source name : String) (before : Option String) :
    ofSource source path (some name) =
      movedOutcome (·.moved path) (·.moved path) (ofSource source before (some name)) := by
  unfold ofSource
  rw [Declaration.ofSource_moved path source before]
  cases Declaration.ofSource source before with
  | error fault => cases fault <;> rfl
  | ok ds => exact ofDeclarations_moved path source name before ds

end Expansion
end Bindery

import Bindery.Log
import Bindery.Manifest
import Bindery.Scan
import Bindery.Settings.File

/- Generation of a tree: every source file that binds something is expanded, and the expansions are
   written to an output directory together with two manifests. All files are read and expanded
   before anything is written; if one of them has problems, nothing is. -/
namespace Bindery.Generation

/-- What keeps a tree from being generated. -/
inductive Fault where
  | settings (fault : Settings.ReadFault)
  | output (fault : Settings.OutputFault)
  | resolve (fault : FileTree.ResolveFault)
  | scan (fault : Scan.Fault)
  | problems (batch : Diagnostic.Batch)
  | registry (fault : Registry.Fault)
  | file (fault : FileFault)
  deriving Repr

def Fault.message : Fault → String
  | .settings fault => fault.message
  | .output fault => fault.message
  | .resolve fault => fault.message
  | .scan fault => fault.message
  | .problems batch => batch.render
  | .registry fault => fault.message
  | .file fault => fault.message

structure Result where
  moduleCount : Nat
  bindingCount : Nat
  /-- The paths of all files written, in the order of their writing. -/
  artifacts : List String
  deriving DecidableEq, Repr

/-- An expanded file, with its path relative to the root. -/
structure Body where
  path : String
  expansion : Expansion
  deriving Repr

/-! ### Reading -/

def unreadableMessage (reason : String) : String := "cannot read source: " ++ reason

/-- The text of a source file, with line feeds for all line breaks, or why there is none. -/
def readSource (t : FileTree) (s : Surroundings) (p : Path) : Except String String := do
  let bytes ← (t.read s p).mapError FileFault.message
  let cs ← (Text.Utf8.decode bytes).mapError Text.Utf8.Fault.message
  return String.ofList (Text.unifyBreaks cs)

/-- Whether the name of a binding directive occurs in a text at all. Other texts are not read. -/
def mentionsBinding (source : String) : Bool :=
  Binding.names.any fun name => Text.occursIn name.toList source.toList

def hasBindings (ds : List Declaration) : Bool :=
  ds.any fun d => d.annotations.any (·.isBinding)

/-- What a source file comes to. -/
inductive Finding where
  | plain
  | expanded (body : Body)
  | problems (ds : List Diagnostic)
  deriving Repr

/-- The finding for a body whose declarations are known. -/
def expand (settings : Settings) (path source : String) (ds : List Declaration) :
    Except Registry.Fault Finding × List Log.Line :=
  let (found, _) := Expansion.ofDeclarations source (some path) (settings.nameOf? path) ds
  let log := Log.ofExpansion (some path) ds found
  match found with
  | .ok e => (.ok (.expanded ⟨path, e⟩), log ++ [Log.expandedFile path e])
  | .error (.problems batch) => (.ok (.problems batch.toList), log)
  | .error (.registry fault) => (.error fault, log)

/-- Reads and expands one source file, given by its path relative to the root. -/
def examine (t : FileTree) (s : Surroundings) (root : Path) (settings : Settings) (p : Path) :
    Except Registry.Fault Finding × List Log.Line :=
  let path := p.text
  match readSource t s (root.join p) with
  | .error reason => (.ok (.problems [⟨unreadableMessage reason, { path := some path }⟩]), [])
  | .ok source =>
    if !mentionsBinding source then (.ok .plain, [])
    else match Declaration.ofSource source (some path) with
      | .error (.unreadable d) => (.ok (.problems [d]), [])
      | .error (.source fault) => (.error (.source fault), [])
      | .ok ds => if hasBindings ds then expand settings path source ds else (.ok .plain, [])

/-- What the source files of a tree come to. -/
structure Survey where
  bodies : List Body := []
  diagnostics : List Diagnostic := []
  log : List Log.Line := []
  deriving Repr

namespace Survey

def add (v : Survey) : Finding → Survey
  | .plain => v
  | .expanded body => { v with bodies := v.bodies ++ [body] }
  | .problems ds => { v with diagnostics := v.diagnostics ++ ds }

/-- Goes on over further files, up to the first fault. -/
def along (t : FileTree) (s : Surroundings) (root : Path) (settings : Settings) (v : Survey) :
    List Path → Survey × Option Registry.Fault
  | [] => (v, none)
  | p :: ps =>
    match examine t s root settings p with
    | (.error fault, log) => ({ v with log := v.log ++ log }, some fault)
    | (.ok finding, log) => along t s root settings ({ v with log := v.log ++ log }.add finding) ps

end Survey

/-! ### Planning -/

/-- The path of an output directory relative to the root; `none` unless it lies strictly below. -/
def outputName? (t : FileTree) (s : Surroundings) (out root : Path) :
    Except FileTree.ResolveFault (Option String) := do
  let place ← t.resolve s out
  let top ← t.resolve s root
  if FileTree.isBelow top place then
    return some (Path.text { names := place.drop top.length })
  else return none

/-- The output directory below the root that is no source: the one that is written to, or else the
    one of the settings. -/
def skippedDirectory (t : FileTree) (s : Surroundings) (root out : Path) (settings : Settings) :
    Except FileTree.ResolveFault String := do
  return (← outputName? t s out root).getD (Path.ofText settings.outputDirectory).text

/-- What is to be written, and where. -/
structure Plan where
  out : Path
  bodies : List Body
  deriving Repr

/-- The output directory that is given, or else the one of the settings. -/
def outputOf (t : FileTree) (s : Surroundings) (root : Path) (out : Option Path)
    (settings : Settings) : Except Fault Path :=
  match out with
  | some out => .ok out
  | none => do
    let place ← (Settings.outputPlace t s root settings.outputDirectory).mapError .output
    return FileTree.pathOf place

/-- The output directory and the source files of a tree. -/
def prepare (t : FileTree) (s : Surroundings) (root : Path) (out : Option Path)
    (settings : Option Settings) : Except Fault (Settings × Path × List Path) := do
  let settings ← match settings with
    | some settings => .ok settings
    | none => (Settings.load t s root).mapError .settings
  let out ← outputOf t s root out settings
  let skipped ← (skippedDirectory t s root out settings).mapError .resolve
  let sources ← (Scan.sources t s root {
    outputDirectory := skipped
    included := settings.included
    excluded := settings.excluded
    nestedIgnore := settings.nestedIgnore }).mapError .scan
  return (settings, out, sources)

/-- All that is decided before anything is written. -/
def plan (t : FileTree) (s : Surroundings) (root : Path) (out : Option Path)
    (settings : Option Settings) : Except Fault Plan × List Log.Line :=
  match prepare t s root out settings with
  | .error fault => (.error fault, [])
  | .ok (settings, out, sources) =>
    match Survey.along t s root settings {} sources with
    | (v, some fault) => (.error (.registry fault), v.log)
    | (v, none) =>
      match Diagnostic.Batch.ofList? v.diagnostics with
      | some batch => (.error (.problems batch), v.log)
      | none => (.ok ⟨out, v.bodies⟩, v.log)

/-! ### Writing -/

/-- The line of the first declaration with a name. -/
def lineOf (ds : List Declaration) (ident : String) : Option Int :=
  (ds.find? fun d => d.ident == ident).bind fun d => d.span.line

namespace Body

def bindingRecords (b : Body) : List Manifest.BindingRecord :=
  b.expansion.registry.entries.map fun e =>
    { path := b.path
      module := b.expansion.moduleName
      kind := e.item.kind
      declaration := e.item.ident
      name := e.item.name
      guards := e.guards.map Guard.source
      line := lineOf b.expansion.declarations e.item.ident }

def moduleRecord (b : Body) : Manifest.ModuleRecord :=
  { path := b.path
    module := b.expansion.moduleName
    output := b.path
    bindingCount := b.expansion.registry.size }

end Body

namespace Plan

def bindings (p : Plan) : List Manifest.BindingRecord := p.bodies.flatMap Body.bindingRecords

/-- The records of the modules, in the order of their paths. -/
def modules (p : Plan) : List Manifest.ModuleRecord :=
  (p.bodies.map Body.moduleRecord).mergeSort fun a b => decide (a.path ≤ b.path)

/-- The files to be written, in order. -/
def files (p : Plan) : List (Path × List UInt8) :=
  p.bodies.map (fun b =>
    (p.out.join (Path.ofText b.path), Text.Utf8.ofString b.expansion.source)) ++
  [(p.out.child Manifest.bindingsName,
      Manifest.bytes (p.bindings.map Manifest.BindingRecord.value)),
   (p.out.child Manifest.modulesName,
      Manifest.bytes (p.modules.map Manifest.ModuleRecord.value))]

def result (p : Plan) : Result :=
  { moduleCount := p.bodies.length
    bindingCount := p.bindings.length
    artifacts := p.files.map fun f => f.1.text }

end Plan

/-- Writes files one after the other, each into a directory that is made for it, up to the first
    refusal. -/
def writeFiles (t : FileTree) (s : Surroundings) :
    List (Path × List UInt8) → FileTree × Option FileFault
  | [] => (t, none)
  | (p, bytes) :: rest =>
    match t.ensureDirectory s p.parent with
    | (t, some fault) => (t, some fault)
    | (t, none) =>
      match t.write s p bytes with
      | .error fault => (t, some fault)
      | .ok t => writeFiles t s rest

/-- Carries out a plan. -/
def Plan.write (p : Plan) (t : FileTree) (s : Surroundings) : FileTree × Option FileFault :=
  match t.ensureDirectory s p.out with
  | (t, some fault) => (t, some fault)
  | (t, none) => writeFiles t s p.files

/-- The outcome of a generation, with the tree as it is afterwards. -/
structure Outcome where
  result : Except Fault Result
  tree : FileTree
  log : List Log.Line
  deriving Repr

/-- Generates the tree at a root. Settings that are not given are read from it. -/
def run (t : FileTree) (s : Surroundings) (root : Path) (out : Option Path := none)
    (settings : Option Settings := none) : Outcome :=
  match plan t s root out settings with
  | (.error fault, log) => ⟨.error fault, t, log⟩
  | (.ok p, log) =>
    match p.write t s with
    | (t, some fault) => ⟨.error (.file fault), t, log⟩
    | (t, none) => ⟨.ok p.result, t, log⟩

end Bindery.Generation

import Bindery.Binding
import Bindery.Guard

/- The items of one module body in the order of their registration. An item is known by its
   external name together with its guards; the first item under a key keeps it. -/
namespace Bindery

structure Entry where
  item : Item
  guards : List Guard
  deriving DecidableEq, Repr

/-- Two entries have one key: the same external name and pairwise equal guards. -/
def Entry.clashes (a b : Entry) : Bool :=
  a.item.name == b.item.name && Guard.sameList a.guards b.guards

structure Registry where
  entries : List Entry := []
  deriving DecidableEq, Repr

namespace Registry

def size (r : Registry) : Nat := r.entries.length

/-- The entry under the key of an item with guards. -/
def find? (r : Registry) (e : Entry) : Option Entry := r.entries.find? e.clashes

def duplicateMessage (first second : Item) : String :=
  "Duplicate @py* annotation on pymodule: " ++ first.name ++ " (already bound to '" ++
    first.ident ++ "', rebound by '" ++ second.ident ++ "')"

/-- Registers an item, unless its key is bound already. -/
def add (r : Registry) (item : Item) (guards : List Guard) (span : Span) :
    Except Diagnostic.Batch Registry :=
  match r.find? ⟨item, guards⟩ with
  | some first => .error (.single span (duplicateMessage first.item item))
  | none => .ok ⟨r.entries ++ [⟨item, guards⟩]⟩

/-- Registers items one after the other; a refused one leaves its problem and no trace else. -/
def addAll (r : Registry) (guards : List Guard) :
    List (Item × Span) → Registry × List Diagnostic
  | [] => (r, [])
  | (item, span) :: rest =>
    match r.add item guards span with
    | .ok r => r.addAll guards rest
    | .error batch =>
      let (r, ds) := r.addAll guards rest
      (r, batch.toList ++ ds)

/-- What stops the classification of a declaration. -/
inductive Fault where
  | kindMismatch (m : Binding.KindMismatch)
  | source (fault : SourceFault)
  deriving DecidableEq, Repr

def Fault.message : Fault → String
  | .kindMismatch m => m.message
  | .source f => f.message

/-- What the annotations of one declaration amount to, before anything is registered. -/
structure Findings where
  items : List (Item × Span) := []
  guards : List Guard := []
  diagnostics : List Diagnostic := []
  deriving Repr

/-- A fault, with the problems found before it. -/
structure Stop where
  fault : Fault
  diagnostics : List Diagnostic
  deriving Repr

/-- One annotation: a guard, a binding, or of no concern. -/
def classifyOne (kind : Declaration.Kind) (ident : String) (found : Findings) (a : Annotation) :
    Except Stop Findings :=
  match a.directive with
  | none => .ok found
  | some d =>
    if a.name = some Annotation.guardName then
      match Guard.make a.source "" a.span with
      | .ok g => .ok { found with guards := found.guards ++ [g] }
      | .error f => .error ⟨.source f, found.diagnostics⟩
    else match a.name.bind Binding.ofName? with
      | none => .ok found
      | some b =>
        if kind ≠ b.expects then .error ⟨.kindMismatch ⟨b, kind, ident⟩, found.diagnostics⟩
        else match b.classify ident d a.span with
          | .ok item => .ok { found with items := found.items ++ [(item, a.span)] }
          | .error batch =>
            .ok { found with diagnostics := found.diagnostics ++ batch.toList }

def classifyAll (kind : Declaration.Kind) (ident : String) (found : Findings) :
    List Annotation → Except Stop Findings
  | [] => .ok found
  | a :: rest => do
    let found ← classifyOne kind ident found a
    classifyAll kind ident found rest

/-- What a declaration leaves behind: the registry with its items, the declaration without its
    binding annotations, those annotations, and the problems found. -/
structure Extraction where
  registry : Registry
  declaration : Declaration
  removed : List Annotation
  diagnostics : List Diagnostic
  deriving Repr

/-- Classifies every annotation of a declaration, then registers its items, all under the guards
    of the whole declaration. Nothing is registered or consumed when a fault stops it. -/
def extract (r : Registry) (decl : Declaration) : Except Stop Extraction := do
  let found ← classifyAll decl.kind decl.ident {} decl.annotations
  let (registry, refused) := r.addAll found.guards found.items
  return {
    registry
    declaration := { decl with annotations := decl.annotations.filter (!·.isBinding) }
    removed := decl.annotations.filter (·.isBinding)
    diagnostics := found.diagnostics ++ refused }

end Registry
end Bindery

/- Problems found in source text, each with the place it concerns. A pass goes on after a problem,
   so problems leave it as a batch, which is never empty. -/
namespace Bindery

/-- A place in a file. Lines and columns count from one, columns in bytes. -/
structure Span where
  path : Option String := none
  line : Option Int := none
  col : Option Int := none
  deriving DecidableEq, Repr, Inhabited

/-- `path:line:col` as far as it is known; a column needs a line. -/
def Span.location (s : Span) : String :=
  let file := match s.path with
    | some p => if p.isEmpty then "<source>" else p
    | none => "<source>"
  match s.line, s.col with
  | none, _ => file
  | some line, none => file ++ ":" ++ toString line
  | some line, some col => file ++ ":" ++ toString line ++ ":" ++ toString col

structure Diagnostic where
  message : String
  span : Span := {}
  deriving DecidableEq, Repr, Inhabited

namespace Diagnostic

def location (d : Diagnostic) : String := d.span.location

def render (d : Diagnostic) : String := d.location ++ ": error: " ++ d.message

/-- One or more problems. -/
structure Batch where
  first : Diagnostic
  rest : List Diagnostic
  deriving DecidableEq, Repr

namespace Batch

def ofList? : List Diagnostic → Option Batch
  | [] => none
  | d :: ds => some ⟨d, ds⟩

def toList (b : Batch) : List Diagnostic := b.first :: b.rest

def single (span : Span) (message : String) : Batch := ⟨⟨message, span⟩, []⟩

def render (b : Batch) : String := "\n".intercalate (b.toList.map Diagnostic.render)

@[simp] theorem toList_ofList? (ds : List Diagnostic) :
    (ofList? ds).elim [] toList = ds := by
  cases ds <;> rfl

theorem ofList?_eq_none_iff (ds : List Diagnostic) : ofList? ds = none ↔ ds = [] := by
  cases ds <;> simp [ofList?]

theorem ofList?_eq_some_iff {ds : List Diagnostic} {batch : Batch} :
    ofList? ds = some batch ↔ batch.toList = ds := by
  cases ds with
  | nil => simp [ofList?, toList]
  | cons d ds =>
    obtain ⟨first, rest⟩ := batch
    simp [ofList?, toList, eq_comm]

end Batch

/-- Why a list of problems is no batch. -/
def emptyBatchMessage : String := "DiagnosticError requires at least one diagnostic"

end Diagnostic
end Bindery

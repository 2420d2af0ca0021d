import Bindery.FileTree.Walk
import Bindery.Settings.Report

/- The settings file of a source tree, and the output directory that settings name. A tree without
   a settings file has the default settings. -/
namespace Bindery.Settings

def fileName : String := "pymodgen.toml"

/-- What keeps settings from being read. -/
inductive ReadFault where
  | file (fault : FileFault)
  | encoding (fault : Text.Utf8.Fault)
  | toml (path : String) (fault : Toml.Fault)
  | table (path : String) (fault : Fault)
  deriving Repr

def ReadFault.message : ReadFault → String
  | .file fault => fault.message
  | .encoding fault => fault.message
  | .toml path (.malformed cause place) =>
    "Invalid TOML in " ++ path ++ ": " ++ (Toml.Fault.malformed cause place).message
  | .toml _ (.tooManyDigits count) => (Toml.Fault.tooManyDigits count).message
  | .table path fault => "Invalid config in " ++ path ++ ": " ++ fault.message

/-- The settings that the bytes of a file give. -/
def ofBytes (path : String) (bytes : List UInt8) : Except ReadFault Settings := do
  let document ← (Text.Utf8.decode bytes).mapError .encoding
  let table ← (Toml.read document).mapError (.toml path)
  (ofTable table).mapError (.table path)

/-- The settings of the tree at a root. -/
def load (t : FileTree) (s : Surroundings) (root : Path) : Except ReadFault Settings := do
  let path := root.child fileName
  match ← (t.status? s path).mapError .file with
  | some (_, .file bytes) => ofBytes path.text bytes
  | _ => return {}

/-! ### The output directory -/

/-- Why an output directory is refused. -/
inductive OutputFault where
  | empty
  | notRelative
  | escapes (directory : String)
  | resolve (fault : FileTree.ResolveFault)
  deriving DecidableEq, Repr

def OutputFault.message : OutputFault → String
  | .empty => "output_dir must be a non-empty relative path"
  | .notRelative => "output_dir must be a relative path within the repo root"
  | .escapes directory => "output_dir '" ++ directory ++ "' escapes the repository root"
  | .resolve fault => fault.message

/-- The place of an output directory. It is the place of the root or lies below it, with all links
    followed. -/
def outputPlace (t : FileTree) (s : Surroundings) (root : Path) (directory : String) :
    Except OutputFault Location := do
  if directory.isEmpty then .error .empty
  let path := Path.ofText directory
  if directory.startsWith "~" || path.isAbsolute then .error .notRelative
  let top ← (t.resolve s root).mapError .resolve
  let place ← (t.resolve s ((FileTree.pathOf top).join path)).mapError .resolve
  if top.isPrefixOf place then return place else .error (.escapes directory)

end Bindery.Settings

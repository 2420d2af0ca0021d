import Bindery.Log

/- The forms of command lines. A form has flags, which may stand anywhere, and one operand. The words
   of the outermost form end with a command, whose own form reads the rest. -/
namespace Bindery.CommandLine

structure Flag where
  /-- All spellings, shortest first. -/
  names : List String
  /-- The word that stands for the value in a usage line. A flag without a value asks for help. -/
  value : Option String
  /-- The values that are allowed; no list allows all. -/
  choices : List String := []
  help : String
  deriving DecidableEq, Repr

/-- How many words an operand takes. -/
inductive Arity where
  | one
  | atMostOne
  | rest
  deriving DecidableEq, Repr

structure Operand where
  name : String
  arity : Arity
  /-- The first words that are allowed, each with its help; no list allows all. -/
  choices : List (String × String) := []
  help : String := ""
  deriving DecidableEq, Repr

structure Form where
  program : String
  flags : List Flag
  operand : Operand
  deriving DecidableEq, Repr

namespace Flag

/-- The spelling by which the value of a flag is kept. -/
def key (f : Flag) : String := f.names.getLastD ""

/-- The name of a flag in a message. -/
def shown (f : Flag) : String := "/".intercalate f.names

def asksHelp (f : Flag) : Bool := f.value.isNone

def help_ : Flag :=
  { names := ["-h", "--help"], value := none, help := "show this help message and exit" }

end Flag

namespace Form

/-- All spellings of flags, in order. -/
def spellings (f : Form) : List (String × Flag) :=
  f.flags.flatMap fun flag => flag.names.map fun name => (name, flag)

def flag? (f : Form) (name : String) : Option Flag := f.spellings.lookup name

end Form

/-! ### The forms of the program -/

def programName : String := "pymodgen"

def levelFlag : Flag :=
  { names := ["--log-level"]
    value := some (("\x7b" ++ ",".intercalate (Log.Level.all.map Log.Level.name)) ++ "\x7d")
    choices := Log.Level.all.map Log.Level.name
    help := "Logging level (default: WARNING)" }

def nameFlag : Flag :=
  { names := ["--name"]
    value := some "NAME"
    help := "External module name (default: derived from the file name)" }

def outputFlag : Flag :=
  { names := ["-o", "--output"]
    value := some "OUTPUT"
    help := "Write the expanded module here instead of stdout" }

def outDirectoryFlag : Flag :=
  { names := ["--out-dir"]
    value := some "OUT_DIR"
    help := "Output directory for expanded modules (default: config output dir)" }

def artifactsFlag : Flag :=
  { names := ["--artifacts-dir"]
    value := some "ARTIFACTS_DIR"
    help := "Previously generated directory (default: config output dir)" }

def rootOperand : Operand :=
  { name := "root", arity := .atMostOne, help := "Source tree root (default: .)" }

def expandForm : Form :=
  { program := programName ++ " expand"
    flags := [.help_, nameFlag, outputFlag]
    operand := { name := "file", arity := .one, help := "Python source file to expand" } }

def generateForm : Form :=
  { program := programName ++ " generate"
    flags := [.help_, outDirectoryFlag]
    operand := rootOperand }

def verifyForm : Form :=
  { program := programName ++ " verify"
    flags := [.help_, artifactsFlag]
    operand := rootOperand }

def mainForm : Form :=
  { program := programName
    flags := [.help_, levelFlag]
    operand :=
      { name := "command"
        arity := .rest
        choices := [
          ("expand", "Expand one module body"),
          ("generate", "Expand every annotated module of a tree"),
          ("verify", "Verify that an expanded tree is reproducible")] } }

end Bindery.CommandLine

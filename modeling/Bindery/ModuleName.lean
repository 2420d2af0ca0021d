import Bindery.Text.Blank
import Bindery.Text.Quoted

/- Names of modules. A path names the module of its components; a leading `src` and the name of a
   package file stand for nothing, and so does the extension. -/
namespace Bindery.ModuleName

def joinDots (parts : List String) : String := ".".intercalate parts

/-- The non-empty components, with either kind of slash between them. -/
def components (path : String) : List String :=
  let cs := path.toList.map fun c => if c = '\\' then '/' else c
  ((Text.splitAt '/' cs).filter (!·.isEmpty)).map String.ofList

def dropSource : List String → List String
  | "src" :: part :: rest => part :: rest
  | parts => parts

/-- The last component without its extension. -/
def dropExtension (part : String) : String :=
  if part.endsWith ".py" then String.ofList (part.toList.take (part.length - 3)) else part

def dropPackageFile (parts : List String) : List String :=
  if parts.getLast? == some "__init__" then parts.dropLast else parts

def parts (path : String) : List String :=
  let found := dropSource (components path)
  match found.getLast? with
  | none => []
  | some last => dropPackageFile (found.dropLast ++ [dropExtension last])

/-- The dotted module name of a path; `none` when nothing is left to name. -/
def ofPath? (path : String) : Option String :=
  match parts path with
  | [] => none
  | found => some (joinDots found)

/-- The last name of a dotted one. -/
def lastName (name : String) : String :=
  String.ofList ((Text.splitAt '.' name.toList).getLastD [])

def defaultName? (path : String) : Option String := (ofPath? path).map lastName

def unnamedMessage (path : String) : String :=
  "path " ++ Text.quoted path ++ " does not map to a non-empty module name"

/-- An explicit name wins over the identifier. -/
def resolve (ident : String) (explicit : Option String) : String := explicit.getD ident

end Bindery.ModuleName

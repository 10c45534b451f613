import ServiceContainer.Compilation
import ServiceContainer.Json.Document
import ServiceContainer.Path
import ServiceContainer.Yaml.Document

/-!
Configuration files. The extension of a file's name tells its format.
-/

namespace ServiceContainer

inductive FileFormat where
  | json
  | yaml
  deriving DecidableEq, Repr

namespace FileFormat

def extensions : List (String × FileFormat) := [("json", .json), ("yml", .yaml), ("yaml", .yaml)]

/-- The format of a file; upper and lower case letters of its extension count alike. -/
def ofPath? (path : Path) : Option FileFormat := path.extension?.bind fun e => extensions.lookup e.toLower

def read : FileFormat → String → Except Failure Tree
  | .json, text => Tree.readJson text
  | .yaml, text => Tree.readYaml text

end FileFormat

abbrev Reader := Path → Except FileFailure String

/-- Loads one document. A file whose name does not tell its format is not even read. -/
def loadDocument (read : Reader) (path : Path) : Except Failure Tree :=
  match FileFormat.ofPath? path with
  | none => .error (.invalid (.unsupportedFile path))
  | some format =>
    match read path with
    | .error reason => .error (.file path reason)
    | .ok text => format.read text

/-- Compiles files into the text of one class; later files take precedence. -/
def compileFiles (read : Reader) (settings : Settings) (paths : List Path) : Except Failure String := do
  compileDocuments settings (← paths.mapM (loadDocument read))

end ServiceContainer

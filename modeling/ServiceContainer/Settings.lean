import ServiceContainer.Failure
import ServiceContainer.Json
import ServiceContainer.Json.Source
import ServiceContainer.Php.ContainerClass

/-!
Compiler settings, and the JSON file they may be kept in.
-/

namespace ServiceContainer

inductive Mode where
  | withParameters
  /-- Parameters come from elsewhere, and a section of them is an error. -/
  | strict
  deriving DecidableEq, Repr

structure Settings where
  names : Php.ClassNames := {}
  mode : Mode := .withParameters
  /-- Whether services whose constructors need each other stop the compilation. -/
  checkReferences : Bool := true
  deriving DecidableEq, Repr

namespace Settings

def modeText : Mode → String
  | .withParameters => "with_parameters"
  | .strict => "strict"

def toJson (s : Settings) : Json :=
  .object
    [("class_name", .text s.names.name),
      ("base_class", .text s.names.base),
      ("mode", .text (modeText s.mode)),
      ("check_references", .bool s.checkReferences)]

def text? : Json.Source → Option String
  | .text units => Json.text? units
  | _ => none

def bool? : Json.Source → Option Bool
  | .bool b => some b
  | _ => none

def modeOfText? (s : String) : Option Mode :=
  [Mode.withParameters, .strict].find? (modeText · = s)

/-- A mode is its name, or an object that gives null to its name. -/
def mode? : Json.Source → Option Mode
  | .text units => (Json.text? units).bind modeOfText?
  | .object [(key, .null)] => (Json.text? key).bind modeOfText?
  | _ => none

/-- The names of the fields, in the order in which a list gives their values. -/
def fieldNames : List String := ["class_name", "base_class", "mode", "check_references"]

def set? (s : Settings) (field : String) (value : Json.Source) : Option Settings :=
  match field with
  | "class_name" => (text? value).map fun name => { s with names.name := name }
  | "base_class" => (text? value).map fun base => { s with names.base := base }
  | "mode" => (mode? value).map fun mode => { s with mode }
  | "check_references" => (bool? value).map fun check => { s with checkReferences := check }
  | _ => some s

def setAll? (fields : List (String × Json.Source)) : Option Settings :=
  fields.foldlM (fun s (field, value) => s.set? field value) {}

/-- Settings are an object, in which no field is given twice, or a list of values for the first fields.
Fields that are not given keep their defaults. -/
def ofJson? : Json.Source → Option Settings
  | .array items => if items.length ≤ fieldNames.length then setAll? (fieldNames.zip items) else none
  | .object fields => do
    let fields ← fields.mapM fun (key, value) => do return (← Json.text? key, value)
    let known := fields.filter fun (field, _) => field ∈ fieldNames
    if (known.map (·.1)).eraseDups.length = known.length then setAll? known else none
  | _ => none

def readJson (text : String) : Except Failure Settings :=
  ((Json.Source.read? text).bind ofJson?).elim (.error .json) .ok

end Settings

end ServiceContainer

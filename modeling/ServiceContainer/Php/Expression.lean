import ServiceContainer.Definition
import ServiceContainer.Failure
import ServiceContainer.Text.Lowercase

/-!
Values as PHP expressions that are evaluated inside the generated container.
-/

namespace ServiceContainer.Php

/-- The id under which the container itself is a service. -/
def containerId : ServiceId := "service_container"

inductive Place where
  | code
  /-- Into the parameters of the base container, which reads `%%` as a percent sign. -/
  | parameters
  deriving DecidableEq, Repr

/-- A single-quoted literal, in which a backslash escapes itself and the quote. -/
def quote (s : String) : String :=
  "'" ++ String.ofList (s.toList.flatMap fun c => if c = '\\' ∨ c = '\'' then ['\\', c] else [c]) ++ "'"

def serviceCall (id : ServiceId) : String :=
  if id = containerId then "$this" else "$this->getService(" ++ quote id ++ ")"

def parameterCall (key : ParameterKey) : String :=
  "$this->getParameter(" ++ quote (Text.lowercase key.text) ++ ")"

/-- A scalar literal. The least integer has no literal of its own. -/
def scalar : Scalar → String
  | .null => "null"
  | .bool b => if b then "true" else "false"
  | .int n => if n = Int64.minValue then "PHP_INT_MIN" else toString n.toInt
  | .float x => FloatFormat.php.text x
  | .text s => quote s

def key : Key → String
  | .index n => toString n.toInt
  | .name s => quote s

/-- A string literal whose text comes out unchanged at the place it goes to. -/
def textAt (place : Place) (s : String) : String :=
  match place with
  | .code => quote s
  | .parameters => quote (doublePercent s)

def segment (place : Place) : Segment ParameterKey → String
  | .literal s => textAt place s
  | .parameter key => parameterCall key

def value (place : Place) : Value → Except Failure String
  | .scalar (.text s) => .ok (textAt place s)
  | .scalar s => .ok (scalar s)
  | .list items => (entries items).map fun texts => "array(" ++ String.intercalate ", " texts ++ ")"
  | .service id => .ok (serviceCall id)
  | .parameter key => .ok (parameterCall key)
  | .template segments => .ok (String.intercalate "." (segments.map (segment place)))
  | .object type => .error (.unserializable type)
where
  entries : List (Key × Value) → Except Failure (List String)
    | [] => .ok []
    | (k, item) :: items => do
      let text ← value place item
      let texts ← entries items
      return (key k ++ " => " ++ text) :: texts

def codeValue (v : Value) : Except Failure String := value .code v

def checkName (id : ServiceId) (role : NameRole) (valid : String → Bool) (name : String) :
    Except Failure Unit :=
  if valid name then .ok () else .error (.invalid (.invalidName id role name))

/-- Arguments of a call, index keys by position and name keys by name; `named` says that a named one came
before. -/
def argumentsFrom (id : ServiceId) (named : Bool) : Arguments → Except Failure (List String)
  | [] => .ok []
  | (.index n, v) :: arguments =>
    if named then .error (.invalid (.positionalAfterNamed id (.index n)))
    else do
      let text ← codeValue v
      let texts ← argumentsFrom id false arguments
      return text :: texts
  | (.name name, v) :: arguments => do
    checkName id .argument isIdentifier name
    let text ← codeValue v
    let texts ← argumentsFrom id true arguments
    return (name ++ ": " ++ text) :: texts

def arguments (id : ServiceId) (arguments : Arguments) : Except Failure String :=
  (argumentsFrom id false arguments).map (String.intercalate ", ")

end ServiceContainer.Php

import ServiceContainer.Value.Source

/-!
Everything that can stop a compilation, with the one place where each failure gets its wording.
-/

namespace ServiceContainer

inductive FileFailure where
  | notFound
  | notADirectory
  | isADirectory
  | notUtf8
  /-- A path with a NUL character names nothing. -/
  | nulInPath
  | other (reason : String)
  deriving DecidableEq, Repr

def FileFailure.message : FileFailure → String
  | .notFound => "No such file or directory (os error 2)"
  | .notADirectory => "Not a directory (os error 20)"
  | .isADirectory => "Is a directory (os error 21)"
  | .notUtf8 => "stream did not contain valid UTF-8"
  | .nulInPath => "file name contained an unexpected NUL byte"
  | .other reason => reason

inductive Missing where
  | definition
  | alias
  | parameter
  deriving DecidableEq, Repr

def Missing.text : Missing → String
  | .definition => "service definition"
  | .alias => "alias"
  | .parameter => "parameter"

/-- A name in a definition that generated code cannot hold. -/
inductive NameRole where
  | className
  | constructor
  | method
  | argument
  | configurator
  | configuratorClass
  | configuratorMethod
  deriving DecidableEq, Repr

def NameRole.text : NameRole → String
  | .className => "class"
  | .constructor => "constructor"
  | .method => "method"
  | .argument => "argument name"
  | .configurator => "configurator"
  | .configuratorClass => "configurator class"
  | .configuratorMethod => "configurator method"

inductive Defect where
  | unsupportedFile (path : String)
  | unsupportedMappingKey (key : String)
  | documentNotMap (kind : String)
  | unexpectedSection (key : Key)
  | parametersForbidden
  | sectionNotMap (section_ : String) (kind : String)
  | emptyServiceId
  | neitherMapNorAlias (id : ServiceId) (got : String)
  | unknownServiceKey (id : ServiceId) (key : Key)
  | fieldType (id : ServiceId) (field expected kind : String)
  | malformedConfigurator (id : ServiceId)
  | malformedCall (id : ServiceId)
  | notInterpolable (key : ParameterKey) (value : Value)
  | unusableServiceId (id : ServiceId)
  | accessorClash (first second : ServiceId) (accessor : String)
  | positionalAfterNamed (id : ServiceId) (key : Key)
  | invalidName (id : ServiceId) (role : NameRole) (name : String)
  | invalidClassName (name : String)
  | invalidBaseClass (name : String)

def quoted (s : String) : String := "\"" ++ s ++ "\""

def Defect.message : Defect → String
  | .unsupportedFile path => "unsupported config file " ++ path ++ " (expected .json, .yml or .yaml)"
  | .unsupportedMappingKey key => "unsupported mapping key: " ++ key
  | .documentNotMap kind => "config must be a map, got " ++ kind
  | .unexpectedSection key =>
    "unexpected top-level key " ++ quoted key.text ++ " (expected \"parameters\" or \"services\")"
  | .parametersForbidden =>
    "a \"parameters\" section is not allowed here; set parameters through the host configuration"
  | .sectionNotMap name kind => quoted name ++ " must be a map, got " ++ kind
  | .emptyServiceId => "service ids must not be empty"
  | .neitherMapNorAlias id got =>
    "service " ++ quoted id ++ " must be a map or an \"@id\" alias, got " ++ got
  | .unknownServiceKey id key => "service " ++ quoted id ++ " has unknown key " ++ quoted key.text
  | .fieldType id field expected kind =>
    "service " ++ quoted id ++ ": " ++ quoted field ++ " must be " ++ expected ++ ", got " ++ kind
  | .malformedConfigurator id =>
    "service " ++ quoted id ++ ": configurator must be a callable name or a [target, method] pair"
  | .malformedCall id => "service " ++ quoted id ++ ": each call must be a [method, arguments] pair"
  | .notInterpolable key value =>
    "parameter " ++ quoted key.text ++ " cannot be interpolated into a string (value: " ++ value.source ++ ")"
  | .unusableServiceId id => "service id " ++ quoted id ++ " cannot be turned into an accessor name"
  | .accessorClash first second accessor =>
    "service ids " ++ quoted first ++ " and " ++ quoted second ++ " both map to accessor " ++ accessor
  | .positionalAfterNamed id key =>
    "service " ++ quoted id ++ ": positional argument " ++ key.text ++ " follows a named argument"
  | .invalidName id role name => "service " ++ quoted id ++ ": invalid " ++ role.text ++ " " ++ quoted name
  | .invalidClassName name => "invalid class name " ++ quoted name
  | .invalidBaseClass name => "invalid base class " ++ quoted name

inductive Failure where
  | file (path : String) (reason : FileFailure)
  | json
  | yaml
  | invalid (defect : Defect)
  | missingClass (id : ServiceId)
  | notFound (kind : Missing) (id : String)
  /-- A value with no form in source text, by what it is called. -/
  | unserializable (type : String)
  /-- The ids visited, the last of which repeats an earlier one. -/
  | cyclicAlias (chain : List ServiceId)
  /-- The ids on the way round, the last of which repeats an earlier one. -/
  | circularReference (path : List String)

def Failure.message : Failure → String
  | .file path reason => "I/O error at " ++ path ++ ": " ++ reason.message
  | .json => "malformed JSON"
  | .yaml => "malformed YAML"
  | .invalid defect => "invalid configuration: " ++ defect.message
  | .missingClass id => "service " ++ quoted id ++ " is missing required field \"class\""
  | .notFound kind id => kind.text ++ " not found: " ++ id
  | .unserializable type =>
    "unable to dump value: " ++ type ++ " is a runtime object or resource and has no source representation"
  | .cyclicAlias chain => "cyclic alias: " ++ String.intercalate " -> " chain
  | .circularReference path => "circular reference: " ++ String.intercalate " -> " path

end ServiceContainer

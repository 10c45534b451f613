import ServiceContainer.Text.Alphanumeric
import ServiceContainer.Value

/-!
Service definitions: how one service is built, and what is done to it before it is handed out.
-/

namespace ServiceContainer

/-! ### Names of methods and classes, which generated code holds as they are -/

/-- A letter or underscore, then letters, digits and underscores. -/
def isLabel : List Char → Bool
  | [] => false
  | c :: cs => (c = '_' || Text.isAlphabetic c) && cs.all fun c => c = '_' || Text.isAlphanumeric c

def isIdentifier (name : String) : Bool := isLabel name.toList

/-- The name of a class or function: labels between backslashes, perhaps with one more in front. -/
def isQualifiedName (name : String) : Bool :=
  let cs := name.toList
  (List.splitOn '\\' (if cs.head? = some '\\' then cs.tail else cs)).all isLabel

/-! ### Definitions -/

/-- Positional and named arguments of a call. -/
abbrev Arguments := List (Key × Value)

/-- The indices in use, in the order of the arguments. -/
def Arguments.indices (arguments : Arguments) : List Int64 := arguments.filterMap fun argument => argument.1.index?

structure MethodCall where
  method : String
  arguments : Arguments

def MethodCall.positional (method : String) (arguments : List Value) : MethodCall :=
  ⟨method, Key.number arguments⟩

/-- What is called with the finished instance. -/
inductive Configurator where
  | function (name : String)
  | serviceMethod (service : ServiceId) (method : String)
  | classMethod (name : String) (method : String)
  /-- A static method of a class that is not named literally. -/
  | staticMethod (target : Value) (method : String)

def Configurator.values : Configurator → List Value
  | .staticMethod target _ => [target]
  | .function _ | .serviceMethod _ _ | .classMethod _ _ => []

structure Definition where
  className : Value
  shared : Bool := true
  /-- A static method of the class that builds the instance in place of `new`. -/
  factory : Option String := none
  file : Option Value := none
  arguments : Arguments := []
  configurator : Option Configurator := none
  calls : List MethodCall := []

inductive Construction where
  | new (className : String)
  | newDynamic (className : Value)
  | factory (className : Value) (method : String)

namespace Definition

/-- All values of a definition, in the order in which they are resolved. -/
def values (d : Definition) : List Value :=
  d.className :: (d.file.toList ++ d.arguments.map (·.2) ++ d.calls.flatMap (fun call => call.arguments.map (·.2)) ++
    d.configurator.toList.flatMap Configurator.values)

/-- The index behind `n`. The last one of 64 bits has none. -/
def successor? (n : Int64) : Option Int64 := if n = Int64.maxValue then none else some (n + 1)

/-- The index behind the greatest one in use. Every index is counted up on the way, so all must have one behind. -/
def nextIndex? (arguments : Arguments) : Option Int64 :=
  (arguments.indices.mapM successor?).map fun successors => successors.max?.getD 0

/-- Appends an argument without a name. There is no result when counting up its index overflows. -/
def addArgument? (d : Definition) (value : Value) : Option Definition :=
  (nextIndex? d.arguments).map fun next => { d with arguments := d.arguments ++ [(.index next, value)] }

def addNamedArgument (d : Definition) (name : String) (value : Value) : Definition :=
  { d with arguments := d.arguments ++ [(.name name, value)] }

def addCall (d : Definition) (call : MethodCall) : Definition :=
  { d with calls := d.calls ++ [call] }

def construction (d : Definition) : Construction :=
  match d.factory, d.className with
  | some method, className => .factory className method
  | none, .scalar (.text name) => .new name
  | none, className => .newDynamic className

/-- The services needed before the constructor can run. Method calls and the configurator come after it. -/
def constructorServices (d : Definition) : List ServiceId :=
  d.className.services ++ d.file.toList.flatMap Value.services ++
    d.arguments.flatMap fun (_, value) => value.services

end Definition

end ServiceContainer

import ServiceContainer.Container
import ServiceContainer.Expression

/-!
Entries of the `services` section.
-/

namespace ServiceContainer

def serviceKeys : List String :=
  ["class", "shared", "constructor", "file", "arguments", "configurator", "calls"]

def checkServiceKeys (id : ServiceId) (entries : List (Key × Tree)) : Except Failure Unit :=
  entries.forM fun (key, _) =>
    if key.name?.any (· ∈ serviceKeys) then .ok () else .error (.invalid (.unknownServiceKey id key))

namespace Definition

def wrongType (id : ServiceId) (field expected : String) (tree : Tree) : Failure :=
  .invalid (.fieldType id field expected tree.kind)

def readText (id : ServiceId) (field : String) (tree : Tree) : Except Failure String :=
  tree.text?.elim (.error (wrongType id field "a string" tree)) .ok

def readShared (id : ServiceId) : Tree → Except Failure Bool
  | .scalar (.bool b) => .ok b
  | tree => .error (wrongType id "shared" "a boolean" tree)

/-- Arguments are a list or a map; nothing at all stands for none. -/
def readArguments (id : ServiceId) (field : String) : Tree → Except Failure Arguments
  | .map entries => .ok (entries.map fun (key, tree) => (key, .ofTree tree))
  | .scalar .null => .ok []
  | tree => .error (wrongType id field "a list or map" tree)

/-- The callable made of a target and a method: on a service, on a class named literally, or on a class that
is only known when the container runs. -/
def pairConfigurator (target : Value) (method : String) : Configurator :=
  match target with
  | .service service => .serviceMethod service method
  | .scalar (.text name) => if isQualifiedName name then .classMethod name method else .staticMethod target method
  | target => .staticMethod target method

def readConfigurator (id : ServiceId) : Tree → Except Failure Configurator
  | .scalar (.text name) => .ok (.function name)
  | .map [(.index 0, target), (.index 1, method)] =>
    (readText id "configurator" method).map (pairConfigurator (.ofTree target))
  | .map _ => .error (.invalid (.malformedConfigurator id))
  | tree => .error (wrongType id "configurator" "a string or a pair" tree)

def readCall (id : ServiceId) : Tree → Except Failure MethodCall
  | .map [(.index 0, method)] => do return ⟨← readText id "calls" method, []⟩
  | .map [(.index 0, method), (.index 1, arguments)] => do
    let method ← readText id "calls" method
    return ⟨method, ← readArguments id "calls" arguments⟩
  | _ => .error (.invalid (.malformedCall id))

def readCalls (id : ServiceId) : Tree → Except Failure (List MethodCall)
  | .map calls => calls.mapM fun (_, call) => readCall id call
  | .scalar .null => .ok []
  | tree => .error (wrongType id "calls" "a list" tree)

/-- Reads a field if it is there; of a field that is given twice, the first counts. -/
def readField {α : Type} (tree : Tree) (field : String) (default : α) (read : Tree → Except Failure α) :
    Except Failure α :=
  (tree.find? field).elim (.ok default) read

def ofTree (id : ServiceId) (tree : Tree) : Except Failure Definition := do
  let className ←
    match tree.find? "class" with
    | none | some (.scalar .null) => .error (.missingClass id)
    | some className => .ok (Value.ofTree className)
  let shared ← readField tree "shared" true (readShared id)
  let factory ← readField tree "constructor" none fun t => (readText id "constructor" t).map some
  let file := (tree.find? "file").map Value.ofTree
  let arguments ← readField tree "arguments" [] (readArguments id "arguments")
  let configurator ← readField tree "configurator" none fun t => (readConfigurator id t).map some
  let calls ← readField tree "calls" [] (readCalls id)
  return { className, shared, factory, file, arguments, configurator, calls }

end Definition

/-- A service entry is a string `@id` for an alias, or a map that defines a service. -/
def Entry.ofTree (id : ServiceId) : Tree → Except Failure Entry
  | .scalar (.text s) =>
    match s.toList with
    | '@' :: c :: cs => .ok (.alias (String.ofList (c :: cs)))
    | _ => .error (.invalid (.neitherMapNorAlias id (quoted s)))
  | .map entries => do
    checkServiceKeys id entries
    return .definition (← Definition.ofTree id (.map entries))
  | tree => .error (.invalid (.neitherMapNorAlias id tree.kind))

end ServiceContainer

import ServiceContainer.Json.Representation
import ServiceContainer.ReferenceGraph.BuildOrder
import ServiceContainer.Resolution

/-!
Reports on what a configuration declares, as text and as JSON.
-/

namespace ServiceContainer

structure Report where
  services : List (ServiceId × Definition)
  aliases : List (ServiceId × ServiceId)
  parameters : List (ParameterKey × Value)
  /-- Absent when constructors need each other. -/
  buildOrder : Option (List ServiceId)

def Arguments.source (arguments : Arguments) : String :=
  String.intercalate ", " (arguments.map fun
    | (.index _, value) => value.source
    | (.name name, value) => name ++ ": " ++ value.source)

def Configurator.source : Configurator → String
  | .function name => name
  | .serviceMethod service method => "@" ++ service ++ "->" ++ method
  | .classMethod name method => name ++ "::" ++ method
  | .staticMethod target method => target.source ++ "::" ++ method

namespace Report

/-- The report on a container; with `resolved`, parameters are replaced by their values. -/
def ofContainer (resolved : Bool) (c : Container) : Except Failure Report := do
  let parameters ← if resolved then c.resolveAll else .ok c.parameters.toList
  let services ←
    if resolved then c.definitions.mapM fun (id, d) => do return (id, ← c.resolveDefinition d)
    else .ok c.definitions
  let buildOrder := (ReferenceGraph.ofContainer c).buildOrder.toOption
  return { services, aliases := c.aliases, parameters, buildOrder }

def heading (title : String) (count : Nat) : String := title ++ " (" ++ toString count ++ ")\n"

def serviceText : ServiceId × Definition → String
  | (id, d) =>
    "  + " ++ id ++ ": " ++ d.className.source ++ " [" ++ (if d.shared then "shared" else "prototype") ++ "]\n" ++
      (d.factory.elim "" fun factory => "      constructor: " ++ factory ++ "\n") ++
      (d.file.elim "" fun file => "      file: " ++ file.source ++ "\n") ++
      (if d.arguments.isEmpty then "" else "      arguments: " ++ Arguments.source d.arguments ++ "\n") ++
      String.join (d.calls.map fun call =>
        "      call: " ++ call.method ++ "(" ++ Arguments.source call.arguments ++ ")\n") ++
      (d.configurator.elim "" fun configurator => "      configurator: " ++ configurator.source ++ "\n")

/-- A heading and a line for each item, behind an empty line; nothing if there are no items. -/
def sectionText {α : Type} (title : String) (items : List α) (line : α → String) : String :=
  if items.isEmpty then "" else "\n" ++ heading title items.length ++ String.join (items.map line)

def buildOrderText : Option (List ServiceId) → String
  | none => "\nBuild order: unavailable (circular references)\n"
  | some [] => ""
  | some ids => "\nBuild order: " ++ String.intercalate ", " ids ++ "\n"

def text (r : Report) : String :=
  heading "Services" r.services.length ++ String.join (r.services.map serviceText) ++
    sectionText "Aliases" r.aliases (fun (id, target) => "  " ++ id ++ " -> " ++ target ++ "\n") ++
    sectionText "Parameters" r.parameters (fun (key, value) => "  " ++ key.text ++ " = " ++ value.source ++ "\n") ++
    buildOrderText r.buildOrder

def toJson (r : Report) : Json :=
  .object
    [("services", .object (r.services.map fun (id, d) => (id, d.toJson))),
      ("aliases", .object (r.aliases.map fun (id, target) => (id, .text target))),
      ("parameters", .object (r.parameters.map fun (key, value) => (key.text, value.toJson))),
      ("build_order", r.buildOrder.elim .null fun ids => .array (ids.map .text))]

end Report

end ServiceContainer

import ServiceContainer.Definition
import ServiceContainer.Json

/-!
Values and definitions as JSON. Scalars and keys stand for themselves; everything else names its kind.
-/

namespace ServiceContainer

def Key.toJson : Key → Json
  | .index n => .int n
  | .name s => .text s

def Scalar.toJson : Scalar → Json
  | .null => .null
  | .bool b => .bool b
  | .int n => .int n
  | .float x => .float x
  | .text s => .text s

def Segment.toJson : Segment ParameterKey → Json
  | .literal s => .object [("literal", .text s)]
  | .parameter key => .object [("parameter", .text key.text)]

def Json.ofKind (kind : String) (value : Json) : Json := .object [("kind", .text kind), ("value", value)]

def Value.toJson : Value → Json
  | .scalar s => .ofKind "scalar" s.toJson
  | .list items => .ofKind "list_of" (.array (itemsToJson items))
  | .service id => .ofKind "service_reference" (.text id)
  | .parameter key => .ofKind "parameter_reference" (.text key.text)
  | .template segments => .ofKind "parameter_string_expression" (.array (segments.map Segment.toJson))
  | .object type => .ofKind "opaque" (.text type)
where
  itemsToJson : List (Key × Value) → List Json
    | [] => []
    | (key, item) :: items => .array [key.toJson, item.toJson] :: itemsToJson items

def Arguments.toJson (arguments : Arguments) : Json :=
  .array (arguments.map fun (key, value) => .array [key.toJson, value.toJson])

def MethodCall.toJson (call : MethodCall) : Json :=
  .object [("method", .text call.method), ("arguments", Arguments.toJson call.arguments)]

def Configurator.toJson : Configurator → Json
  | .function name => .object [("kind", .text "function"), ("name", .text name)]
  | .serviceMethod service method =>
    .object [("kind", .text "service_method"), ("service", .text service), ("method", .text method)]
  | .classMethod name method =>
    .object [("kind", .text "class_method"), ("class", .text name), ("method", .text method)]
  | .staticMethod target method =>
    .object [("kind", .text "static_method"), ("target", target.toJson), ("method", .text method)]

def Definition.toJson (d : Definition) : Json :=
  .object
    [("class", d.className.toJson),
      ("shared", .bool d.shared),
      ("constructor", d.factory.elim .null .text),
      ("file", d.file.elim .null Value.toJson),
      ("arguments", Arguments.toJson d.arguments),
      ("configurator", d.configurator.elim .null Configurator.toJson),
      ("method_calls", .array (d.calls.map MethodCall.toJson))]

end ServiceContainer

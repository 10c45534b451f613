import ServiceContainer.Value

/-!
Values in the notation of the configuration: `@id`, `%name%`, and lists in brackets. Text is escaped so that
reading it gives the same text: `%` and a leading `@` are doubled.
-/

namespace ServiceContainer

def doublePercent (s : String) : String :=
  String.ofList (s.toList.flatMap fun c => if c = '%' then ['%', '%'] else [c])

def Scalar.source : Scalar → String
  | .null => "null"
  | .bool b => if b then "true" else "false"
  | .int n => toString n.toInt
  | .float x => FloatFormat.report.text x
  | .text s => (if s.toList.head? = some '@' then "@" else "") ++ doublePercent s

def Segment.source : Segment ParameterKey → String
  | .literal s => doublePercent s
  | .parameter key => "%" ++ key.text ++ "%"

def Value.source : Value → String
  | .scalar s => s.source
  | .list items => "[" ++ String.intercalate ", " (itemSources items) ++ "]"
  | .service id => "@" ++ id
  | .parameter key => "%" ++ key.text ++ "%"
  | .template segments => String.join (segments.map Segment.source)
  | .object type => "<" ++ type ++ ">"
where
  itemSources : List (Key × Value) → List String
    | [] => []
    | (key, item) :: items => (key.text ++ ": " ++ item.source) :: itemSources items

end ServiceContainer

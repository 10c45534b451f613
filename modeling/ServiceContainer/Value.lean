import ServiceContainer.Key
import ServiceContainer.Number.FloatText
import ServiceContainer.ParameterKey

/-!
Configured values, as every stage behind the document reader sees them, and the normal form of strings
that mix text with parameters.
-/

namespace ServiceContainer

abbrev ServiceId := String

inductive Scalar where
  | null
  | bool (b : Bool)
  | int (n : Int64)
  | float (x : Double)
  | text (s : String)
  deriving DecidableEq, Repr

def Scalar.interpolated : Scalar → String
  | .null => ""
  | .bool b => if b then "1" else ""
  | .int n => toString n.toInt
  | .float x => FloatFormat.interpolated.text x
  | .text s => s

/-- A piece of a string: text, or the name of a parameter whose value stands in its place. -/
inductive Segment (α : Type) where
  | literal (text : String)
  | parameter (name : α)
  deriving DecidableEq, Repr

namespace Segment

variable {α β : Type}

def map (f : α → β) : Segment α → Segment β
  | .literal text => .literal text
  | .parameter name => .parameter (f name)

/-- Puts a segment in front of merged ones; literal text runs together, and empty text disappears. -/
def cons : Segment α → List (Segment α) → List (Segment α)
  | .literal text, rest =>
    if text = "" then rest
    else
      match rest with
      | .literal next :: rest => .literal (text ++ next) :: rest
      | _ => .literal text :: rest
  | .parameter name, rest => .parameter name :: rest

def merge (segments : List (Segment α)) : List (Segment α) := segments.foldr cons []

end Segment

inductive Value where
  | scalar (s : Scalar)
  | list (items : List (Key × Value))
  | service (id : ServiceId)
  | parameter (key : ParameterKey)
  /-- A string made of segments; built by `Value.ofSegments`, it has a parameter and another segment. -/
  | template (segments : List (Segment ParameterKey))
  /-- A runtime object or resource, known only by what it is called. -/
  | object (type : String)

namespace Value

def null : Value := .scalar .null

def text (s : String) : Value := .scalar (.text s)

/-- The value of a string made of segments. Without parameters it is plain text, and a lone parameter
stands for that parameter's value, whatever its type. -/
def ofSegments (segments : List (Segment ParameterKey)) : Value :=
  match Segment.merge segments with
  | [] => .text ""
  | [.literal s] => .text s
  | [.parameter key] => .parameter key
  | merged => .template merged

def text? : Value → Option String
  | .scalar (.text s) => some s
  | _ => none

def services : Value → List ServiceId
  | .service id => [id]
  | .list items => ofItems items
  | .scalar _ | .parameter _ | .template _ | .object _ => []
where
  ofItems : List (Key × Value) → List ServiceId
    | [] => []
    | (_, item) :: items => item.services ++ ofItems items

end Value

end ServiceContainer

import ServiceContainer.Json.Source
import ServiceContainer.Number.Whole

/-!
JSON values by their meaning: numbers are in range, and strings are proper text.
-/

namespace ServiceContainer.Json

inductive Node where
  | null
  | bool (b : Bool)
  | int (n : Whole)
  | float (x : Double)
  | text (s : String)
  | array (items : List Node)
  | object (fields : List (String × Node))

/-- Whole numbers of up to 64 bits are integers and all others doubles; so is the negative zero. -/
def Numeral.node? (n : Numeral) : Option Node :=
  let magnitude := digitsValue n.whole
  let isWhole := n.fraction = [] ∧ n.exponent = none ∧ ¬ (n.negative ∧ magnitude = 0)
  let whole? := if isWhole then Whole.ofInt? (if n.negative then -magnitude else magnitude) else none
  whole?.elim (n.double?.map .float) fun whole => some (.int whole)

/-- Gives `key` a value: in its place if it is there already, otherwise at the end. -/
def putField {α : Type} (fields : List (String × α)) (key : String) (value : α) : List (String × α) :=
  if fields.any (·.1 = key) then fields.map fun (k, v) => (k, if k = key then value else v)
  else fields ++ [(key, value)]

/-- The meaning of a value with at most `depth` arrays and objects inside each other. All its numbers must
be in range and all its strings proper text. Of fields with one name the first gives the place and the last
the value. -/
def Source.toNode? (depth : Nat) : Source → Option Node
  | .null => some .null
  | .bool b => some (.bool b)
  | .number n => n.node?
  | .text units => (text? units).map .text
  | .array items =>
    match depth with
    | 0 => none
    | depth + 1 => (ofItems depth items).map .array
  | .object fields =>
    match depth with
    | 0 => none
    | depth + 1 => (ofFields depth [] fields).map .object
where
  ofItems (depth : Nat) : List Source → Option (List Node)
    | [] => some []
    | item :: items => do
      let node ← toNode? depth item
      let nodes ← ofItems depth items
      return node :: nodes
  ofFields (depth : Nat) (done : List (String × Node)) :
      List (List CharUnit × Source) → Option (List (String × Node))
    | [] => some done
    | (key, value) :: fields => do
      let key ← text? key
      let node ← toNode? depth value
      ofFields depth (putField done key node) fields

def maxDepth : Nat := 127

def Node.read? (text : String) : Option Node := (Source.read? text).bind (Source.toNode? maxDepth)

end ServiceContainer.Json

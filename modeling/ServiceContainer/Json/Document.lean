import ServiceContainer.Failure
import ServiceContainer.Json.Node
import ServiceContainer.Tree

/-!
JSON documents as trees.
-/

namespace ServiceContainer

/-- Integers beyond 64 bits with a sign become doubles. -/
def Scalar.ofJson (n : Whole) : Scalar :=
  match n.int64?, n.uint64? with
  | some i, _ => .int i
  | none, some u => .float (.ofNat u.toNat)
  | none, none => .float n.toDouble

def Tree.ofJson : Json.Node → Tree
  | .null => .scalar .null
  | .bool b => .scalar (.bool b)
  | .int n => .scalar (.ofJson n)
  | .float x => .scalar (.float x)
  | .text s => .scalar (.text s)
  | .array items => .sequence (ofItems items)
  | .object fields => .map (ofFields fields)
where
  ofItems : List Json.Node → List Tree
    | [] => []
    | item :: items => ofJson item :: ofItems items
  ofFields : List (String × Json.Node) → List (Key × Tree)
    | [] => []
    | (name, value) :: fields => (.ofName name, ofJson value) :: ofFields fields

def Tree.readJson (text : String) : Except Failure Tree :=
  (Json.Node.read? text).elim (.error .json) fun node => .ok (.ofJson node)

end ServiceContainer

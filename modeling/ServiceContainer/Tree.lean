import ServiceContainer.Value

/-!
Documents as trees, whatever notation they were written in. Sequences are maps with index keys.
-/

namespace ServiceContainer

inductive Tree where
  | scalar (s : Scalar)
  | map (entries : List (Key × Tree))
  /-- A tagged node that names a runtime object. -/
  | object (tag : String)

namespace Tree

def sequence (items : List Tree) : Tree := .map (Key.number items)

def text? : Tree → Option String
  | .scalar (.text s) => some s
  | _ => none

def entries? : Tree → Option (List (Key × Tree))
  | .map entries => some entries
  | _ => none

def find? (tree : Tree) (name : String) : Option Tree :=
  match tree with
  | .map entries => entries.lookup (.name name)
  | _ => none

def kind : Tree → String
  | .scalar .null => "null"
  | .scalar (.bool _) => "boolean"
  | .scalar (.int _) => "integer"
  | .scalar (.float _) => "float"
  | .scalar (.text _) => "string"
  | .map _ => "map"
  | .object _ => "object"

end Tree

end ServiceContainer

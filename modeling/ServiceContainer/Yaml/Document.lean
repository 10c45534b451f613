import ServiceContainer.Failure
import ServiceContainer.Text.Unprintable
import ServiceContainer.Tree
import ServiceContainer.Yaml.Node

/-!
YAML documents as trees. Tagged nodes name runtime objects; what they contain does not matter.
-/

namespace ServiceContainer

namespace Yaml

/-- A character between double quotes; those that cannot be seen are given by number. -/
def shownChar (c : Char) : List Char :=
  match c with
  | '\x00' => ['\\', '0']
  | '\t' => ['\\', 't']
  | '\r' => ['\\', 'r']
  | '\n' => ['\\', 'n']
  | '"' => ['\\', '"']
  | '\\' => ['\\', '\\']
  | c => if Text.isUnprintable c then "\\u\x7b".toList ++ Nat.toDigits 16 c.toNat ++ ['\x7d'] else [c]

def shownText (s : String) : String := "\"" ++ String.ofList (s.toList.flatMap shownChar) ++ "\""

def Node.shownBare? : Node → Option String
  | .bool b => some (if b then "true" else "false")
  | .int n => some (toString n.value)
  | .float x => some (FloatFormat.yaml.text x)
  | .text s => some (shownText s)
  | _ => none

/-- A node with its type, as messages show it. Simple keys of a mapping are shown bare. -/
def Node.shown : Node → String
  | .null => "Null"
  | .bool b => "Bool(" ++ (if b then "true" else "false") ++ ")"
  | .int n => "Number(" ++ toString n.value ++ ")"
  | .float x => "Number(" ++ FloatFormat.yaml.text x ++ ")"
  | .text s => "String(" ++ shownText s ++ ")"
  | .sequence items => "Sequence [" ++ String.intercalate ", " (shownItems items) ++ "]"
  | .mapping entries => "Mapping \x7b" ++ String.intercalate ", " (shownEntries entries) ++ "\x7d"
  | .tagged tag content => "TaggedValue \x7b tag: " ++ tag ++ ", value: " ++ content.shown ++ " \x7d"
where
  shownItems : List Node → List String
    | [] => []
    | item :: items => item.shown :: shownItems items
  shownEntries : List (Node × Node) → List String
    | [] => []
    | (key, value) :: entries => (key.shownBare?.getD key.shown ++ ": " ++ value.shown) :: shownEntries entries

end Yaml

/-- Strings, booleans and integers of 64 bits with a sign can be keys. -/
def Key.ofYaml (node : Yaml.Node) : Except Failure Key :=
  let unsupported := .error (.invalid (.unsupportedMappingKey node.shown))
  match node with
  | .text s => .ok (.ofName s)
  | .bool b => .ok (.index (if b then 1 else 0))
  | .int n => n.int64?.elim unsupported fun i => .ok (.index i)
  | _ => unsupported

/-- Integers beyond 64 bits with a sign become doubles. -/
def Scalar.ofYaml (n : Whole) : Scalar := n.int64?.elim (.float n.toDouble) .int

def Tree.ofYaml : Yaml.Node → Except Failure Tree
  | .null => .ok (.scalar .null)
  | .bool b => .ok (.scalar (.bool b))
  | .int n => .ok (.scalar (.ofYaml n))
  | .float x => .ok (.scalar (.float x))
  | .text s => .ok (.scalar (.text s))
  | .sequence items => (ofItems items).map .sequence
  | .mapping entries => (ofEntries entries).map .map
  | .tagged tag _ => .ok (.object tag)
where
  ofItems : List Yaml.Node → Except Failure (List Tree)
    | [] => .ok []
    | item :: items => do
      let tree ← ofYaml item
      let trees ← ofItems items
      return tree :: trees
  ofEntries : List (Yaml.Node × Yaml.Node) → Except Failure (List (Key × Tree))
    | [] => .ok []
    | (key, value) :: entries => do
      let key ← Key.ofYaml key
      let tree ← ofYaml value
      let trees ← ofEntries entries
      return (key, tree) :: trees

def Tree.readYaml (text : String) : Except Failure Tree :=
  (Yaml.Node.read? text).elim (.error .yaml) ofYaml

end ServiceContainer

/-!
Keys of list entries. An index key marks a positional entry and a name key a named one.
-/

namespace ServiceContainer

inductive Key where
  | index (n : Int64)
  | name (text : String)
  deriving DecidableEq, Repr

namespace Key

def text : Key → String
  | .index n => toString n.toInt
  | .name text => text

/-- A name that is just what some 64-bit integer prints as becomes that integer. -/
def ofName (name : String) : Key :=
  match name.toInt? with
  | some n =>
    if Int64.minValue.toInt ≤ n ∧ n ≤ Int64.maxValue.toInt ∧ toString n = name then .index (Int64.ofInt n)
    else .name name
  | none => .name name

def name? : Key → Option String
  | .index _ => none
  | .name text => some text

def index? : Key → Option Int64
  | .index n => some n
  | .name _ => none

/-- Gives the items of a sequence the index keys from zero on. -/
def number {α : Type} (items : List α) : List (Key × α) :=
  items.zipIdx.map fun (item, i) => (.index (Int64.ofNat i), item)

end Key

end ServiceContainer

import ServiceContainer.Number.Whole
import ServiceContainer.Yaml.Lexer
import ServiceContainer.Yaml.Scalar
import ServiceContainer.Yaml.Source

/-!
YAML nodes by their meaning: tags are applied, scalars have types, and aliases are replaced by what they
repeat.
-/

namespace ServiceContainer.Yaml

inductive Node where
  | null
  | bool (b : Bool)
  | int (n : Whole)
  | float (x : Double)
  | text (s : String)
  | sequence (items : List Node)
  | mapping (entries : List (Node × Node))
  | tagged (tag : String) (content : Node)

namespace Node

/-- Equality of keys: mappings are equal whatever their order, and floats are compared as numbers. -/
def same : Node → Node → Bool
  | .null, .null => true
  | .bool a, .bool b => a == b
  | .int m, .int n => m == n
  | .float x, .float y => x.same y
  | .text s, .text t => s == t
  | .sequence as, .sequence bs => sameItems as bs
  | .mapping as, .mapping bs => as.length == bs.length && sameEntries as bs
  | .tagged s a, .tagged t b => s == t && a.same b
  | _, _ => false
where
  sameItems : List Node → List Node → Bool
    | [], [] => true
    | a :: as, b :: bs => a.same b && sameItems as bs
    | _, _ => false
  sameEntries : List (Node × Node) → List (Node × Node) → Bool
    | [], _ => true
    | (key, value) :: as, bs => bs.any (fun (k, v) => key.same k && value.same v) && sameEntries as bs

/-- An integer within 64 bits is a number; what needs up to 128 bits is refused. -/
def ofInteger? (n : Int) : Option Node := (Whole.ofInt? n).map .int

def isWide (n : Int) : Bool := -Nat.pow 2 127 ≤ n && n < Nat.pow 2 128

def ofPlain? (s : String) : Option Node :=
  let cs := s.toList
  let other : Option Node :=
    if hasNeedlessZero cs then some (.text s) else some ((double? cs).elim (.text s) .float)
  if s = "" || isNull s then some .null
  else
    match bool? s, integer? cs with
    | some b, _ => some (.bool b)
    | none, some n => if isWide n then ofInteger? n else other
    | none, none => other

def ofScalar? (plain : Bool) (s : String) : Option Node := if plain then ofPlain? s else some (.text s)

/-- The value that a global tag makes of a text; tags that nobody knows make it a string. -/
def ofGlobalTag? (tag : Tag) (s : String) : Option Node :=
  match tag.text? with
  | some "tag:yaml.org,2002:null" => if isNull s then some .null else none
  | some "tag:yaml.org,2002:bool" => (bool? s).map .bool
  | some "tag:yaml.org,2002:int" => (integer? s.toList).bind ofInteger?
  | some "tag:yaml.org,2002:float" => (double? s.toList).map .float
  | _ => some (.text s)

def withTag (tag : Option Tag) (node : Node) : Node := (tag.bind Tag.name?).elim node (.tagged · node)

end Node

namespace Source

/-- How many steps it takes to write a node: one for each leaf, two for each collection. -/
def size {α : Type} : Source α → Nat
  | .alias _ | .scalar _ _ _ => 1
  | .sequence _ items => 2 + sizeItems items
  | .mapping _ entries => 2 + sizeEntries entries
where
  sizeItems : List (Source α) → Nat
    | [] => 0
    | item :: items => item.size + sizeItems items
  sizeEntries : List (Source α × Source α) → Nat
    | [] => 0
    | (key, value) :: entries => key.size + value.size + sizeEntries entries

/-- Numbers of anchors by their names. -/
abbrev Anchors := List (String × Nat)

/-- The nodes that numbers stand for, the latest first. -/
abbrev Places := List (Nat × Source Nat)

/-- The number of an anchor is how many different names came before it. -/
def Anchors.put (anchors : Anchors) (name : String) : Anchors :=
  if anchors.any (·.1 = name) then anchors.map fun (n, i) => (n, if n = name then anchors.length else i)
  else anchors ++ [(name, anchors.length)]

def Anchors.start (anchors : Anchors) (p : Properties) : Anchors := p.anchor.elim anchors anchors.put

/-- The place of a node with an anchor. The places in it are later than its own. -/
def Anchors.place (anchors : Anchors) (p : Properties) (node : Source Nat) (inside : Places) : Places :=
  if p.anchor.isSome then inside ++ [(anchors.length, node)] else inside

/-- Turns the names that aliases refer to into numbers. An alias must come after its anchor. -/
def link? (anchors : Anchors) : Source String → Option (Source Nat × Anchors × Places)
  | .alias name => (anchors.lookup name).map fun i => (.alias i, anchors, [])
  | .scalar p plain s =>
    let node : Source Nat := .scalar p plain s
    some (node, anchors.start p, anchors.place p node [])
  | .sequence p items => do
    let (items, after, places) ← linkItems (anchors.start p) items
    return (.sequence p items, after, anchors.place p (.sequence p items) places)
  | .mapping p entries => do
    let (entries, after, places) ← linkEntries (anchors.start p) entries
    return (.mapping p entries, after, anchors.place p (.mapping p entries) places)
where
  linkItems (anchors : Anchors) : List (Source String) → Option (List (Source Nat) × Anchors × Places)
    | [] => some ([], anchors, [])
    | item :: items => do
      let (item, anchors, places) ← link? anchors item
      let (items, anchors, later) ← linkItems anchors items
      return (item :: items, anchors, later ++ places)
  linkEntries (anchors : Anchors) :
      List (Source String × Source String) → Option (List (Source Nat × Source Nat) × Anchors × Places)
    | [] => some ([], anchors, [])
    | (key, value) :: entries => do
      let (key, anchors, keyPlaces) ← link? anchors key
      let (value, anchors, valuePlaces) ← link? anchors value
      let (entries, anchors, later) ← linkEntries anchors entries
      return ((key, value) :: entries, anchors, later ++ (valuePlaces ++ keyPlaces))

/-- The node that stands where `node` is written, and how many more aliases may be followed. -/
def follow? (places : Places) (aliases : Nat) : Source Nat → Option (Source Nat × Nat)
  | .alias i =>
    match aliases with
    | 0 => none
    | aliases + 1 => (places.lookup i).map (·, aliases)
  | node => some (node, aliases)

/-- Adds an entry to a mapping; the entries so far are in reverse. -/
def addPair? (read : Source Nat → Nat → Option (Node × Nat)) :
    List (Node × Node) × Nat → Source Nat × Source Nat → Option (List (Node × Node) × Nat)
  | (done, aliases), (key, value) => do
    let (key, aliases) ← read key aliases
    if done.any fun (k, _) => key.same k then none
    else
      let (value, aliases) ← read value aliases
      return ((key, value) :: done, aliases)

def addItem? (read : Source Nat → Nat → Option (Node × Nat)) :
    List Node × Nat → Source Nat → Option (List Node × Nat)
  | (done, aliases), item => do
    let (item, aliases) ← read item aliases
    return (item :: done, aliases)

/-- The meaning of a node with at most `depth` collections inside each other, following at most `aliases`
aliases. Gives how many of these are left. Keys of a mapping must differ. -/
def toNode? (places : Places) (depth : Nat) (source : Source Nat) (aliases : Nat) : Option (Node × Nat) := do
  let (source, aliases) ← follow? places aliases source
  match source, depth with
  | .scalar p plain s, _ =>
    match p.tag.filter (!·.isLocal) with
    | none => return (.withTag p.tag (← Node.ofScalar? plain s), aliases)
    | some tag => return (← Node.ofGlobalTag? tag s, aliases)
  | .sequence p items, depth + 1 =>
    let (items, aliases) ← items.foldlM (addItem? (toNode? places depth)) ([], aliases)
    return (.withTag p.tag (.sequence items.reverse), aliases)
  | .mapping p entries, depth + 1 =>
    let (entries, aliases) ← entries.foldlM (addPair? (toNode? places depth)) ([], aliases)
    return (.withTag p.tag (.mapping entries.reverse), aliases)
  | _, _ => none

end Source

def maxDepth : Nat := 128

/-- How many aliases may be followed for each step that it takes to write the document. -/
def aliasesPerStep : Nat := 100

def Node.read? (text : String) : Option Node := do
  let source ← Source.ofTokens? (← Token.read? text)
  let (linked, _, places) ← Source.link? [] source
  let (node, _) ← linked.toNode? places maxDepth (aliasesPerStep * source.size)
  return node

end ServiceContainer.Yaml

import ServiceContainer.Yaml.Token

/-!
YAML nodes as they are written: with their properties, and with aliases in the places of the nodes they
repeat. Tokens are fed one by one to the collections that are still open.
-/

namespace ServiceContainer.Yaml

structure Properties where
  anchor : Option String := none
  tag : Option Tag := none
  deriving DecidableEq, Repr

/-- A node in which aliases refer to other nodes by an `α`. -/
inductive Source (α : Type) where
  | alias (target : α)
  | scalar (properties : Properties) (plain : Bool) (text : String)
  | sequence (properties : Properties) (items : List (Source α))
  | mapping (properties : Properties) (entries : List (Source α × Source α))

namespace Source

def empty {α : Type} (properties : Properties) : Source α := .scalar properties true ""

/-- What a node is read into. A sequence in the place of a block mapping's key or value needs no further
indentation. -/
inductive Kind where
  | document (explicit : Bool)
  | blockSequence
  | indentlessSequence
  | blockMapping
  | flowSequence
  | flowMapping
  deriving DecidableEq, Repr

inductive Part where
  | item
  | key
  /-- A key that no indicator announces; it has no value. -/
  | loneKey
  | value (key : Source String)

structure Frame where
  kind : Kind
  properties : Properties
  part : Part
  items : List (Source String) := []
  entries : List (Source String × Source String) := []

def Kind.firstPart : Kind → Part
  | .blockMapping | .flowMapping => .key
  | .document _ | .blockSequence | .indentlessSequence | .flowSequence => .item

namespace Frame

def start (kind : Kind) (properties : Properties) : Frame := { kind, properties, part := kind.firstPart }

def isMapping (f : Frame) : Bool := f.kind = .blockMapping || f.kind = .flowMapping

def toSource (f : Frame) : Source String :=
  if f.isMapping then .mapping f.properties f.entries.reverse else .sequence f.properties f.items.reverse

/-- Takes in a node. A key and its value inside a sequence are a mapping of their own. -/
def fill (f : Frame) (node : Source String) : Frame :=
  match f.part with
  | .item => { f with items := node :: f.items }
  | .key => { f with part := .value node }
  | .loneKey => { f with entries := (node, empty {}) :: f.entries, part := .key }
  | .value key =>
    if f.isMapping then { f with entries := (key, node) :: f.entries, part := .key }
    else { f with items := .mapping {} [(key, node)] :: f.items, part := .item }

/-- Whether a block collection may start as the next node. -/
def allowsBlock (f : Frame) : Bool := f.kind != .flowSequence && f.kind != .flowMapping

/-- Whether a token in the place of the next node means that the node is not written. -/
def endsEmpty (f : Frame) (t : Token) : Bool :=
  match f.kind, f.part, t with
  | .document true, _, .version _ _ => true
  | .document true, _, .tagShorthand _ _ => true
  | .document true, _, _ => t = .documentStart || t = .documentEnd || t = .streamEnd
  | .document false, _, _ => false
  | .blockSequence, _, _ => t = .blockEntry || t = .blockEnd
  | .indentlessSequence, _, _ => t = .blockEntry || t = .key || t = .value || t = .blockEnd
  | .blockMapping, _, _ => t = .key || t = .value || t = .blockEnd
  | .flowSequence, .key, _ => t = .value || t = .flowEntry || t = .flowSequenceEnd
  | .flowSequence, .value _, _ => t = .flowEntry || t = .flowSequenceEnd
  | .flowMapping, .key, _ => t = .value || t = .flowEntry || t = .flowMappingEnd
  | .flowMapping, .value _, _ => t = .flowEntry || t = .flowMappingEnd
  | _, _, _ => false

/-- Inside a flow sequence, the token that shows a key to be missing is passed with it. -/
def swallows (f : Frame) : Bool :=
  match f.kind, f.part with
  | .flowSequence, .key => true
  | _, _ => false

end Frame

inductive Mode where
  /-- An indicator for another part, or the end. -/
  | entry
  /-- In flow style, at the start or behind a comma: a part or the end. -/
  | fresh
  /-- A node, of which the properties may have been read. -/
  | node (properties : Properties)

/-- How much may still happen in this mode before the next token is passed. -/
def Mode.weight : Mode → Nat
  | .entry => 0
  | .node _ => 2
  | .fresh => 3

def Part.weight : Part → Nat
  | .value _ => 1
  | _ => 0

def Frame.weight (f : Frame) : Nat := (if f.kind = .indentlessSequence then 2 else 0) + f.part.weight

inductive State where
  | reading (mode : Mode) (top : Frame) (outer : List Frame)
  | finished (root : Source String)

namespace State

def expectNode (top : Frame) (outer : List Frame) : State := .reading (.node {}) top outer

def fill (node : Source String) (top : Frame) (outer : List Frame) : State :=
  match top.kind with
  | .document _ => .finished node
  | _ => .reading .entry (top.fill node) outer

def close (top : Frame) : List Frame → State
  | [] => .finished top.toSource
  | parent :: outer => fill top.toSource parent outer

/-- Whether a token is, starts or qualifies the expected node. -/
def accepts (p : Properties) (top : Frame) : Token → Bool
  | .alias _ => p = {}
  | .anchor _ => p.anchor.isNone
  | .tag _ _ => p.tag.isNone
  | .scalar _ _ | .flowSequenceStart | .flowMappingStart => true
  | .blockSequenceStart | .blockMappingStart => top.allowsBlock
  | .blockEntry => top.kind = .blockMapping
  | _ => false

def readNode (expand : String → Tag → Option Tag) (p : Properties) (top : Frame) (outer : List Frame) :
    Token → Option State
  | .alias name => some (fill (.alias name) top outer)
  | .anchor name => some (.reading (.node { p with anchor := some name }) top outer)
  | .tag handle suffix =>
    (expand handle suffix).map fun tag => .reading (.node { p with tag := some tag }) top outer
  | .scalar plain text => some (fill (.scalar p plain text) top outer)
  | .flowSequenceStart => some (.reading .fresh (.start .flowSequence p) (top :: outer))
  | .flowMappingStart => some (.reading .fresh (.start .flowMapping p) (top :: outer))
  | .blockSequenceStart => some (.reading .entry (.start .blockSequence p) (top :: outer))
  | .blockMappingStart => some (.reading .entry (.start .blockMapping p) (top :: outer))
  | .blockEntry => some (expectNode (.start .indentlessSequence p) (top :: outer))
  | _ => none

def closer? : Kind → Option Token
  | .flowSequence => some .flowSequenceEnd
  | .flowMapping => some .flowMappingEnd
  | _ => none

def outerWeight : List Frame → Nat
  | [] => 0
  | frame :: outer => frame.weight + outerWeight outer

/-- How much may still happen before the next token is passed. -/
def weight : State → Nat
  | .reading mode top outer => mode.weight + top.weight + outerWeight outer
  | .finished _ => 0

theorem weight_reading (mode : Mode) (top : Frame) (outer : List Frame) :
    (reading mode top outer).weight = mode.weight + top.weight + outerWeight outer := rfl

theorem weight_fill_le (node : Source String) (top : Frame) (outer : List Frame) :
    (fill node top outer).weight ≤ top.weight + outerWeight outer + 1 := by
  unfold fill
  split
  · simp [weight]
  · simp only [weight, Frame.weight, Frame.fill, Mode.weight]
    split <;> (try split) <;> simp_all [Part.weight] <;> omega

theorem weight_fill_lt {node key : Source String} {top : Frame} {outer : List Frame} (h : top.part = .value key) :
    (fill node top outer).weight < top.weight + outerWeight outer := by
  unfold fill
  split
  · simp only [weight, Frame.weight, h, Part.weight]
    omega
  · simp only [weight, Frame.weight, Frame.fill, Mode.weight, h]
    split <;> simp only [Part.weight] <;> omega

theorem weight_close_le (top : Frame) (outer : List Frame) :
    (close top outer).weight ≤ outerWeight outer + 1 := by
  cases outer with
  | nil => exact Nat.zero_le _
  | cons parent outer => exact weight_fill_le top.toSource parent outer

/-- Feeds a token to the innermost collection, once everything is closed that the token ends. -/
def feed (expand : String → Tag → Option Tag) (t : Token) : State → Option State
  | .finished root => if t = .documentEnd ∨ t = .streamEnd then some (.finished root) else none
  | .reading .fresh top outer =>
    if closer? top.kind = some t then some (close top outer)
    else if t = .key then some (expectNode { top with part := .key } outer)
    else feed expand t (expectNode { top with part := if top.isMapping then .loneKey else .item } outer)
  | .reading .entry top outer =>
    match _part : top.part with
    | .value _ => if t = .value then some (expectNode top outer) else feed expand t (fill (empty {}) top outer)
    | _ =>
      match _kind : top.kind, t with
      | .blockSequence, .blockEntry | .indentlessSequence, .blockEntry | .blockMapping, .key =>
        some (expectNode top outer)
      | .flowSequence, .flowEntry | .flowMapping, .flowEntry => some (.reading .fresh top outer)
      | .blockSequence, .blockEnd | .blockMapping, .blockEnd | .flowSequence, .flowSequenceEnd
      | .flowMapping, .flowMappingEnd => some (close top outer)
      | .indentlessSequence, _ => feed expand t (close top outer)
      | _, _ => none
  | .reading (.node p) top outer =>
    if accepts p top t then readNode expand p top outer t
    else if p = {} ∧ top.endsEmpty t ∧ top.swallows then some (fill (empty {}) top outer)
    else if p ≠ {} ∨ top.endsEmpty t then feed expand t (fill (empty p) top outer)
    else none
termination_by s => s.weight
decreasing_by
  · rw [expectNode, weight_reading, weight_reading]
    simp only [Frame.weight, Mode.weight]
    by_cases mapping : top.isMapping <;> simp only [mapping, Part.weight] <;> simp <;> omega
  · rw [weight_reading]
    simpa [Mode.weight] using weight_fill_lt _part
  · have := weight_close_le top outer
    rw [weight_reading]
    simp only [Mode.weight, Frame.weight, _kind]
    simp only [if_true]
    omega
  · have := weight_fill_le (empty p) top outer
    rw [weight_reading]
    simp only [Mode.weight]
    omega

end State

/-- The meanings of tag handles that need no directive. -/
def commonShorthands : List (String × Tag) := [("!", .lone), ("!!", ⟨"tag:yaml.org,2002:".toUTF8.data.toList⟩)]

def expandTag (shorthands : List (String × Tag)) (handle : String) (suffix : Tag) : Option Tag :=
  if handle = "" then some suffix
  else ((shorthands ++ commonShorthands).lookup handle).map (· ++ suffix)

/-- Reads the directives of a document: at most one version, which is 1.1 or 1.2, and one meaning for each tag
handle. Gives those, with the tokens from the first that is no directive. -/
def readDirectives (version : Bool) (shorthands : List (String × Tag)) :
    List Token → Option (List (String × Tag) × List Token)
  | .version major minor :: tokens =>
    if !version && major = 1 && (minor = 1 || minor = 2) then readDirectives true shorthands tokens else none
  | .tagShorthand handle expansion :: tokens =>
    if shorthands.any (·.1 = handle) then none
    else readDirectives version ((handle, expansion) :: shorthands) tokens
  | tokens => some (shorthands, tokens)

/-- Reads the only document among the tokens of a text. -/
def readDocument (shorthands : List (String × Tag)) (explicit : Bool) (tokens : List Token) :
    Option (Source String) :=
  let start := State.expectNode (.start (.document explicit) {}) []
  match tokens.foldlM (fun state t => State.feed (expandTag shorthands) t state) start with
  | some (.finished root) => some root
  | _ => none

/-- The document that tokens make up; the empty node if there is none. Directives need an explicit start. -/
def ofTokens? (tokens : List Token) : Option (Source String) := do
  match ← readDirectives false [] tokens with
  | (shorthands, .documentStart :: rest) => readDocument shorthands true rest
  | (_, [.streamEnd]) => if tokens = [.streamEnd] then some (empty {}) else none
  | (_, rest) => if rest.length = tokens.length then readDocument [] false rest else none

end Source

end ServiceContainer.Yaml

import ServiceContainer.Number.FloatText

/-!
JSON values and their two written forms: compact, and indented by two spaces.
-/

namespace ServiceContainer

inductive Json where
  | null
  | bool (b : Bool)
  | int (n : Int64)
  | float (x : Double)
  | text (s : String)
  | array (items : List Json)
  /-- Fields keep their order. -/
  | object (fields : List (String × Json))

namespace Json

def hexDigit (n : Nat) : Char := (Nat.toDigits 16 n).headD '0'

/-- Only quotes, backslashes and control characters are escaped. -/
def escapeChar (c : Char) : List Char :=
  match c with
  | '"' => ['\\', '"']
  | '\\' => ['\\', '\\']
  | '\x08' => ['\\', 'b']
  | '\x0c' => ['\\', 'f']
  | '\n' => ['\\', 'n']
  | '\r' => ['\\', 'r']
  | '\t' => ['\\', 't']
  | c => if c.toNat < 0x20 then ['\\', 'u', '0', '0', hexDigit (c.toNat / 16), hexDigit (c.toNat % 16)] else [c]

def quote (s : String) : String := "\"" ++ String.ofList (s.toList.flatMap escapeChar) ++ "\""

def leafText : Json → String
  | .bool b => if b then "true" else "false"
  | .int n => toString n.toInt
  | .float x => FloatFormat.json.text x
  | .text s => quote s
  | .null | .array _ | .object _ => "null"

def compact : Json → String
  | .array items => "[" ++ String.intercalate "," (compactItems items) ++ "]"
  | .object fields => "\x7b" ++ String.intercalate "," (compactFields fields) ++ "\x7d"
  | leaf => leaf.leafText
where
  compactItems : List Json → List String
    | [] => []
    | item :: items => item.compact :: compactItems items
  compactFields : List (String × Json) → List String
    | [] => []
    | (name, value) :: fields => (quote name ++ ":" ++ value.compact) :: compactFields fields

/-- Parts between brackets, each on a line of its own that starts with `margin`; the closing bracket
follows the margin of the whole. -/
def block (opening closing margin : String) (parts : List String) : String :=
  if parts.isEmpty then opening ++ closing
  else
    opening ++ String.intercalate "," (parts.map fun part => "\n" ++ margin ++ "  " ++ part) ++ "\n" ++ margin ++
      closing

/-- The indented form; all lines but the first start with `margin`. -/
def pretty (margin : String) : Json → String
  | .array items => block "[" "]" margin (prettyItems (margin ++ "  ") items)
  | .object fields => block "\x7b" "\x7d" margin (prettyFields (margin ++ "  ") fields)
  | leaf => leaf.leafText
where
  prettyItems (margin : String) : List Json → List String
    | [] => []
    | item :: items => item.pretty margin :: prettyItems margin items
  prettyFields (margin : String) : List (String × Json) → List String
    | [] => []
    | (name, value) :: fields => (quote name ++ ": " ++ value.pretty margin) :: prettyFields margin fields

end Json

end ServiceContainer

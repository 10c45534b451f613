import ServiceContainer.Json.Literal
import ServiceContainer.Yaml.Cursor

/-!
Tags of YAML nodes. A tag is known by its bytes: escapes may put bytes into it that spell no text, and a zero
byte ends it.
-/

namespace ServiceContainer.Yaml

/-- A tag, or a part of one that a handle stands for. -/
structure Tag where
  bytes : List UInt8
  deriving DecidableEq, Repr

/-- Characters of tags. Flow indicators belong to them only where the tag is delimited. -/
def isTagChar (delimited : Bool) (c : Char) : Bool :=
  isNameChar c || c ∈ [';', '/', '?', ':', '@', '&', '=', '+', '$', '.', '%', '!', '~', '*', '\'', '(', ')'] ||
    (delimited && c ∈ [',', '[', ']'])

/-- How many bytes of a character must follow its first one. -/
def owedBytes? (first : Nat) : Option Nat :=
  if first < 0x80 then some 0
  else if first < 0xC0 then none
  else if first < 0xE0 then some 1
  else if first < 0xF0 then some 2
  else if first < 0xF8 then some 3
  else none

/-- How many bytes of a character must still follow `byte`, where `owed` were to follow the one before it. -/
def owedBehind? (owed byte : Nat) : Option Nat :=
  match owed with
  | 0 => owedBytes? byte
  | owed + 1 => if 0x80 ≤ byte ∧ byte < 0xC0 then some owed else none

/-- The bytes of a tag's characters; a percent sign and two hexadecimal digits give a byte. Bytes given so must
come in the number that the first of them calls for; whether they make up a character does not matter. -/
def tagBytes? (owed : Nat) : List Char → Option (List UInt8)
  | [] => if owed = 0 then some [] else none
  | '%' :: a :: b :: cs => do
    let byte ← Json.hexNumber? [a, b]
    let bytes ← tagBytes? (← owedBehind? owed byte) cs
    return byte.toUInt8 :: bytes
  | c :: cs => if c = '%' ∨ owed ≠ 0 then none else (tagBytes? 0 cs).map (c.toNat.toUInt8 :: ·)

namespace Tag

/-- The tag that characters spell, up to a zero byte. -/
def ofChars? (cs : List Char) : Option Tag := (tagBytes? 0 cs).map fun bytes => ⟨bytes.takeWhile (· ≠ 0)⟩

def exclamationMark : UInt8 := 0x21

def lone : Tag := ⟨[exclamationMark]⟩

instance : Append Tag := ⟨fun s t => ⟨s.bytes ++ t.bytes⟩⟩

def text? (t : Tag) : Option String := String.fromUTF8? ⟨t.bytes.toArray⟩

/-- Local tags start with an exclamation mark. -/
def isLocal (t : Tag) : Bool := t.bytes.head? = some exclamationMark

/-- The name of a local tag, as it is shown, if it is a text. A lone mark has itself for a name; otherwise
another mark in front of the name is dropped. -/
def name? (t : Tag) : Option String :=
  if !t.isLocal then none
  else
    t.text?.map fun s =>
      match s.toList with
      | ['!'] => "!!"
      | '!' :: '!' :: c :: cs => String.ofList ('!' :: c :: cs)
      | cs => String.ofList cs

end Tag

end ServiceContainer.Yaml

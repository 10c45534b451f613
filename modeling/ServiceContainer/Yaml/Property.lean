import ServiceContainer.Yaml.Token

/-!
Node properties, aliases and directives: the tokens that name things.
-/

namespace ServiceContainer.Yaml

def readName (c : Cursor) : Option (String × Cursor) :=
  let (name, next) := c.span isNameChar
  let isEnd := next.rest.head?.any (· ∈ ['?', ':', ',', ']', '\x7d', '%', '@', '\x60'])
  if name ≠ [] && (atWordEnd next.rest || isEnd) then some (String.ofList name, next) else none

/-- A handle: `!`, or `!name!`, or the start of a tag that has no handle. -/
def spanHandle (c : Cursor) : List Char × Cursor :=
  let (name, next) := (c.right 1).span isNameChar
  if next.rest.head? = some '!' then ('!' :: name ++ ['!'], next.right 1) else ('!' :: name, next)

/-- Reads a tag at its `!` into a handle and a suffix. A tag in angle brackets has no handle; a `!` with nothing
behind it is its own suffix. -/
def readTagParts (c : Cursor) : Option (Token × Cursor) :=
  match c.rest with
  | _ :: '<' :: _ => do
    let (suffix, next) := (c.right 2).span (isTagChar true)
    if suffix = [] || next.rest.head? ≠ some '>' then none
    else return (.tag "" (← Tag.ofChars? suffix), next.right 1)
  | _ => do
    let (handle, next) := spanHandle c
    let (suffix, next) := next.span (isTagChar false)
    if 1 < handle.length && handle.getLast? = some '!' then
      if suffix = [] then none else return (.tag (String.ofList handle) (← Tag.ofChars? suffix), next)
    else
      let suffix ← Tag.ofChars? (handle.tail ++ suffix)
      return (if suffix.bytes = [] then .tag "" .lone else .tag "!" suffix, next)

def readTag (inFlow : Bool) (c : Cursor) : Option (Token × Cursor) := do
  let (token, next) ← readTagParts c
  if atWordEnd next.rest || (inFlow && next.rest.head? = some ',') then return (token, next) else none

/-- A part of a version: one to nine digits. -/
def readVersionNumber (c : Cursor) : Option (Nat × Cursor) :=
  let (digits, next) := c.span Char.isDigit
  if digits ≠ [] && digits.length ≤ 9 then some ((String.ofList digits).toNat?.getD 0, next) else none

def readVersion (c : Cursor) : Option (Token × Cursor) := do
  let (major, next) ← readVersionNumber (c.skipWhile isBlank)
  if next.rest.head? ≠ some '.' then none
  else
    let (minor, next) ← readVersionNumber (next.right 1)
    return (.version major minor, next)

def readTagShorthand (c : Cursor) : Option (Token × Cursor) := do
  let c := c.skipWhile isBlank
  if c.rest.head? ≠ some '!' then none
  else
    let (handle, next) := spanHandle c
    if handle.getLast? ≠ some '!' || !next.rest.head?.any isBlank then none
    else
      let (expansion, next) := (next.skipWhile isBlank).span (isTagChar true)
      if expansion = [] || !atWordEnd next.rest then none
      else return (.tagShorthand (String.ofList handle) (← Tag.ofChars? expansion), next)

/-- Reads a directive from behind its `%` to the end of its line. -/
def readDirective (c : Cursor) : Option (Token × Cursor) := do
  let (name, next) := c.span isNameChar
  if !atWordEnd next.rest then none
  else
    let (token, next) ←
      match String.ofList name with
      | "YAML" => readVersion next
      | "TAG" => readTagShorthand next
      | _ => none
    return (token, ← next.finishLine?)

end ServiceContainer.Yaml

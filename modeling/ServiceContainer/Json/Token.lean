import ServiceContainer.Json.Literal
import ServiceContainer.Json.Numeral

/-!
JSON text as tokens.
-/

namespace ServiceContainer.Json

inductive Token where
  | mark (c : Char)
  | word (w : List Char)
  | number (n : Numeral)
  | text (units : List CharUnit)

namespace Token

def isSpace (c : Char) : Bool := c = ' ' || c = '\t' || c = '\n' || c = '\r'

def isNumberChar (c : Char) : Bool := c.isDigit || c = '-' || c = '+' || c = '.' || c = 'e' || c = 'E'

/-- The tokens of a text, behind those in `done`, last one first. Words and numbers extend as far as their
characters do: nothing that may follow them in a document is made of these. -/
def readFrom (done : List Token) : List Char → Option (List Token)
  | [] => some done.reverse
  | c :: cs =>
    if isSpace c then readFrom done cs
    else if c ∈ ['[', ']', '\x7b', '\x7d', ':', ','] then readFrom (.mark c :: done) cs
    else if c = '"' then
      match _read : readUnits [] cs with
      | some (units, rest) => readFrom (.text units :: done) rest
      | none => none
    else if c.isDigit || c = '-' then
      match Numeral.ofText? (c :: cs.takeWhile isNumberChar) with
      | some n => readFrom (.number n :: done) (cs.dropWhile isNumberChar)
      | none => none
    else if c.isLower then readFrom (.word (c :: cs.takeWhile Char.isLower) :: done) (cs.dropWhile Char.isLower)
    else none
termination_by cs => cs.length
decreasing_by
  · simp
  · simp
  · have := readUnits_length _read
    simp only [List.length_cons]
    omega
  · have := (List.dropWhile_suffix isNumberChar (l := cs)).length_le
    simp only [List.length_cons]
    omega
  · have := (List.dropWhile_suffix Char.isLower (l := cs)).length_le
    simp only [List.length_cons]
    omega

def read? (text : String) : Option (List Token) := readFrom [] text.toList

end Token

end ServiceContainer.Json

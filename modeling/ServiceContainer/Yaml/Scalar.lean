import ServiceContainer.Number.Decimal

/-!
The values that plain scalars spell.
-/

namespace ServiceContainer.Yaml

def digitIn? (radix : Nat) (c : Char) : Option Nat :=
  let value :=
    if '0' ≤ c ∧ c ≤ '9' then some (c.toNat - '0'.toNat)
    else if 'a' ≤ c ∧ c ≤ 'f' then some (c.toNat - 'a'.toNat + 10)
    else if 'A' ≤ c ∧ c ≤ 'F' then some (c.toNat - 'A'.toNat + 10)
    else none
  value.filter (· < radix)

def digitsIn? (radix : Nat) (digits : List Char) : Option Nat :=
  if digits.isEmpty then none else digits.foldlM (fun n d => (digitIn? radix d).map (radix * n + ·)) 0

def isSign (c : Char) : Bool := c = '+' || c = '-'

/-- A zero in front of more digits makes text of them, perhaps behind a sign. -/
def hasNeedlessZero (cs : List Char) : Bool :=
  let cs := if cs.head?.any isSign then cs.tail else cs
  1 < cs.length && cs.head? = some '0' && cs.all Char.isDigit

/-- Digits in the radix that `0x`, `0o` or `0b` in front of them names, or decimal ones. -/
def natural? : List Char → Option Nat
  | '0' :: 'x' :: digits => digitsIn? 16 digits
  | '0' :: 'o' :: digits => digitsIn? 8 digits
  | '0' :: 'b' :: digits => digitsIn? 2 digits
  | digits => digitsIn? 10 digits

def integer? (cs : List Char) : Option Int :=
  if hasNeedlessZero cs then none
  else
    match cs with
    | '+' :: digits => (natural? digits).map fun n => (n : Int)
    | '-' :: digits => (natural? digits).map fun n => -(n : Int)
    | digits => (natural? digits).map fun n => (n : Int)

/-- The double that a text spells; one too large for a double is text. -/
def double? (cs : List Char) : Option Double :=
  let unsigned := if cs.head? = some '+' then cs.tail else cs
  if cs.head? = some '+' && unsigned.head?.any isSign then none
  else if String.ofList unsigned ∈ [".inf", ".Inf", ".INF"] then some (.infinite false)
  else if String.ofList cs ∈ ["-.inf", "-.Inf", "-.INF"] then some (.infinite true)
  else if String.ofList cs ∈ [".nan", ".NaN", ".NAN"] then some .nan
  else ((Decimal.ofText? (String.ofList unsigned)).map Decimal.toDouble).filter (·.isFinite)

def isNull (s : String) : Bool := s ∈ ["~", "null", "Null", "NULL"]

def bool? (s : String) : Option Bool :=
  if s ∈ ["true", "True", "TRUE"] then some true
  else if s ∈ ["false", "False", "FALSE"] then some false
  else none

end ServiceContainer.Yaml

import ServiceContainer.Number.Decimal

/-!
JSON numbers: how they are written, and the double that each stands for.
-/

namespace ServiceContainer.Json

/-- A number as it is written: lists of digits, and the sign of the exponent if there is one. -/
structure Numeral where
  negative : Bool
  whole : List Char
  fraction : List Char
  exponent : Option (Bool × List Char)

namespace Numeral

def exponentOf? : List Char → Option (Option (Bool × List Char))
  | [] => some none
  | mark :: cs =>
    let digits := if cs.head? = some '-' || cs.head? = some '+' then cs.tail else cs
    if (mark = 'e' || mark = 'E') && digits ≠ [] && digits.all Char.isDigit then
      some (some (cs.head? = some '-', digits))
    else none

/-- Reads a whole text as a numeral: no needless zero in front, and digits on both sides of a point. -/
def ofText? (cs : List Char) : Option Numeral :=
  let negative := cs.head? = some '-'
  let cs := if negative then cs.tail else cs
  let whole := cs.takeWhile Char.isDigit
  let rest := cs.dropWhile Char.isDigit
  let fraction := if rest.head? = some '.' then rest.tail.takeWhile Char.isDigit else []
  if whole = [] || (whole.head? = some '0' && 1 < whole.length) then none
  else if rest.head? = some '.' then
    if fraction = [] then none
    else (exponentOf? (rest.tail.dropWhile Char.isDigit)).map (⟨negative, whole, fraction, ·⟩)
  else (exponentOf? rest).map (⟨negative, whole, [], ·⟩)

/-- Appends digits to a 64-bit significand as long as they fit; gives the digits left over as well. -/
def gather (significand : Nat) : List Char → Nat × List Char
  | [] => (significand, [])
  | d :: digits =>
    let next := 10 * significand + digitsValue [d]
    if next < UInt64.size then gather next digits else (significand, d :: digits)

def scaleDown (x : Double) (exponent : Nat) : Double :=
  if exponent ≤ 308 then x.div (.ofNat (Nat.pow 10 exponent))
  else if x = .zero false then x
  else scaleDown (x.div (.ofNat (Nat.pow 10 308))) (exponent - 308)
termination_by exponent

/-- Scales a significand by a power of ten. A result too large for a double is refused. -/
def scale? (significand : Nat) (exponent : Int) : Option Double :=
  let x := Double.ofNat significand
  if exponent < 0 then some (scaleDown x exponent.natAbs)
  else if significand = 0 then some x
  else if 308 < exponent then none
  else
    let scaled := x.mul (.ofNat (Nat.pow 10 exponent.toNat))
    if scaled.isFinite then some scaled else none

/-- The double for a numeral. Its digits are gathered into a 64-bit significand, which is rounded once and
once more when it is scaled, so the last place may differ from that of the nearest double. An exponent past
31 bits is out of range unless the number is zero or vanishes. -/
def double? (n : Numeral) : Option Double :=
  let (whole, wholeLeft) := gather 0 n.whole
  let (significand, fractionLeft) := gather whole n.fraction
  let exponent : Int := wholeLeft.length - (n.fraction.length - fractionLeft.length : Nat)
  let magnitude? : Option Double :=
    match n.exponent with
    | none => scale? significand exponent
    | some (negative, digits) =>
      let shift := digitsValue digits
      if shift < Nat.pow 2 31 then scale? significand (if negative then exponent - shift else exponent + shift)
      else if significand = 0 || negative then some (.zero false)
      else none
  magnitude?.map fun x => if n.negative then x.neg else x

end Numeral

end ServiceContainer.Json

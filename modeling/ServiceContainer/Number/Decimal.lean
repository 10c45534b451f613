import ServiceContainer.Number.Double

/-!
Decimal numbers: how they are spelled in text, and the double nearest to each.
-/

namespace ServiceContainer

/-- The number `± significand * 10 ^ exponent`. -/
structure Decimal where
  negative : Bool
  significand : Nat
  exponent : Int
  deriving DecidableEq, Repr

def digitsValue (digits : List Char) : Nat :=
  digits.foldl (fun n d => 10 * n + (d.toNat - '0'.toNat)) 0

namespace Decimal

def exponentOf? : List Char → Option Int
  | '-' :: digits => (unsigned? digits).map fun n => -(n : Int)
  | '+' :: digits => (unsigned? digits).map fun n => (n : Int)
  | digits => (unsigned? digits).map fun n => (n : Int)
where
  unsigned? (digits : List Char) : Option Nat :=
    if digits ≠ [] ∧ digits.all Char.isDigit then some (digitsValue digits) else none

/-- Digits with at most one point among or beside them, then an optional exponent. -/
def unsignedOf? (negative : Bool) (text : List Char) : Option Decimal :=
  let whole := text.takeWhile Char.isDigit
  let afterWhole := text.dropWhile Char.isDigit
  let fraction := if afterWhole.head? = some '.' then afterWhole.tail.takeWhile Char.isDigit else []
  let rest := if afterWhole.head? = some '.' then afterWhole.tail.dropWhile Char.isDigit else afterWhole
  let exponent : Option Int :=
    match rest with
    | [] => some 0
    | mark :: digits => if mark = 'e' || mark = 'E' then exponentOf? digits else none
  if whole = [] ∧ fraction = [] then none
  else exponent.map fun e => ⟨negative, digitsValue (whole ++ fraction), e - fraction.length⟩

def ofText? (text : String) : Option Decimal :=
  match text.toList with
  | '-' :: cs => unsignedOf? true cs
  | '+' :: cs => unsignedOf? false cs
  | cs => unsignedOf? false cs

/-- The nearest double. Exponents so large that every digit string overflows or vanishes are settled
without writing out their powers. -/
def toDouble (d : Decimal) : Double :=
  let places : Int := (Nat.toDigits 10 d.significand).length + d.exponent
  if d.significand = 0 ∨ places < -330 then .zero d.negative
  else if 310 < places then .infinite d.negative
  else .nearest d.negative (d.significand * Nat.pow 10 d.exponent.toNat) (Nat.pow 10 (-d.exponent).toNat)

end Decimal

end ServiceContainer

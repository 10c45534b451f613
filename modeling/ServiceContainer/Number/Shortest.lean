import ServiceContainer.Number.Decimal

/-!
The shortest decimal that reads back as a given double. Grids of ever finer decimals are tried, from one
digit on; the first grid with a point among the numbers that round to the double decides, by its point
nearest to the double.
-/

namespace ServiceContainer

inductive Tie where
  | up
  | even
  deriving DecidableEq, Repr

/-- Positive numbers over one denominator: a double's magnitude between the ends of the interval of numbers
that round to it, and whether the ends belong to that interval. -/
structure RoundingInterval where
  low : Nat
  value : Nat
  high : Nat
  den : Nat
  closed : Bool

namespace RoundingInterval

/-- The ends lie half-way to the neighbouring magnitudes; the lower neighbour of a power of two is only half
as far away as the upper one. They round to an even significand. -/
def ofRank (rank : Nat) : RoundingInterval :=
  let m := Double.significand rank
  let power := Double.power rank - 2
  let scale := Nat.pow 2 power.toNat
  let below := if m = Nat.pow 2 52 ∧ -1076 < power then 1 else 2
  { low := (4 * m - below) * scale
    value := 4 * m * scale
    high := (4 * m + 2) * scale
    den := Nat.pow 2 (-power).toNat
    closed := m % 2 = 0 }

def contains (i : RoundingInterval) (num den : Nat) : Bool :=
  if i.closed then i.low * den ≤ num * i.den && num * i.den ≤ i.high * den
  else i.low * den < num * i.den && num * i.den < i.high * den

/-- The number of digits before the decimal point; zeros right behind the point count negatively. -/
def places (i : RoundingInterval) : Int :=
  if i.den ≤ i.value then (Nat.toDigits 10 (i.value / i.den)).length
  else 1 - (Nat.toDigits 10 ((i.den - 1) / i.value)).length

/-- The point nearest to the value on the grid of multiples of `10 ^ exponent`, if one is in the interval. -/
def gridPoint? (i : RoundingInterval) (tie : Tie) (exponent : Int) : Option Nat :=
  let up := Nat.pow 10 exponent.toNat
  let down := Nat.pow 10 (-exponent).toNat
  let floor := i.value * down / (i.den * up)
  let twice := 2 * (i.value * down % (i.den * up))
  let inside (point : Nat) := i.contains (point * up) down
  let above : Bool :=
    match compare twice (i.den * up) with
    | .lt => false
    | .gt => true
    | .eq => tie = .up || floor % 2 = 1
  if inside floor && inside (floor + 1) then some (if above then floor + 1 else floor)
  else if inside floor then some floor
  else if inside (floor + 1) then some (floor + 1)
  else none

end RoundingInterval

/-- Moves trailing zeros of the significand into the exponent. The first argument bounds their number. -/
def Decimal.dropZeros : Nat → Decimal → Decimal
  | 0, d => d
  | n + 1, d =>
    if d.significand ≠ 0 ∧ d.significand % 10 = 0 then
      dropZeros n { d with significand := d.significand / 10, exponent := d.exponent + 1 }
    else d

/-- The magnitude written out in full: a power of two in the denominator is one of ten with fives above it. -/
def Decimal.exact (negative : Bool) (rank : Nat) : Decimal :=
  let power := Double.power rank
  ⟨negative, Double.significand rank * Nat.pow 2 power.toNat * Nat.pow 5 (-power).toNat, min power 0⟩

/-- The shortest decimal for a finite double; seventeen digits are always enough. -/
def Decimal.shortest (tie : Tie) (negative : Bool) (rank : Nat) : Decimal :=
  if rank = 0 then ⟨negative, 0, 0⟩
  else
    let interval := RoundingInterval.ofRank rank
    let point? (digits : Nat) : Option Decimal :=
      let exponent := interval.places - digits
      (interval.gridPoint? tie exponent).map fun point => dropZeros 17 ⟨negative, point, exponent⟩
    ((List.range' 1 17).findSome? point?).getD (exact negative rank)

end ServiceContainer

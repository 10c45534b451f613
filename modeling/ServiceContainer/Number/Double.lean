/-!
Double-precision numbers as exact data. A finite number is a sign and the rank of its magnitude among all
magnitudes, which orders and compares them without any arithmetic on words.
-/

namespace ServiceContainer

/-- How many finite magnitudes there are; the next rank stands for infinity. -/
def Double.rankLimit : Nat := 2047 * Nat.pow 2 52

inductive Double where
  | nan
  | infinite (negative : Bool)
  | finite (negative : Bool) (rank : Fin Double.rankLimit)
  deriving DecidableEq, Repr

namespace Double

/-- Magnitude `rank` is `significand * 2 ^ power`. Below rank `2 ^ 52` the magnitudes are evenly spaced. -/
def power (rank : Nat) : Int := if rank < Nat.pow 2 52 then -1074 else (rank / Nat.pow 2 52 : Nat) - 1075

def significand (rank : Nat) : Nat := if rank < Nat.pow 2 52 then rank else Nat.pow 2 52 + rank % Nat.pow 2 52

def ofRank (negative : Bool) (rank : Nat) : Double :=
  if h : rank < rankLimit then .finite negative ⟨rank, h⟩ else .infinite negative

def zero (negative : Bool) : Double := .finite negative ⟨0, by decide⟩

/-- The quotient as a whole number: the nearest one, and the even one of two that are equally near. -/
def roundDiv (num den : Nat) : Nat :=
  let quotient := num / den
  let twice := 2 * (num % den)
  if den < twice || (twice == den && quotient % 2 == 1) then quotient + 1 else quotient

/-- The power of two at or below `num / den`, where both are positive. -/
def leadingPower (num den : Nat) : Int :=
  let guess : Int := num.log2 - den.log2
  if den * Nat.pow 2 guess.toNat ≤ num * Nat.pow 2 (-guess).toNat then guess else guess - 1

/-- The double nearest to `num / den`, ties going to the even significand. -/
def nearest (negative : Bool) (num den : Nat) : Double :=
  if num = 0 then zero negative
  else
    let power := max (-1074) (leadingPower num den - 52)
    let significand := roundDiv (num * Nat.pow 2 (-power).toNat) (den * Nat.pow 2 power.toNat)
    ofRank negative ((power + 1074).toNat * Nat.pow 2 52 + significand)

def ofNat (n : Nat) : Double := nearest false n 1

def neg : Double → Double
  | .nan => .nan
  | .infinite negative => .infinite !negative
  | .finite negative rank => .finite (!negative) rank

/-- The product of two finite numbers, rounded once; infinite operands do not arise. -/
def mul : Double → Double → Double
  | .finite s₁ r₁, .finite s₂ r₂ =>
    let power := power r₁ + power r₂
    nearest (s₁ ^^ s₂) (significand r₁ * significand r₂ * Nat.pow 2 power.toNat) (Nat.pow 2 (-power).toNat)
  | _, _ => .nan

/-- The quotient of two finite numbers, rounded once; a zero divisor does not arise. -/
def div : Double → Double → Double
  | .finite s₁ r₁, .finite s₂ r₂ =>
    let power := power r₁ - power r₂
    nearest (s₁ ^^ s₂) (significand r₁ * Nat.pow 2 power.toNat) (significand r₂ * Nat.pow 2 (-power).toNat)
  | _, _ => .nan

def isFinite : Double → Bool
  | .finite _ _ => true
  | _ => false

/-- Equality of numbers, under which the two zeros agree and, unlike in arithmetic, a NaN agrees with itself. -/
def same : Double → Double → Bool
  | .finite s₁ r₁, .finite s₂ r₂ => r₁ == r₂ && (s₁ == s₂ || r₁.val == 0)
  | x, y => x == y

end Double

end ServiceContainer

import ServiceContainer.Number.Double

/-!
Integers of documents: those that fit into 64 bits, with or without a sign.
-/

namespace ServiceContainer

structure Whole where
  value : Int
  inRange : Int64.minValue.toInt ≤ value ∧ value < UInt64.size
  deriving DecidableEq

namespace Whole

def ofInt? (n : Int) : Option Whole :=
  if inRange : Int64.minValue.toInt ≤ n ∧ n < UInt64.size then some ⟨n, inRange⟩ else none

def int64? (n : Whole) : Option Int64 :=
  if n.value ≤ Int64.maxValue.toInt then some (Int64.ofInt n.value) else none

def uint64? (n : Whole) : Option UInt64 :=
  if 0 ≤ n.value then some (UInt64.ofNat n.value.toNat) else none

/-- The nearest double. -/
def toDouble (n : Whole) : Double :=
  if n.value < 0 then (Double.ofNat n.value.natAbs).neg else .ofNat n.value.natAbs

end Whole

end ServiceContainer

/-!
Ranges of code points, the form in which Unicode states a property, and runs of them, by which case mappings of
single characters are given: characters at equal distances that all move by one shift.
-/

namespace ServiceContainer.Text

/-- Inclusive ranges of code points, in ascending order and apart from each other. -/
abbrev CodePoints := List (Nat × Nat)

def CodePoints.contains (ranges : CodePoints) (c : Char) : Bool :=
  ranges.any fun (first, last) => first ≤ c.toNat && c.toNat ≤ last

/-- The characters `first`, `first + step`, …, `last`, each mapped to the one `shift` further on. -/
structure CaseRun where
  first : Nat
  last : Nat
  step : Nat
  shift : Int

def CaseRun.covers (run : CaseRun) (c : Char) : Bool :=
  run.first ≤ c.toNat && c.toNat ≤ run.last && (c.toNat - run.first) % run.step == 0

/-- The image of `c` under the first run that covers it; `c` itself if none does. -/
def mapCase (runs : List CaseRun) (c : Char) : Char :=
  match runs.find? (·.covers c) with
  | some run => Char.ofNat (Int.toNat (c.toNat + run.shift))
  | none => c

end ServiceContainer.Text

import ServiceContainer.Number.Shortest

/-!
Floating-point numbers as text: the shortest digits that read back, laid out as each output format asks.
-/

namespace ServiceContainer

structure FloatFormat where
  tie : Tie
  /-- The powers of ten of the leading digit that are written without an exponent; all of them if absent. -/
  positional : Option (Int × Int)
  /-- Whether whole numbers written without an exponent end in `.0`. -/
  fraction : Bool
  plus : Bool
  nan : String
  infinity : String
  negativeInfinity : String

namespace FloatFormat

def digits (n : Nat) : String := String.ofList (Nat.toDigits 10 n)

def zeros (n : Nat) : String := String.ofList (List.replicate n '0')

def positionalText (format : FloatFormat) (significand : Nat) (exponent : Int) : String :=
  let ds := Nat.toDigits 10 significand
  let behind := (-exponent).toNat
  if 0 ≤ exponent then
    digits significand ++ zeros exponent.toNat ++ (if format.fraction then ".0" else "")
  else if behind < ds.length then
    String.ofList (ds.take (ds.length - behind)) ++ "." ++ String.ofList (ds.drop (ds.length - behind))
  else "0." ++ zeros (behind - ds.length) ++ digits significand

/-- One digit, the others behind a point, and the power of ten of the first. -/
def exponentText (format : FloatFormat) (significand : Nat) (leading : Int) : String :=
  let ds := Nat.toDigits 10 significand
  String.ofList (ds.take 1) ++ (if ds.length = 1 then "" else "." ++ String.ofList (ds.drop 1)) ++ "e" ++
    (if format.plus && 0 ≤ leading then "+" else "") ++ toString leading

def decimalText (format : FloatFormat) (d : Decimal) : String :=
  let leading : Int := (Nat.toDigits 10 d.significand).length + d.exponent - 1
  let isPositional := format.positional.all fun (least, greatest) => least ≤ leading && leading ≤ greatest
  (if d.negative then "-" else "") ++
    if d.significand = 0 || isPositional then format.positionalText d.significand d.exponent
    else format.exponentText d.significand leading

def text (format : FloatFormat) : Double → String
  | .nan => format.nan
  | .infinite negative => if negative then format.negativeInfinity else format.infinity
  | .finite negative rank => format.decimalText (Decimal.shortest format.tie negative rank)

/-- Reports show every float as a float: with a fraction or an exponent. -/
def report : FloatFormat := ⟨.up, some (-4, 15), true, false, "NaN", "inf", "-inf"⟩

/-- Inside a string a float shows its plain digits. -/
def interpolated : FloatFormat := ⟨.up, none, false, false, "NaN", "inf", "-inf"⟩

/-- Generated code names the values that have no digits by their constants. -/
def php : FloatFormat := { report with nan := "NAN", infinity := "INF", negativeInfinity := "-INF" }

/-- JSON has no word for the values that have no digits. -/
def json : FloatFormat := ⟨.even, some (-5, 15), true, true, "null", "null", "null"⟩

def yaml : FloatFormat := ⟨.even, some (-5, 15), true, false, ".nan", ".inf", "-.inf"⟩

end FloatFormat

end ServiceContainer

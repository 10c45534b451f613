/-!
JSON string literals: the units between the quotes, and the text they spell.
-/

namespace ServiceContainer.Json

/-- A unit of a string literal: a character, or a 16-bit code unit given by its number. -/
inductive CharUnit where
  | char (c : Char)
  | code (unit : Nat)
  deriving DecidableEq, Repr

def hexValue? (c : Char) : Option Nat :=
  if '0' ≤ c ∧ c ≤ '9' then some (c.toNat - '0'.toNat)
  else if 'a' ≤ c ∧ c ≤ 'f' then some (c.toNat - 'a'.toNat + 10)
  else if 'A' ≤ c ∧ c ≤ 'F' then some (c.toNat - 'A'.toNat + 10)
  else none

def hexNumber? (digits : List Char) : Option Nat :=
  digits.foldlM (fun n d => (hexValue? d).map (16 * n + ·)) 0

def escapedChar? : Char → Option Char
  | '"' => some '"'
  | '\\' => some '\\'
  | '/' => some '/'
  | 'b' => some '\x08'
  | 'f' => some '\x0c'
  | 'n' => some '\n'
  | 'r' => some '\r'
  | 't' => some '\t'
  | _ => none

/-- Reads units up to the closing quote, behind those in `done`, last one first. Gives them in order, with
the text behind the quote. -/
def readUnits (done : List CharUnit) : List Char → Option (List CharUnit × List Char)
  | [] => none
  | '"' :: cs => some (done.reverse, cs)
  | '\\' :: 'u' :: a :: b :: c :: d :: cs =>
    match hexNumber? [a, b, c, d] with
    | some unit => readUnits (.code unit :: done) cs
    | none => none
  | '\\' :: c :: cs =>
    match escapedChar? c with
    | some char => readUnits (.char char :: done) cs
    | none => none
  | c :: cs => if c.toNat < 0x20 then none else readUnits (.char c :: done) cs

theorem readUnits_length {done units : List CharUnit} {cs rest : List Char}
    (h : readUnits done cs = some (units, rest)) : rest.length < cs.length := by
  fun_induction readUnits done cs with
  | case1 => simp at h
  | case2 => simp_all
  | case3 _ _ _ _ _ _ _ _ ih => have := ih h; simp only [List.length_cons]; omega
  | case4 => simp at h
  | case5 _ _ _ _ _ _ ih => have := ih h; simp only [List.length_cons]; omega
  | case6 => simp at h
  | case7 => simp at h
  | case8 _ _ _ _ _ _ _ ih => have := ih h; simp only [List.length_cons]; omega

def isHighSurrogate (unit : Nat) : Bool := 0xD800 ≤ unit && unit < 0xDC00

def isLowSurrogate (unit : Nat) : Bool := 0xDC00 ≤ unit && unit < 0xE000

/-- The text that units spell. A surrogate stands for a character only together with its other half. -/
def spell? : List CharUnit → Option (List Char)
  | [] => some []
  | .char c :: units => (spell? units).map (c :: ·)
  | .code high :: .code low :: units =>
    if isHighSurrogate high && isLowSurrogate low then
      (spell? units).map (Char.ofNat (0x10000 + 0x400 * (high - 0xD800) + (low - 0xDC00)) :: ·)
    else if isHighSurrogate high || isLowSurrogate high then none
    else (spell? (.code low :: units)).map (Char.ofNat high :: ·)
  | .code unit :: units =>
    if isHighSurrogate unit || isLowSurrogate unit then none
    else (spell? units).map (Char.ofNat unit :: ·)

def text? (units : List CharUnit) : Option String := (spell? units).map String.ofList

end ServiceContainer.Json

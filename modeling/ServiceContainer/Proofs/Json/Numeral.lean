import ServiceContainer.Json
import ServiceContainer.Json.Numeral
import ServiceContainer.Proofs.List
import ServiceContainer.Proofs.Number.Digits
import ServiceContainer.Proofs.Number.Rounding

/-!
# Numerals of numbers

Integers and finite doubles are written as JSON numerals, which are read as they were written. The numeral of a
double spells a number that rounds to it, and has a fraction or an exponent, so that no numeral is written for two
numbers.
-/

namespace ServiceContainer

namespace Json.Numeral

/-! ### Spelling -/

/-- Numerals as JSON has them: no needless zero in front, and digits behind the mark of an exponent. -/
structure IsProper (n : Numeral) : Prop where
  whole : IsWhole n.whole
  fraction : ∀ c ∈ n.fraction, c.isDigit = true
  exponent : ∀ e ∈ n.exponent, e.2 ≠ [] ∧ ∀ c ∈ e.2, c.isDigit = true

def signText (negative : Bool) : List Char := if negative then ['-'] else []

def fractionText (digits : List Char) : List Char := if digits = [] then [] else '.' :: digits

/-- Exponents show their sign, a plus as well. -/
def exponentText : Option (Bool × List Char) → List Char
  | none => []
  | some (negative, digits) => 'e' :: (if negative then '-' else '+') :: digits

def spelling (n : Numeral) : List Char :=
  signText n.negative ++ (n.whole ++ (fractionText n.fraction ++ exponentText n.exponent))

variable {n : Numeral}

theorem exponentOf?_exponentText {exponent : Option (Bool × List Char)}
    (proper : ∀ e ∈ exponent, e.2 ≠ [] ∧ ∀ c ∈ e.2, c.isDigit = true) :
    exponentOf? (exponentText exponent) = some exponent := by
  cases exponent with
  | none => rfl
  | some e =>
      obtain ⟨negative, digits⟩ := e
      obtain ⟨nonempty, each⟩ := proper _ rfl
      cases negative <;> simpa [exponentText, exponentOf?, nonempty] using each

theorem head?_exponentText {exponent : Option (Bool × List Char)} :
    ∀ c ∈ (exponentText exponent).head?, c = 'e' := by
  cases exponent with
  | none => exact nofun
  | some e => exact fun c hc => (Option.some.inj hc).symm

/-- A numeral is read as it was written. -/
theorem ofText?_spelling (proper : n.IsProper) : ofText? n.spelling = some n := by
  obtain ⟨negative, whole, fraction, exponent⟩ := n
  obtain ⟨hwhole, hfraction, hexponent⟩ := proper
  dsimp only at hwhole hfraction hexponent
  have hread := exponentOf?_exponentText hexponent
  have hmark : ∀ c ∈ (exponentText exponent).head?, c.isDigit = false := fun c hc => head?_exponentText c hc ▸ rfl
  have hpoint : (exponentText exponent).head? ≠ some '.' := fun hc => absurd (head?_exponentText '.' hc) (by decide)
  have hrest : ∀ c ∈ (fractionText fraction ++ exponentText exponent).head?, c.isDigit = false := by
    unfold fractionText
    split
    · exact hmark
    · exact fun c hc => Option.some.inj hc ▸ rfl
  obtain ⟨htake, hdrop⟩ := span_append hwhole.digits hrest
  obtain ⟨htake', hdrop'⟩ := span_append hfraction hmark
  have hfits : ¬ (whole = [] ∨ whole.head? = some '0' ∧ 1 < whole.length) := by
    rintro (hnil | ⟨hzero, hlength⟩)
    · exact hwhole.nonempty hnil
    · rw [hwhole.head hzero] at hlength
      exact absurd hlength (by decide)
  have hminus : (whole ++ (fractionText fraction ++ exponentText exponent)).head? ≠ some '-' := by
    obtain ⟨d, ds, rfl⟩ := List.exists_cons_of_ne_nil hwhole.nonempty
    intro hd
    have hdigit := hwhole.digits d List.mem_cons_self
    rw [Option.some.inj hd] at hdigit
    cases hdigit
  have hsign : (spelling ⟨negative, whole, fraction, exponent⟩).head? = some '-' ↔ negative = true := by
    cases negative with
    | false => simpa [spelling, signText] using hminus
    | true => simp [spelling, signText]
  have hunsigned : (if negative then (spelling ⟨negative, whole, fraction, exponent⟩).tail
      else spelling ⟨negative, whole, fraction, exponent⟩) =
        whole ++ (fractionText fraction ++ exponentText exponent) := by
    cases negative <;> rfl
  unfold ofText?
  simp only [hsign, hunsigned, htake, hdrop, Bool.or_eq_true, Bool.and_eq_true, decide_eq_true_eq, if_neg hfits,
    Bool.decide_eq_true]
  by_cases none : fraction = []
  · rw [fractionText, if_pos none, List.nil_append, if_neg hpoint, hread, none]
    rfl
  · rw [fractionText, if_neg none]
    simp [htake', hdrop', hread, none]

/-! ### Integers -/

def ofInt (n : Int64) : Numeral := ⟨n.toInt < 0, Nat.toDigits 10 n.toInt.natAbs, [], none⟩

theorem isProper_ofInt (n : Int64) : (ofInt n).IsProper := ⟨isWhole_toDigits _, nofun, nofun⟩

theorem spelling_ofInt (n : Int64) : (ofInt n).spelling = (toString n.toInt).toList := by
  rw [toString_int_eq_ofList, String.toList_ofList]
  simp [spelling, ofInt, signText, fractionText, exponentText]

theorem ofInt_injective {n n' : Int64} (same : ofInt n = ofInt n') : n = n' := by
  obtain ⟨hsign, hdigits, -, -⟩ := Numeral.mk.inj same
  have habs : n.toInt.natAbs = n'.toInt.natAbs := by
    rw [← digitsValue_toDigits n.toInt.natAbs, hdigits, digitsValue_toDigits]
  have hnegative := decide_eq_decide.mp hsign
  exact Int64.toInt_inj.mp (by omega)

/-! ### Decimals -/

/-- The numeral of a decimal without an exponent; the point stands behind, between or before its digits. -/
def positional (negative : Bool) (significand : ℕ) (exponent : ℤ) : Numeral :=
  let ds := Nat.toDigits 10 significand
  let behind := (-exponent).toNat
  if 0 ≤ exponent then ⟨negative, ds ++ List.replicate exponent.toNat '0', ['0'], none⟩
  else if behind < ds.length then ⟨negative, ds.take (ds.length - behind), ds.drop (ds.length - behind), none⟩
  else ⟨negative, ['0'], List.replicate (behind - ds.length) '0' ++ ds, none⟩

/-- One digit before the point, and the power of ten of that digit. -/
def scientific (negative : Bool) (significand : ℕ) (leading : ℤ) : Numeral :=
  let ds := Nat.toDigits 10 significand
  ⟨negative, ds.take 1, ds.drop 1, some (leading < 0, Nat.toDigits 10 leading.natAbs)⟩

/-- The numeral that reports have for a decimal. -/
def ofDecimal (d : Decimal) : Numeral :=
  let leading : ℤ := (Nat.toDigits 10 d.significand).length + d.exponent - 1
  if d.significand = 0 ∨ -5 ≤ leading ∧ leading ≤ 15 then positional d.negative d.significand d.exponent
  else scientific d.negative d.significand leading

theorem negative_ofDecimal (d : Decimal) : (ofDecimal d).negative = d.negative := by
  unfold ofDecimal positional
  dsimp only
  split <;> (try split) <;> (try split) <;> rfl

/-- Floats are told from integers. -/
theorem fraction_or_exponent_ofDecimal (d : Decimal) :
    (ofDecimal d).fraction ≠ [] ∨ (ofDecimal d).exponent ≠ none := by
  unfold ofDecimal
  dsimp only
  split
  · left
    have hne : Nat.toDigits 10 d.significand ≠ [] := Nat.toDigits_ne_nil
    unfold positional
    dsimp only
    split
    · exact List.cons_ne_nil _ _
    · split
      · rw [ne_eq, List.drop_eq_nil_iff]
        omega
      · exact List.append_ne_nil_of_right_ne_nil _ hne
  · exact .inr (Option.some_ne_none _)

theorem spelling_positional (negative : Bool) (significand : ℕ) (exponent : ℤ) :
    (positional negative significand exponent).spelling =
      signText negative ++ (FloatFormat.json.positionalText significand exponent).toList := by
  have hne : Nat.toDigits 10 significand ≠ [] := Nat.toDigits_ne_nil
  unfold positional FloatFormat.positionalText FloatFormat.digits FloatFormat.zeros
  dsimp only
  generalize Nat.toDigits 10 significand = ds at hne
  split
  · simp [spelling, fractionText, exponentText, FloatFormat.json]
  · split
    · rename_i inside
      have hdrop : ds.drop (ds.length - (-exponent).toNat) ≠ [] := by
        rw [ne_eq, List.drop_eq_nil_iff]
        omega
      simp [spelling, fractionText, exponentText, hdrop]
    · simp [spelling, fractionText, exponentText, hne]

theorem exponentText_int (leading : ℤ) :
    exponentText (some (leading < 0, Nat.toDigits 10 leading.natAbs)) =
      'e' :: ((if 0 ≤ leading then "+" else "") ++ toString leading).toList := by
  rw [toString_int_eq_ofList]
  rcases Int.lt_or_le leading 0 with negative | nonneg
  · simp [exponentText, negative, Int.not_le.mpr negative]
  · simp [exponentText, nonneg, Int.not_lt.mpr nonneg]

theorem spelling_scientific (negative : Bool) (significand : ℕ) (leading : ℤ) :
    (scientific negative significand leading).spelling =
      signText negative ++ (FloatFormat.json.exponentText significand leading).toList := by
  have hne : Nat.toDigits 10 significand ≠ [] := Nat.toDigits_ne_nil
  unfold scientific FloatFormat.exponentText
  dsimp only
  generalize Nat.toDigits 10 significand = ds at hne
  have hlength := List.length_pos_iff.mpr hne
  have hfraction : fractionText (ds.drop 1) =
      (if ds.length = 1 then "" else "." ++ String.ofList (ds.drop 1)).toList := by
    by_cases single : ds.length = 1
    · rw [if_pos single, List.drop_of_length_le (by omega)]
      rfl
    · have hdrop : ds.drop 1 ≠ [] := by
        rw [ne_eq, List.drop_eq_nil_iff]
        omega
      rw [if_neg single, fractionText, if_neg hdrop]
      simp
  rw [spelling]
  dsimp only
  rw [exponentText_int, hfraction]
  simp [FloatFormat.json]

theorem spelling_ofDecimal (d : Decimal) : (ofDecimal d).spelling = (FloatFormat.json.decimalText d).toList := by
  have hsign : (if d.negative then "-" else "").toList = signText d.negative := by cases d.negative <;> rfl
  unfold ofDecimal FloatFormat.decimalText
  dsimp only
  rw [String.toList_append, hsign]
  by_cases short : d.significand = 0 ∨ -5 ≤ (Nat.toDigits 10 d.significand).length + d.exponent - 1 ∧
      (Nat.toDigits 10 d.significand).length + d.exponent - 1 ≤ 15
  · rw [if_pos short, spelling_positional, if_pos (by simpa [FloatFormat.json] using short)]
  · rw [if_neg short, spelling_scientific, if_neg (by simpa [FloatFormat.json] using short)]

/-- Digits that begin like those of a number that is not zero. -/
theorem isWhole_of_head? {n : ℕ} (hn : 0 < n) {ds : List Char} (head : ds.head? = (Nat.toDigits 10 n).head?)
    (digits : ∀ c ∈ ds, c.isDigit = true) : IsWhole ds where
  nonempty hnil := by
    rw [hnil, eq_comm, List.head?_nil, List.head?_eq_none_iff] at head
    exact Nat.toDigits_ne_nil head
  digits := digits
  head hzero := absurd (head.symm.trans hzero) (toDigits_head_ne_zero hn)

theorem forall_mem_zeros (n : ℕ) : ∀ c ∈ List.replicate n '0', c.isDigit = true := fun _ hc =>
  List.eq_of_mem_replicate hc ▸ rfl

theorem isProper_positional (negative : Bool) {significand : ℕ} {exponent : ℤ}
    (hzero : significand = 0 → exponent = 0) : (positional negative significand exponent).IsProper := by
  have whole := isWhole_toDigits significand
  unfold positional
  dsimp only
  split
  · refine ⟨?_, by simp, nofun⟩
    rcases Nat.eq_zero_or_pos significand with rfl | hn
    · rw [hzero rfl]
      exact whole
    · refine isWhole_of_head? hn (List.head?_append_of_ne_nil _ whole.nonempty) ?_
      exact List.forall_mem_append.mpr ⟨whole.digits, forall_mem_zeros _⟩
  · have hn : 0 < significand := by
      apply Nat.pos_of_ne_zero
      intro hnone
      have hnothing := hzero hnone
      omega
    split
    · refine ⟨isWhole_of_head? hn ?_ fun c hc => whole.digits c (List.mem_of_mem_take hc),
        fun c hc => whole.digits c (List.mem_of_mem_drop hc), nofun⟩
      rw [List.head?_take, if_neg (by omega)]
    · exact ⟨isWhole_toDigits 0, List.forall_mem_append.mpr ⟨forall_mem_zeros _, whole.digits⟩, nofun⟩

theorem isProper_scientific (negative : Bool) {significand : ℕ} (hn : 0 < significand) (leading : ℤ) :
    (scientific negative significand leading).IsProper := by
  have whole := isWhole_toDigits significand
  refine ⟨isWhole_of_head? hn ?_ fun c hc => whole.digits c (List.mem_of_mem_take hc),
    fun c hc => whole.digits c (List.mem_of_mem_drop hc), ?_⟩
  · exact (List.head?_take ..).trans (if_neg Nat.one_ne_zero)
  · intro e he
    cases he
    exact ⟨(isWhole_toDigits _).nonempty, (isWhole_toDigits _).digits⟩

/-- A decimal without digits has to have nothing behind them. -/
theorem isProper_ofDecimal {d : Decimal} (hzero : d.significand = 0 → d.exponent = 0) : (ofDecimal d).IsProper := by
  unfold ofDecimal
  dsimp only
  split
  · exact isProper_positional _ hzero
  · exact isProper_scientific _ (by omega) _

/-! ### What numerals stand for -/

def shift : Option (Bool × List Char) → ℤ
  | none => 0
  | some (negative, digits) => if negative then -digitsValue digits else digitsValue digits

/-- The number that a numeral stands for, without its sign. -/
def magnitude (n : Numeral) : ℚ :=
  digitsValue (n.whole ++ n.fraction) * 10 ^ (shift n.exponent - n.fraction.length)

theorem magnitude_positional (negative : Bool) (significand : ℕ) (exponent : ℤ) :
    (positional negative significand exponent).magnitude = significand * 10 ^ exponent := by
  have hvalue := digitsValue_toDigits significand
  unfold positional magnitude
  dsimp only
  generalize Nat.toDigits 10 significand = ds at hvalue
  split
  · rename_i nonneg
    obtain ⟨k, rfl⟩ := Int.eq_ofNat_of_zero_le nonneg
    have htenth : shift none - (['0'].length : ℕ) = -1 := rfl
    rw [List.append_assoc, Int.toNat_natCast, ← List.replicate_succ', digitsValue_append, digitsValue_replicate_zero,
      hvalue, List.length_replicate, htenth, zpow_natCast, pow_succ]
    push_cast
    ring
  · split
    · rename_i negative inside
      have hexponent : shift none - ((ds.drop (ds.length - (-exponent).toNat)).length : ℕ) = exponent := by
        rw [shift, List.length_drop]
        omega
      rw [List.take_append_drop, hvalue, hexponent]
    · rename_i negative outside
      have hexponent : shift none -
          ((List.replicate ((-exponent).toNat - ds.length) '0' ++ ds).length : ℕ) = exponent := by
        rw [shift, List.length_append, List.length_replicate]
        omega
      rw [List.cons_append, List.nil_append, ← List.cons_append, ← List.replicate_succ, digitsValue_append,
        digitsValue_replicate_zero, hvalue, hexponent, Nat.mul_zero, Nat.zero_add]

theorem magnitude_scientific (negative : Bool) (significand : ℕ) (leading : ℤ) :
    (scientific negative significand leading).magnitude =
      significand * 10 ^ (leading - (Nat.toDigits 10 significand).length + 1) := by
  have hvalue := digitsValue_toDigits significand
  have hlength := List.length_pos_iff.mpr (isWhole_toDigits significand).nonempty
  have hshift : shift (some (leading < 0, Nat.toDigits 10 leading.natAbs)) = leading := by
    rw [shift, digitsValue_toDigits]
    split
    · rename_i negative
      have hnegative := of_decide_eq_true negative
      omega
    · rename_i nonneg
      have hnonneg := of_decide_eq_false (Bool.eq_false_of_not_eq_true nonneg)
      omega
  unfold scientific magnitude
  dsimp only
  rw [hshift, List.take_append_drop, hvalue, List.length_drop]
  congr 2
  omega

theorem magnitude_ofDecimal (d : Decimal) : (ofDecimal d).magnitude = d.magnitude := by
  unfold ofDecimal
  dsimp only
  split
  · rw [magnitude_positional, Decimal.magnitude]
  · rw [magnitude_scientific, Decimal.magnitude]
    congr 2
    omega

/-- The numeral of a finite double. -/
def ofFinite (negative : Bool) (rank : ℕ) : Numeral := ofDecimal (Decimal.shortest .even negative rank)

theorem isProper_ofFinite (negative : Bool) (rank : ℕ) : (ofFinite negative rank).IsProper :=
  isProper_ofDecimal Decimal.exponent_shortest_of_significand_eq_zero

theorem ofFinite_injective {negative negative' : Bool} {rank rank' : ℕ}
    (same : ofFinite negative rank = ofFinite negative' rank') : negative = negative' ∧ rank = rank' := by
  have hsign := congrArg Numeral.negative same
  have hmagnitude := congrArg magnitude same
  unfold ofFinite at hsign hmagnitude
  rw [negative_ofDecimal, negative_ofDecimal, Decimal.negative_shortest, Decimal.negative_shortest] at hsign
  rw [magnitude_ofDecimal, magnitude_ofDecimal] at hmagnitude
  have rounds := Decimal.rounds_shortest .even negative rank
  rw [hmagnitude] at rounds
  exact ⟨hsign, rounds.unique (Decimal.rounds_shortest .even negative' rank')⟩

end Json.Numeral

end ServiceContainer

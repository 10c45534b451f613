import ServiceContainer.Proofs.Number.Digits
import ServiceContainer.Proofs.Php.Lexer

/-!
# Numbers in generated code

The digits of a whole number are read as one integer, and the shortest digits of a finite float as one float.
A minus sign in front of either is a mark of its own.
-/

namespace ServiceContainer.Php.Lexer

variable {part part' : Part} {numeral cs ds whole fraction front : List Char} {c : Char}

theorem start_of_isDigit (hc : c.isDigit = true) : start c = some ([], .number .whole [c]) := by
  have ascii : c.toNat < 128 := by
    have hle := (Char.isDigit_iff_toNat.mp hc).2
    have hnine : '9'.toNat < 128 := by decide
    omega
  exact Text.of_forall_ascii (p := fun c => c.isDigit = true → start c = some ([], .number .whole [c]))
    (by decide +kernel) ascii hc

theorem next?_whole (hc : c.isDigit = true) : Part.next? .whole c = some .whole := by simp [Part.next?, hc]

theorem next?_fraction (hc : c.isDigit = true) : Part.next? .fraction c = some .fraction := by
  simp [Part.next?, hc]

theorem next?_exponent (hc : c.isDigit = true) : Part.next? .exponent c = some .exponent := by
  simp [Part.next?, hc]

theorem run_number_cons (hnext : part.next? c = some part') (cs : List Char) :
    run (.number part numeral) (c :: cs) = run (.number part' (numeral ++ [c])) cs := by
  have hstep : step (.number part numeral) c = some ([], .number part' (numeral ++ [c])) := by
    rw [step, hnext]
  rw [run_cons _ hstep, prepend_nil]

theorem run_digits (hpart : ∀ c : Char, c.isDigit = true → part.next? c = some part)
    (digits : ∀ c ∈ ds, c.isDigit = true) :
    run (.number part numeral) ds = some ([], .number part (numeral ++ ds)) := by
  induction ds generalizing numeral with
  | nil => simp [run]
  | cons d ds ih =>
      obtain ⟨hd, digits⟩ := List.forall_mem_cons.mp digits
      rw [run_number_cons (hpart d hd), ih digits, List.append_assoc]
      rfl

/-! ### Numerals -/

/-- A number that has come to the given part and is at hand at the end of the text. -/
structure IsNumeral (part : Part) (cs : List Char) : Prop where
  digit : cs.head?.any Char.isDigit = true
  read : run .gap cs = some ([], .number part cs)

theorem isNumeral_whole (hne : ds ≠ []) (digits : ∀ c ∈ ds, c.isDigit = true) : IsNumeral .whole ds := by
  obtain ⟨d, ds, rfl⟩ := List.exists_cons_of_ne_nil hne
  obtain ⟨hd, digits⟩ := List.forall_mem_cons.mp digits
  have hstep : step .gap d = some ([], .number .whole [d]) := start_of_isDigit hd
  refine ⟨by simpa using hd, ?_⟩
  rw [run_cons _ hstep, run_digits (fun _ => next?_whole) digits]
  rfl

theorem IsNumeral.append (hfront : IsNumeral part front)
    (hrest : run (.number part front) cs = some ([], .number part' (front ++ cs))) :
    IsNumeral part' (front ++ cs) := by
  refine ⟨?_, by rw [run_append _ hfront.read, hrest, prepend_nil]⟩
  have hdigit := hfront.digit
  cases front with
  | nil => cases hdigit
  | cons d ds => exact hdigit

theorem isNumeral_fraction (whole fraction : List Char) (hne : whole ≠ [])
    (hwhole : ∀ c ∈ whole, c.isDigit = true) (hfraction : ∀ c ∈ fraction, c.isDigit = true) :
    IsNumeral .fraction (whole ++ '.' :: fraction) := by
  have hpoint : Part.next? .whole '.' = some .fraction := rfl
  refine (isNumeral_whole hne hwhole).append ?_
  rw [run_number_cons hpoint, run_digits (fun _ => next?_fraction) hfraction, List.append_assoc]
  rfl

theorem toList_toString (n : Nat) : (toString n).toList = Nat.toDigits 10 n := by
  rw [Nat.toString_eq_ofList_toDigits, String.toList_ofList]

theorem isNumeral_toString (n : Nat) : IsNumeral .whole (toString n).toList := by
  rw [toList_toString]
  exact isNumeral_whole (isWhole_toDigits n).nonempty (isWhole_toDigits n).digits

theorem next?_of_isEnd (hc : isEnd c = true) (part : Part) : part.next? c = none := by
  simp only [isEnd, Bool.or_eq_true, decide_eq_true_eq, or_assoc] at hc
  rcases hc with rfl | rfl | rfl | rfl <;> cases part <;> decide

theorem IsNumeral.readsBefore {text : String} {token : Token} (hnumeral : IsNumeral part text.toList)
    (htoken : part.token? text.toList = some token) : ReadsBefore isEnd text [token] := by
  refine readsBefore_alone hnumeral.read fun c hc => ?_
  rw [step, next?_of_isEnd hc, htoken]
  rfl

/-! ### Signs -/

def sign (negative : Bool) : String := if negative then "-" else ""

def signTokens (negative : Bool) : List Token := if negative then [.mark "-"] else []

theorem readsBefore_minus : ReadsBefore (· ≠ '>') "-" [.mark "-"] := by
  have hrun : run .gap "-".toList = some ([], .mark '-') := rfl
  refine readsBefore_alone hrun fun c hc => ?_
  have single : ('-', c) ∉ pairs := by simpa [pairs] using hc
  rw [step, if_neg single]
  rfl

theorem readsBefore_sign (negative : Bool) {text : String} {tokens : List Token} {next : Char → Bool}
    (htext : ReadsBefore next text tokens) (hbegins : BeginsWith (· ≠ '>') text) :
    ReadsBefore next (sign negative ++ text) (signTokens negative ++ tokens) := by
  cases negative with
  | false => exact reads_empty.append_before htext
  | true => exact readsBefore_minus.append_before htext hbegins

theorem IsNumeral.beginsWith {text : String} (hnumeral : IsNumeral part text.toList) :
    BeginsWith (· ≠ '>') text := by
  have hdigit := hnumeral.digit
  unfold BeginsWith
  cases hchars : text.toList with
  | nil => simp [hchars] at hdigit
  | cons c cs =>
      simp only [hchars, List.head?_cons, Option.any_some] at hdigit
      simp only [List.head?_cons, Option.any_some, decide_eq_true_eq]
      rintro rfl
      cases hdigit

theorem toString_int (n : Int) : toString n = sign (n < 0) ++ toString n.natAbs := by
  cases n with
  | ofNat n => exact String.empty_append.symm
  | negSucc n =>
      have negative : decide (Int.negSucc n < 0) = true := decide_eq_true (Int.negSucc_lt_zero n)
      rw [negative]
      rfl

def intTokens (n : Int) : List Token := signTokens (n < 0) ++ [.integer (toString n.natAbs)]

theorem readsBefore_int (n : Int) : ReadsBefore isEnd (toString n) (intTokens n) := by
  have hnumeral := isNumeral_toString n.natAbs
  rw [toString_int]
  exact readsBefore_sign _ (hnumeral.readsBefore (by rw [Part.token?, String.ofList_toList])) hnumeral.beginsWith

/-! ### Floats -/

theorem isDigit_of_mem_zeros {n : Nat} (hc : c ∈ (FloatFormat.zeros n).toList) : c.isDigit = true := by
  rw [FloatFormat.zeros, String.toList_ofList] at hc
  rw [List.eq_of_mem_replicate hc]
  rfl

theorem isNumeral_positionalText (significand : Nat) (exponent : Int) :
    IsNumeral .fraction (FloatFormat.php.positionalText significand exponent).toList := by
  obtain ⟨hne, digits, -⟩ := isWhole_toDigits significand
  unfold FloatFormat.positionalText FloatFormat.digits
  generalize Nat.toDigits 10 significand = ds at digits hne
  by_cases isWhole : 0 ≤ exponent
  · simp only [if_pos isWhole, String.toList_append, String.toList_ofList]
    refine isNumeral_fraction _ ['0'] (by simp [hne]) ?_ (by simp)
    rw [List.forall_mem_append]
    exact ⟨digits, fun c hc => isDigit_of_mem_zeros hc⟩
  · by_cases inside : (-exponent).toNat < ds.length
    · simp only [if_neg isWhole, if_pos inside, String.toList_append, String.toList_ofList, List.append_assoc]
      refine isNumeral_fraction _ _ ?_ (fun c hc => digits c (List.mem_of_mem_take hc))
        fun c hc => digits c (List.mem_of_mem_drop hc)
      rw [ne_eq, List.take_eq_nil_iff, not_or]
      exact ⟨by omega, hne⟩
    · simp only [if_neg isWhole, if_neg inside, String.toList_append, String.toList_ofList, List.append_assoc]
      refine isNumeral_fraction ['0'] ((FloatFormat.zeros ((-exponent).toNat - ds.length)).toList ++ ds)
        (List.cons_ne_nil _ _) (by simp) ?_
      rw [List.forall_mem_append]
      exact ⟨fun c hc => isDigit_of_mem_zeros hc, digits⟩

theorem IsNumeral.exponent (hfront : IsNumeral part front) (hpart : part.next? 'e' = some .exponentMark)
    (leading : Int) : IsNumeral .exponent (front ++ 'e' :: (toString leading).toList) := by
  refine hfront.append ?_
  have digits : ∀ c ∈ (toString leading.natAbs).toList, c.isDigit = true := by
    rw [toList_toString]
    exact (isWhole_toDigits _).digits
  have hne : (toString leading.natAbs).toList ≠ [] := by
    rw [toList_toString]
    exact Nat.toDigits_ne_nil
  rw [toString_int, String.toList_append, run_number_cons hpart]
  generalize (toString leading.natAbs).toList = ds at digits hne
  obtain ⟨d, ds, rfl⟩ := List.exists_cons_of_ne_nil hne
  obtain ⟨hd, digits⟩ := List.forall_mem_cons.mp digits
  cases decide (leading < 0) with
  | false =>
      have hnext : Part.next? .exponentMark d = some .exponent := by simp [Part.next?, hd]
      rw [show (sign false).toList = [] from rfl, List.nil_append, run_number_cons hnext,
        run_digits (fun _ => next?_exponent) digits]
      simp
  | true =>
      have hminus : Part.next? .exponentMark '-' = some .exponentSign := rfl
      have hnext : Part.next? .exponentSign d = some .exponent := by simp [Part.next?, hd]
      rw [show (sign true).toList = ['-'] from rfl, List.cons_append, List.nil_append,
        run_number_cons hminus, run_number_cons hnext,
        run_digits (fun _ => next?_exponent) digits]
      simp

theorem isNumeral_exponentText (significand : Nat) (leading : Int) :
    IsNumeral .exponent (FloatFormat.php.exponentText significand leading).toList := by
  obtain ⟨hne, digits, -⟩ := isWhole_toDigits significand
  unfold FloatFormat.exponentText
  generalize Nat.toDigits 10 significand = ds at digits hne
  have hfirst : IsNumeral .whole (ds.take 1) :=
    isNumeral_whole (by simp [hne]) fun c hc => digits c (List.mem_of_mem_take hc)
  by_cases single : ds.length = 1
  · simp only [if_pos single, String.toList_append, String.toList_ofList, List.append_assoc]
    exact hfirst.exponent rfl leading
  · simp only [if_neg single, String.toList_append, String.toList_ofList, List.append_assoc]
    have hboth : IsNumeral .fraction (ds.take 1 ++ '.' :: ds.drop 1) :=
      isNumeral_fraction _ _ (by simp [hne]) (fun c hc => digits c (List.mem_of_mem_take hc))
        fun c hc => digits c (List.mem_of_mem_drop hc)
    have hexponent := hboth.exponent rfl leading
    rwa [List.append_assoc] at hexponent

theorem exists_numeral (d : Decimal) :
    ∃ numeral part, FloatFormat.php.decimalText d = sign d.negative ++ numeral ∧
      IsNumeral part numeral.toList ∧ part.token? numeral.toList = some (.float numeral) := by
  have either : ∀ (positional : Bool) (exponent leading : Int),
      ∃ numeral part, (if positional then FloatFormat.php.positionalText d.significand exponent
        else FloatFormat.php.exponentText d.significand leading) = numeral ∧
          IsNumeral part numeral.toList ∧ part.token? numeral.toList = some (.float numeral) := by
    intro positional exponent leading
    cases positional with
    | true => exact ⟨_, .fraction, rfl, isNumeral_positionalText _ _, by rw [Part.token?, String.ofList_toList]⟩
    | false => exact ⟨_, .exponent, rfl, isNumeral_exponentText _ _, by rw [Part.token?, String.ofList_toList]⟩
  obtain ⟨numeral, part, htext, hnumeral⟩ := either _ _ _
  exact ⟨numeral, part, congrArg (sign d.negative ++ ·) htext, hnumeral⟩

/-- The tokens of a float that reports show as the given text. -/
def floatTokens (text : String) : List Token :=
  if text = "NaN" then [.word "NAN"]
  else if text = "inf" then [.word "INF"]
  else if text = "-inf" then [.mark "-", .word "INF"]
  else
    match text.toList with
    | '-' :: numeral => [.mark "-", .float (String.ofList numeral)]
    | numeral => [.float (String.ofList numeral)]

theorem floatTokens_signed (negative : Bool) {numeral : String} (hnumeral : IsNumeral part numeral.toList) :
    floatTokens (sign negative ++ numeral) = signTokens negative ++ [.float numeral] := by
  have hdigit := hnumeral.digit
  cases hchars : numeral.toList with
  | nil => simp [hchars] at hdigit
  | cons d ds =>
      have hd : d.isDigit = true := by simpa [hchars] using hdigit
      have apart : ∀ c : Char, c.isDigit = false → d ≠ c := by
        rintro c hc rfl
        simp [hc] at hd
      have hN := apart 'N' rfl
      have hi := apart 'i' rfl
      have hminus := apart '-' rfl
      obtain rfl : numeral = String.ofList (d :: ds) := by rw [← hchars, String.ofList_toList]
      cases negative with
      | false => simp [floatTokens, ← String.toList_inj, sign, signTokens, hN, hi, hminus]
      | true => simp [floatTokens, ← String.toList_inj, sign, signTokens, hi]

theorem readsBefore_float (x : Double) :
    ReadsBefore isEnd (FloatFormat.php.text x) (floatTokens (FloatFormat.report.text x)) := by
  have infinity : ReadsBefore isEnd "INF" [.word "INF"] := readsBefore_constant (by decide +kernel)
  cases x with
  | nan => exact readsBefore_constant (by decide +kernel)
  | infinite negative =>
      cases negative with
      | false => exact infinity
      | true => exact readsBefore_sign true infinity (by decide)
  | finite negative rank =>
      obtain ⟨numeral, part, htext, hnumeral, htoken⟩ := exists_numeral (Decimal.shortest .up negative rank)
      have hreport : FloatFormat.report.text (.finite negative rank) = sign _ ++ numeral := htext
      have hphp : FloatFormat.php.text (.finite negative rank) = sign _ ++ numeral := htext
      rw [hreport, hphp, floatTokens_signed _ hnumeral]
      exact readsBefore_sign _ (hnumeral.readsBefore htoken) hnumeral.beginsWith

end ServiceContainer.Php.Lexer

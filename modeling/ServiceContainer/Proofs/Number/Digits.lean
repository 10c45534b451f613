import Mathlib.Algebra.Order.Ring.Int
import ServiceContainer.Number.Decimal

/-!
# Decimal digits

The digits of a whole number spell that number, and no others do without a zero in front.
-/

namespace ServiceContainer

/-- Digits as a whole number is written: a zero in front stands alone. -/
structure IsWhole (ds : List Char) : Prop where
  nonempty : ds ≠ []
  digits : ∀ c ∈ ds, c.isDigit = true
  head : ds.head? = some '0' → ds = ['0']

/-! ### What digits spell -/

theorem digitsValue_singleton (d : Char) : digitsValue [d] = d.toNat - '0'.toNat := by
  rw [digitsValue, List.foldl_cons, List.foldl_nil, Nat.mul_zero, Nat.zero_add]

theorem digitsValue_append (front back : List Char) :
    digitsValue (front ++ back) = 10 ^ back.length * digitsValue front + digitsValue back :=
  calc digitsValue (front ++ back)
    _ = Nat.ofDigitChars 10 back (digitsValue front) := Nat.ofDigitChars_append 0
    _ = 10 ^ back.length * digitsValue front + digitsValue back := Nat.ofDigitChars_eq_ofDigitChars_zero

theorem digitsValue_replicate_zero (n : Nat) : digitsValue (List.replicate n '0') = 0 := by
  have hzero : Nat.ofDigitChars 10 (List.replicate n '0') 0 = 10 ^ n * 0 := Nat.ofDigitChars_replicate_zero
  rwa [Nat.mul_zero] at hzero

theorem digitsValue_toDigits (n : Nat) : digitsValue (Nat.toDigits 10 n) = n :=
  Nat.ofDigitChars_toDigits (by decide) (by decide)

/-! ### What a number is written as -/

theorem digitChar_of_isDigit {c : Char} (hc : c.isDigit = true) :
    c.toNat - '0'.toNat < 10 ∧ Nat.digitChar (c.toNat - '0'.toNat) = c := by
  obtain ⟨hlow, hhigh⟩ := Char.isDigit_iff_toNat.mp hc
  have hzero : '0'.toNat = 48 := rfl
  have hnine : '9'.toNat = 57 := rfl
  have hlt : c.toNat - '0'.toNat < 10 := by omega
  refine ⟨hlt, Char.toNat_inj.mp ?_⟩
  rw [Nat.toNat_digitChar_of_lt_ten hlt]
  omega

/-- Digits behind a number that is not zero extend what it is written as. -/
theorem toDigits_append {n : Nat} (hn : 0 < n) {ds : List Char} (digits : ∀ c ∈ ds, c.isDigit = true) :
    Nat.toDigits 10 n ++ ds = Nat.toDigits 10 (10 ^ ds.length * n + digitsValue ds) := by
  induction ds generalizing n with
  | nil => simp [digitsValue]
  | cons d ds ih =>
      obtain ⟨hd, hds⟩ := List.forall_mem_cons.mp digits
      obtain ⟨hlt, hchar⟩ := digitChar_of_isDigit hd
      have hvalue : digitsValue (d :: ds) = 10 ^ ds.length * (d.toNat - '0'.toNat) + digitsValue ds := by
        rw [← List.singleton_append, digitsValue_append, digitsValue_singleton]
      calc Nat.toDigits 10 n ++ d :: ds
        _ = (Nat.toDigits 10 n ++ Nat.toDigits 10 (d.toNat - '0'.toNat)) ++ ds := by
            rw [Nat.toDigits_of_lt_base hlt, hchar, List.append_assoc, List.singleton_append]
        _ = Nat.toDigits 10 (10 * n + (d.toNat - '0'.toNat)) ++ ds := by
            rw [Nat.toDigits_append_toDigits (by decide) hn hlt]
        _ = Nat.toDigits 10 (10 ^ ds.length * (10 * n + (d.toNat - '0'.toNat)) + digitsValue ds) :=
            ih (by omega) hds
        _ = Nat.toDigits 10 (10 ^ (d :: ds).length * n + digitsValue (d :: ds)) := by
            rw [hvalue, List.length_cons, Nat.pow_succ, Nat.mul_add, Nat.mul_assoc, Nat.add_assoc]

theorem toDigits_head_ne_zero {n : Nat} (hn : 0 < n) : (Nat.toDigits 10 n).head? ≠ some '0' := by
  induction n using Nat.strongRecOn with
  | _ n ih =>
      rw [Nat.toDigits_eq_if (by decide)]
      split
      · rename_i hlt
        intro hzero
        have hchar := congrArg Char.toNat (Option.some.inj hzero)
        rw [Nat.toNat_digitChar_of_lt_ten hlt] at hchar
        have hfortyEight : '0'.toNat = 48 := rfl
        omega
      · rename_i hge
        have hfront := ih (n / 10) (by omega) (by omega)
        rw [List.head?_append, Option.or_of_isSome (List.isSome_head?.mpr Nat.toDigits_ne_nil)]
        exact hfront

theorem isWhole_toDigits (n : Nat) : IsWhole (Nat.toDigits 10 n) where
  nonempty := Nat.toDigits_ne_nil
  digits _ hc := Nat.isDigit_of_mem_toDigits (by decide) (by decide) hc
  head hzero := by
    rcases Nat.eq_zero_or_pos n with rfl | hn
    · rfl
    · exact absurd hzero (toDigits_head_ne_zero hn)

/-- A whole number is written in one way only. -/
theorem IsWhole.toDigits_digitsValue {ds : List Char} (whole : IsWhole ds) :
    Nat.toDigits 10 (digitsValue ds) = ds := by
  obtain ⟨d, rest, rfl⟩ := List.exists_cons_of_ne_nil whole.nonempty
  by_cases hzero : d = '0'
  · subst hzero
    rw [whole.head rfl]
    rfl
  · obtain ⟨hd, hrest⟩ := List.forall_mem_cons.mp whole.digits
    obtain ⟨hlt, hchar⟩ := digitChar_of_isDigit hd
    have hpos : 0 < d.toNat - '0'.toNat := by
      apply Nat.pos_of_ne_zero
      intro hvalue
      rw [hvalue] at hchar
      exact hzero hchar.symm
    calc Nat.toDigits 10 (digitsValue (d :: rest))
      _ = Nat.toDigits 10 (10 ^ rest.length * (d.toNat - '0'.toNat) + digitsValue rest) := by
          rw [← List.singleton_append, digitsValue_append, digitsValue_singleton]
      _ = Nat.toDigits 10 (d.toNat - '0'.toNat) ++ rest := (toDigits_append hpos hrest).symm
      _ = d :: rest := by rw [Nat.toDigits_of_lt_base hlt, hchar, List.singleton_append]

theorem toString_int_eq_ofList (n : Int) :
    toString n = String.ofList ((if n < 0 then ['-'] else []) ++ Nat.toDigits 10 n.natAbs) := by
  rw [Int.toString_eq_repr, Int.repr_eq_if]
  rcases Int.lt_or_le n 0 with negative | nonneg
  · have habs : (-n).toNat = n.natAbs := by omega
    rw [if_neg (by omega), if_pos negative, habs, Nat.repr_eq_ofList_toDigits, String.ofList_append]
  · have habs : n.toNat = n.natAbs := by omega
    rw [if_pos nonneg, if_neg (by omega), habs, Nat.repr_eq_ofList_toDigits, List.nil_append]

end ServiceContainer

import Mathlib.Algebra.Order.Field.Power
import Mathlib.Algebra.Order.Ring.Rat
import Mathlib.Order.Monotone.Basic
import Mathlib.Tactic.FieldSimp
import Mathlib.Tactic.Linarith
import Mathlib.Tactic.Positivity
import Mathlib.Tactic.Ring
import ServiceContainer.Number.Shortest

/-!
# Decimals of doubles

The shortest decimal of a double lies no further from it than half-way to its neighbours. No number lies as near to
two doubles, so the decimal tells which double it was made for.
-/

namespace ServiceContainer

theorem pow_toNat_div {b : ℕ} (hb : 0 < b) (e : ℤ) : (b ^ e.toNat : ℚ) / b ^ (-e).toNat = (b : ℚ) ^ e := by
  have hne : (b : ℚ) ≠ 0 := by positivity
  rw [← zpow_natCast, ← zpow_natCast, ← zpow_sub₀ hne]
  congr 1
  omega

namespace Double

/-! ### Magnitudes -/

/-- The number that a finite double stands for, without its sign. -/
def magnitude (rank : ℕ) : ℚ := significand rank * 2 ^ power rank

/-- Half-way between the magnitudes of a rank and of the next one. -/
def midpoint (rank : ℕ) : ℚ := (magnitude rank + magnitude (rank + 1)) / 2

theorem significand_mod_two (rank : ℕ) : significand rank % 2 = rank % 2 := by
  unfold significand
  simp only [Nat.pow_eq]
  split <;> omega

/-- The next magnitude has the next significand, unless these start over with the next power of two. -/
theorem succ_cases (n : ℕ) :
    (significand (n + 1) = significand n + 1 ∧ power (n + 1) = power n ∧
      ¬ (significand (n + 1) = 2 ^ 52 ∧ -1074 < power (n + 1))) ∨
    (significand (n + 1) = 2 ^ 52 ∧ significand n + 1 = 2 ^ 53 ∧ power (n + 1) = power n + 1 ∧
      -1074 < power (n + 1)) := by
  unfold significand power
  simp only [Nat.pow_eq]
  split <;> split <;> omega

theorem magnitude_succ (n : ℕ) : magnitude (n + 1) = magnitude n + 2 ^ power n := by
  unfold magnitude
  obtain ⟨hsignificand, hpower, -⟩ | ⟨hstart, hlast, hpower, -⟩ := succ_cases n
  · rw [hsignificand, hpower]
    push_cast
    ring
  · have hfull : (significand n : ℚ) = 2 ^ 53 - 1 := by
      rw [eq_sub_iff_add_eq]
      exact_mod_cast hlast
    rw [hstart, hpower, hfull, zpow_add_one₀ two_ne_zero]
    push_cast
    ring

theorem magnitude_zero : magnitude 0 = 0 := by
  have hzero : significand 0 = 0 := rfl
  rw [magnitude, hzero, Nat.cast_zero, zero_mul]

theorem magnitude_strictMono : StrictMono magnitude := by
  refine strictMono_nat_of_lt_succ fun n => ?_
  have hgap : (0 : ℚ) < 2 ^ power n := by positivity
  rw [magnitude_succ]
  linarith

theorem midpoint_strictMono : StrictMono midpoint := by
  refine strictMono_nat_of_lt_succ fun n => ?_
  have hlow := magnitude_strictMono (Nat.lt_succ_self n)
  have hhigh := magnitude_strictMono (Nat.lt_succ_self (n + 1))
  unfold midpoint
  linarith

theorem midpoint_pos (n : ℕ) : 0 < midpoint n := by
  have hle := midpoint_strictMono.monotone (Nat.zero_le n)
  have hone := magnitude_strictMono Nat.zero_lt_one
  have hzero := magnitude_zero
  unfold midpoint at hle ⊢
  linarith

/-! ### Rounding -/

/-- The numbers that are nearest to a magnitude. Those half-way to a neighbour belong to the even one of both ranks;
nothing but zero is counted to the rank of zero. -/
inductive Rounds : ℚ → ℕ → Prop
  | zero : Rounds 0 0
  | succ {n : ℕ} {x : ℚ} (low : midpoint n ≤ x) (high : x ≤ midpoint (n + 1))
      (inside : n % 2 = 0 → midpoint n < x ∧ x < midpoint (n + 1)) : Rounds x (n + 1)

variable {x : ℚ} {m n : ℕ}

theorem Rounds.pos (rounds : Rounds x (n + 1)) : 0 < x := by
  cases rounds with
  | succ low => exact lt_of_lt_of_le (midpoint_pos n) low

theorem Rounds.not_lt (rounds : Rounds x m) (rounds' : Rounds x n) : ¬ m < n := by
  intro hlt
  cases rounds with
  | zero =>
      cases rounds' with
      | zero => exact absurd hlt (Nat.lt_irrefl 0)
      | @succ n _ low => exact absurd low (not_le.mpr (midpoint_pos n))
  | @succ m _ _ high inside =>
      cases rounds' with
      | zero => exact absurd hlt (Nat.not_lt_zero _)
      | @succ n _ low' _ inside' =>
          -- only neighbours share an end, and one of two neighbours does without its ends
          have hle : m + 1 ≤ n := Nat.lt_succ_iff.mp hlt
          rcases Nat.lt_or_eq_of_le hle with hbetween | rfl
          · have hapart := midpoint_strictMono hbetween
            linarith
          · rcases Nat.mod_two_eq_zero_or_one m with heven | hodd
            · have hinside := (inside heven).2
              linarith
            · have hinside := (inside' (by omega)).1
              linarith

theorem Rounds.unique (rounds : Rounds x m) (rounds' : Rounds x n) : m = n :=
  Nat.le_antisymm (Nat.not_lt.mp (rounds'.not_lt rounds)) (Nat.not_lt.mp (rounds.not_lt rounds'))

theorem rounds_magnitude (n : ℕ) : Rounds (magnitude n) n := by
  cases n with
  | zero =>
      rw [magnitude_zero]
      exact .zero
  | succ n =>
      have hlow := magnitude_strictMono (Nat.lt_succ_self n)
      have hhigh := magnitude_strictMono (Nat.lt_succ_self (n + 1))
      have hinside : midpoint n < magnitude (n + 1) ∧ magnitude (n + 1) < midpoint (n + 1) := by
        unfold midpoint
        constructor <;> linarith
      exact .succ hinside.1.le hinside.2.le fun _ => hinside

end Double

/-! ### The interval of a magnitude -/

namespace RoundingInterval

open Double

/-- Numbers over the denominator of the interval. -/
theorem ofRank_scale (rank k : ℕ) :
    ((k * Nat.pow 2 (power rank - 2).toNat : ℕ) : ℚ) / (ofRank rank).den = k * 2 ^ power rank / 4 := by
  have hscale := pow_toNat_div Nat.two_pos (power rank - 2)
  have hpower : (2 : ℚ) ^ (power rank - 2) = 2 ^ power rank / 4 := by
    rw [zpow_sub₀ two_ne_zero]
    norm_num
  have hden : (ofRank rank).den = 2 ^ (-(power rank - 2)).toNat := rfl
  rw [Nat.cast_ofNat] at hscale
  rw [hden, Nat.pow_eq, Nat.cast_mul, Nat.cast_pow, Nat.cast_pow, Nat.cast_ofNat, mul_div_assoc, hscale, hpower,
    mul_div_assoc]

theorem ofRank_high (n : ℕ) : ((ofRank (n + 1)).high : ℚ) / (ofRank (n + 1)).den = Double.midpoint (n + 1) := by
  have hscale := ofRank_scale (n + 1) (4 * significand (n + 1) + 2)
  have hnext := magnitude_succ (n + 1)
  have hhigh : (ofRank (n + 1)).high =
      (4 * significand (n + 1) + 2) * Nat.pow 2 (power (n + 1) - 2).toNat := rfl
  rw [hhigh, hscale, Double.midpoint, hnext, magnitude]
  push_cast
  ring

theorem ofRank_low (n : ℕ) : ((ofRank (n + 1)).low : ℚ) / (ofRank (n + 1)).den = Double.midpoint n := by
  have hlow : (ofRank (n + 1)).low = (4 * significand (n + 1) -
      if significand (n + 1) = Nat.pow 2 52 ∧ -1076 < power (n + 1) - 2 then 1 else 2) *
        Nat.pow 2 (power (n + 1) - 2).toNat := rfl
  have hbefore : magnitude n = significand (n + 1) * 2 ^ power (n + 1) - 2 ^ power n :=
    eq_sub_of_add_eq (magnitude_succ n).symm
  rw [hlow, ofRank_scale, Double.midpoint, hbefore, magnitude]
  obtain ⟨hsignificand, hpower, hnot⟩ | ⟨hstart, -, hpower, hleast⟩ := succ_cases n
  · rw [if_neg (by rw [Nat.pow_eq]; omega), Nat.cast_sub (by omega), hpower]
    push_cast
    ring
  · rw [if_pos (by rw [Nat.pow_eq]; omega), Nat.cast_sub (by omega), hpower, zpow_add_one₀ two_ne_zero]
    push_cast
    ring

theorem ofRank_closed_iff (n : ℕ) : (ofRank (n + 1)).closed = true ↔ n % 2 = 1 := by
  have hclosed : (ofRank (n + 1)).closed = decide (significand (n + 1) % 2 = 0) := rfl
  rw [hclosed, decide_eq_true_eq, significand_mod_two]
  omega

/-- Fractions in the interval of a double round to it. -/
theorem rounds_of_contains {n num den : ℕ} (hden : 0 < den) (inside : (ofRank (n + 1)).contains num den = true) :
    Rounds (num / den) (n + 1) := by
  have hd : (0 : ℚ) < den := by exact_mod_cast hden
  have hiden : (0 : ℚ) < (ofRank (n + 1)).den := by
    have hpos : 0 < (ofRank (n + 1)).den := Nat.pow_pos Nat.two_pos
    exact_mod_cast hpos
  unfold contains at inside
  split at inside
  · rename_i closed
    simp only [Bool.and_eq_true, decide_eq_true_eq] at inside
    refine .succ ?_ ?_ fun heven => ?_
    · rw [← ofRank_low, div_le_div_iff₀ hiden hd]
      exact_mod_cast inside.1
    · rw [← ofRank_high, div_le_div_iff₀ hd hiden]
      exact_mod_cast inside.2
    · have hodd := (ofRank_closed_iff n).mp closed
      omega
  · simp only [Bool.and_eq_true, decide_eq_true_eq] at inside
    have hlow : Double.midpoint n < num / den := by
      rw [← ofRank_low, div_lt_div_iff₀ hiden hd]
      exact_mod_cast inside.1
    have hhigh : (num : ℚ) / den < Double.midpoint (n + 1) := by
      rw [← ofRank_high, div_lt_div_iff₀ hd hiden]
      exact_mod_cast inside.2
    exact .succ hlow.le hhigh.le fun _ => ⟨hlow, hhigh⟩

/-- A point that is found on a grid lies in the interval. -/
theorem contains_of_gridPoint? {i : RoundingInterval} {tie : Tie} {exponent : ℤ} {point : ℕ}
    (found : i.gridPoint? tie exponent = some point) :
    i.contains (point * 10 ^ exponent.toNat) (10 ^ (-exponent).toNat) = true := by
  unfold gridPoint? at found
  simp only [Nat.pow_eq] at found
  generalize i.value * 10 ^ (-exponent).toNat / (i.den * 10 ^ exponent.toNat) = floor at found
  split at found
  · rename_i both
    rw [Bool.and_eq_true] at both
    have either : point = floor + 1 ∨ point = floor := by
      rw [← Option.some.inj found]
      exact ite_eq_or_eq _ _ _
    rcases either with rfl | rfl
    · exact both.2
    · exact both.1
  · split at found
    · rename_i inside
      rwa [← Option.some.inj found]
    · split at found
      · rename_i inside
        rwa [← Option.some.inj found]
      · cases found

end RoundingInterval

/-! ### The shortest decimal -/

namespace Decimal

open Double RoundingInterval

/-- The number that a decimal stands for, without its sign. -/
def magnitude (d : Decimal) : ℚ := d.significand * 10 ^ d.exponent

theorem magnitude_dropZeros (n : ℕ) (d : Decimal) :
    (dropZeros n d).magnitude = d.magnitude ∧ (dropZeros n d).negative = d.negative := by
  induction n generalizing d with
  | zero => exact ⟨rfl, rfl⟩
  | succ n ih =>
      rw [dropZeros]
      split
      · rename_i zero
        have hshift : ({ d with significand := d.significand / 10, exponent := d.exponent + 1 } : Decimal).magnitude =
            d.magnitude := by
          have htens : (d.significand : ℚ) = (d.significand / 10 : ℕ) * 10 := by
            exact_mod_cast (Nat.div_mul_cancel (Nat.dvd_of_mod_eq_zero zero.2)).symm
          unfold magnitude
          rw [htens, zpow_add_one₀ (by norm_num)]
          ring
        rw [(ih _).1, (ih _).2, hshift]
        exact ⟨rfl, rfl⟩
      · exact ⟨rfl, rfl⟩

theorem magnitude_exact (negative : Bool) (rank : ℕ) : (exact negative rank).magnitude = Double.magnitude rank := by
  unfold exact magnitude Double.magnitude
  simp only [Nat.pow_eq]
  rcases le_total 0 (power rank) with nonneg | nonpos
  · have hfive : (-power rank).toNat = 0 := by omega
    have hexponent : min (power rank) 0 = 0 := by omega
    rw [hfive, hexponent]
    push_cast
    rw [← zpow_natCast (2 : ℚ), Int.toNat_of_nonneg nonneg]
    ring
  · obtain ⟨k, hk⟩ : ∃ k : ℕ, power rank = -k := ⟨(-power rank).toNat, by omega⟩
    have htwo : (power rank).toNat = 0 := by omega
    have hfive : (-power rank).toNat = k := by omega
    have hexponent : min (power rank) 0 = -k := by omega
    rw [htwo, hfive, hexponent, hk]
    push_cast
    rw [zpow_neg, zpow_neg, zpow_natCast, zpow_natCast, show (10 : ℚ) = 2 * 5 by norm_num, mul_pow]
    field_simp

/-- The shortest decimal is a point of some grid in the interval of the double, or the double itself. -/
theorem shortest_cases (tie : Tie) (negative : Bool) {rank : ℕ} (hne : rank ≠ 0) :
    (∃ point exponent, (RoundingInterval.ofRank rank).gridPoint? tie exponent = some point ∧
      shortest tie negative rank = dropZeros 17 ⟨negative, point, exponent⟩) ∨
    shortest tie negative rank = exact negative rank := by
  unfold shortest
  rw [if_neg hne]
  dsimp only
  generalize hfound : List.findSome? _ (List.range' 1 17) = found
  cases found with
  | none => exact .inr rfl
  | some d =>
      obtain ⟨digits, -, hmap⟩ := List.exists_of_findSome?_eq_some hfound
      obtain ⟨point, hpoint, rfl⟩ := Option.map_eq_some_iff.mp hmap
      exact .inl ⟨point, _, hpoint, rfl⟩

theorem negative_shortest (tie : Tie) (negative : Bool) (rank : ℕ) :
    (shortest tie negative rank).negative = negative := by
  by_cases hzero : rank = 0
  · subst hzero
    rfl
  · rcases shortest_cases tie negative hzero with ⟨point, exponent, -, heq⟩ | heq
    · rw [heq, (magnitude_dropZeros 17 _).2]
    · rw [heq]
      rfl

/-- The decimal that is chosen for a double rounds to it. -/
theorem rounds_shortest (tie : Tie) (negative : Bool) (rank : ℕ) :
    Rounds (shortest tie negative rank).magnitude rank := by
  cases rank with
  | zero =>
      have hmagnitude : (shortest tie negative 0).magnitude = 0 := by simp [shortest, magnitude]
      rw [hmagnitude]
      exact .zero
  | succ n =>
      rcases shortest_cases tie negative n.succ_ne_zero with ⟨point, exponent, found, heq⟩ | heq
      · have rounds := rounds_of_contains (Nat.pow_pos (by decide)) (contains_of_gridPoint? found)
        rw [Nat.cast_mul, Nat.cast_pow, Nat.cast_pow, mul_div_assoc, pow_toNat_div (by decide)] at rounds
        rw [heq, (magnitude_dropZeros 17 _).1]
        exact rounds
      · rw [heq, magnitude_exact]
        exact rounds_magnitude _

/-- A decimal without digits is written for zero only, and with nothing behind it. -/
theorem exponent_shortest_of_significand_eq_zero {tie : Tie} {negative : Bool} {rank : ℕ}
    (hzero : (shortest tie negative rank).significand = 0) : (shortest tie negative rank).exponent = 0 := by
  cases rank with
  | zero => rfl
  | succ n =>
      have hpos := (rounds_shortest tie negative (n + 1)).pos
      rw [magnitude, hzero, Nat.cast_zero, zero_mul] at hpos
      exact absurd hpos (lt_irrefl 0)

end Decimal

end ServiceContainer

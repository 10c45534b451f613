import Mathlib.Logic.Function.Defs
import ServiceContainer.Key
import ServiceContainer.Proofs.Number.Digits
import Std.Data.String.ToInt

/-!
# Keys and their texts

A key that is read from a text keeps that text, so the text decides which key it is: an index if it is the one way
to write an integer of 64 bits, and a name otherwise.
-/

namespace ServiceContainer

/-! ### How integers are written -/

/-- The digits of a whole number, behind a minus sign if it is negative. -/
inductive SpellsInt : String → Int → Prop
  | unsigned {ds : List Char} (whole : IsWhole ds) : SpellsInt (String.ofList ds) (digitsValue ds)
  | negative {ds : List Char} (whole : IsWhole ds) (nonzero : ds ≠ ['0']) :
      SpellsInt (String.ofList ('-' :: ds)) (-(digitsValue ds : Int))

theorem toString_of_spellsInt {s : String} {n : Int} (spells : SpellsInt s n) : toString n = s := by
  cases spells with
  | @unsigned ds whole =>
      rw [toString_int_eq_ofList, if_neg (by omega), List.nil_append, Int.natAbs_natCast, whole.toDigits_digitsValue]
  | @negative ds whole nonzero =>
      have hvalue : digitsValue ds ≠ 0 := by
        intro hzero
        apply nonzero
        rw [← whole.toDigits_digitsValue, hzero]
        rfl
      rw [toString_int_eq_ofList, if_pos (by omega), Int.natAbs_neg, Int.natAbs_natCast, whole.toDigits_digitsValue,
        List.singleton_append]

theorem spellsInt_toString (n : Int) : SpellsInt (toString n) n := by
  have whole := isWhole_toDigits n.natAbs
  have hvalue := digitsValue_toDigits n.natAbs
  rw [toString_int_eq_ofList]
  rcases Int.lt_or_le n 0 with negative | nonneg
  · have nonzero : Nat.toDigits 10 n.natAbs ≠ ['0'] := by
      intro hzero
      rw [hzero] at hvalue
      have habs : 0 = n.natAbs := hvalue
      omega
    have spells := SpellsInt.negative whole nonzero
    rw [hvalue, show -(n.natAbs : Int) = n by omega] at spells
    rwa [if_pos negative, List.singleton_append]
  · have spells := SpellsInt.unsigned whole
    rw [hvalue, show (n.natAbs : Int) = n by omega] at spells
    rwa [if_neg (Int.not_lt.mpr nonneg), List.nil_append]

theorem spellsInt_iff {s : String} {n : Int} : SpellsInt s n ↔ toString n = s := by
  constructor
  · exact toString_of_spellsInt
  · rintro rfl
    exact spellsInt_toString n

/-! ### Which key a text is -/

namespace Key

variable {name : String} {i : Int64}

theorem ofName_toString (i : Int64) : ofName (toString i.toInt) = .index i := by
  have hread : (toString i.toInt).toInt? = some i.toInt := Int.toInt?_repr i.toInt
  rw [ofName, hread]
  dsimp only
  rw [if_pos ⟨i.minValue_le_toInt, i.toInt_le, rfl⟩, Int64.ofInt_toInt]

theorem toString_of_ofName_eq_index (hindex : ofName name = .index i) : toString i.toInt = name := by
  unfold ofName at hindex
  split at hindex
  · rename_i n hread
    split at hindex
    · rename_i written
      obtain ⟨hlow, hhigh, htext⟩ := written
      have hmin : Int64.minValue.toInt = -2 ^ 63 := rfl
      have hmax : Int64.maxValue.toInt = 2 ^ 63 - 1 := rfl
      rw [← Key.index.inj hindex, Int64.toInt_ofInt_of_le (by omega) (by omega)]
      exact htext
    · cases hindex
  · cases hindex

theorem ofName_eq_index_iff : ofName name = .index i ↔ SpellsInt name i.toInt := by
  rw [spellsInt_iff]
  constructor
  · exact toString_of_ofName_eq_index
  · rintro rfl
    exact ofName_toString i

theorem eq_of_ofName_eq_name {s : String} (hname : ofName name = .name s) : s = name := by
  unfold ofName at hname
  split at hname
  · split at hname
    · cases hname
    · exact (Key.name.inj hname).symm
  · exact (Key.name.inj hname).symm

theorem text_ofName (name : String) : (ofName name).text = name := by
  cases hkey : ofName name with
  | index i => exact toString_of_ofName_eq_index hkey
  | name s => exact eq_of_ofName_eq_name hkey

theorem ofName_injective : Function.Injective ofName := by
  intro m n heq
  rw [← text_ofName m, heq, text_ofName]

end Key

end ServiceContainer

import ServiceContainer.Proofs.Text.Uppercase

/-!
# ASCII case

Where a capital sigma stands decides what it becomes, but all that counts of the characters around it is whether
they have case, and an ASCII letter has it as a capital and as a small letter. So texts that differ in ASCII case
only have the same lower case.
-/

namespace ServiceContainer.Text

theorem toLower_toUpper_of_ascii {c : Char} (hc : c.toNat < 128) : c.toUpper.toLower = c.toLower :=
  of_forall_ascii (p := fun c => c.toUpper.toLower = c.toLower) (by decide) hc

theorem toLower_of_not_ascii {c : Char} (hc : 128 ≤ c.toNat) : c.toLower = c := by
  have hlt : ¬ c.val ≤ 'Z'.val := by
    rw [UInt32.not_le]
    exact Nat.lt_of_lt_of_le (show 'Z'.toNat < 128 by decide) hc
  exact dif_neg fun h => hlt h.2

/-- What is the same for a capital and its small letter in ASCII is the same after `toLower`. -/
theorem apply_toLower {α : Type} {f : Char → α}
    (ascii : ∀ n : Fin 128, f (Char.ofNat n).toLower = f (Char.ofNat n)) (c : Char) : f c.toLower = f c := by
  by_cases hc : c.toNat < 128
  · exact of_forall_ascii (p := fun c => f c.toLower = f c) ascii hc
  · rw [toLower_of_not_ascii (Nat.le_of_not_lt hc)]

theorem toNat_toLower_lt {c : Char} (hc : c.toNat < 128) : c.toLower.toNat < 128 :=
  of_forall_ascii (p := fun c => c.toLower.toNat < 128) (by decide) hc

theorem contains_toLower {ranges : CodePoints} {n : Nat}
    (beyond : ((ranges.drop n).all fun range => 128 ≤ range.1) = true)
    (ascii : ∀ m : Fin 128, CodePoints.contains (ranges.take n) (Char.ofNat m).toLower =
      CodePoints.contains (ranges.take n) (Char.ofNat m)) (c : Char) :
    ranges.contains c.toLower = ranges.contains c := by
  by_cases hc : c.toNat < 128
  · rw [contains_take_of_ascii hc beyond, contains_take_of_ascii (toNat_toLower_lt hc) beyond]
    exact apply_toLower ascii c
  · rw [toLower_of_not_ascii (Nat.le_of_not_lt hc)]

theorem isCased_toLower (c : Char) : isCased c.toLower = isCased c :=
  contains_toLower (n := 2) (by decide) (by decide) c

theorem isCaseIgnorable_toLower (c : Char) : isCaseIgnorable c.toLower = isCaseIgnorable c :=
  contains_toLower (n := 5) (by decide +kernel) (by decide) c

theorem toLower_eq_sigma_iff (c : Char) : c.toLower = 'Σ' ↔ c = 'Σ' :=
  decide_eq_decide.mp (apply_toLower (f := fun c => decide (c = 'Σ')) (by decide) c)

theorem lowercaseChar_of_ascii {c : Char} (hc : c.toNat < 128) : lowercaseChar c = [c.toLower] := by
  have notDotted : c ≠ 'İ' := by
    rintro rfl
    revert hc
    decide
  rw [lowercaseChar, if_neg notDotted, mapCase_take_of_ascii (n := 1) hc (by decide)]
  exact of_forall_ascii (p := fun c => [mapCase (lowercaseRuns.take 1) c] = [c.toLower]) (by decide) hc

theorem lowercaseChar_toLower (c : Char) : lowercaseChar c.toLower = lowercaseChar c := by
  by_cases hc : c.toNat < 128
  · rw [lowercaseChar_of_ascii hc, lowercaseChar_of_ascii (toNat_toLower_lt hc)]
    exact congrArg ([·]) (of_forall_ascii (p := fun c => c.toLower.toLower = c.toLower) (by decide) hc)
  · rw [toLower_of_not_ascii (Nat.le_of_not_lt hc)]

theorem startsCased_map_toLower (cs : List Char) : startsCased (cs.map Char.toLower) = startsCased cs := by
  have ignorable : isCaseIgnorable ∘ Char.toLower = isCaseIgnorable := funext isCaseIgnorable_toLower
  rw [startsCased, startsCased, List.dropWhile_map, ignorable, List.head?_map, Option.any_map]
  exact congrArg (Option.any · _) (funext isCased_toLower)

theorem lowercaseAfter_map_toLower (before cs : List Char) :
    lowercaseAfter (before.map Char.toLower) (cs.map Char.toLower) = lowercaseAfter before cs := by
  induction cs generalizing before with
  | nil => rfl
  | cons c after ih =>
      have rest := ih (c :: before)
      rw [List.map_cons] at rest
      rw [List.map_cons, lowercaseAfter, lowercaseAfter, rest, lowercaseChar_toLower, endsWord, endsWord,
        startsCased_map_toLower, startsCased_map_toLower]
      simp only [toLower_eq_sigma_iff]

/-- Lower-casing does not see the case of ASCII letters, also where a sigma stands among them. -/
theorem lowercase_eq_of_map_toLower {s t : String}
    (same : s.toList.map Char.toLower = t.toList.map Char.toLower) : lowercase s = lowercase t := by
  have folded : ∀ s : String, lowercase s = String.ofList (lowercaseAfter [] (s.toList.map Char.toLower)) := fun s =>
    congrArg String.ofList (lowercaseAfter_map_toLower [] s.toList).symm
  rw [folded, folded, same]

/-- A letter behind a sigma keeps it from ending the word, as a capital and as a small letter. -/
example : lowercase "ΑΣB" = "ασb" ∧ lowercase "ΑΣb" = "ασb" ∧ lowercase "ΑΣ B" = "ας b" := by decide +kernel

end ServiceContainer.Text

import ServiceContainer.Proofs.Text.Lowercase
import ServiceContainer.Text.Alphanumeric
import ServiceContainer.Text.Uppercase

/-!
# Upper-casing letters and digits

Upper-casing a letter or digit gives ASCII letters and digits and characters outside ASCII, and within ASCII
it only moves `a` to `z`. Like lower-casing it is a list of runs, which is checked run by run.
-/

namespace ServiceContainer.Text

/-- ASCII letters and digits, and all characters outside ASCII. -/
def IsWord (c : Char) : Prop := c.isAlphanum ∨ 128 ≤ c.toNat

theorem of_forall_ascii {p : Char → Prop} (each : ∀ n : Fin 128, p (Char.ofNat n)) {c : Char}
    (hc : c.toNat < 128) : p c := by
  have hchar := each ⟨c.toNat, hc⟩
  rwa [Char.ofNat_toNat] at hchar

section Ascii

variable {c : Char}

-- The tables begin with what they say about ASCII; only that part is evaluated character by character.
theorem contains_take_of_ascii (hc : c.toNat < 128) {ranges : CodePoints} {n : Nat}
    (beyond : ((ranges.drop n).all fun range => 128 ≤ range.1) = true) :
    ranges.contains c = CodePoints.contains (ranges.take n) c := by
  have outside : CodePoints.contains (ranges.drop n) c = false := by
    rw [CodePoints.contains, List.any_eq_false]
    intro range mem
    have hrange := List.all_eq_true.mp beyond range mem
    simp only [decide_eq_true_eq] at hrange
    simp only [Bool.and_eq_true, decide_eq_true_eq]
    omega
  have split : ranges.contains c =
      (CodePoints.contains (ranges.take n) c || CodePoints.contains (ranges.drop n) c) := by
    unfold CodePoints.contains
    rw [← List.any_append, List.take_append_drop]
  rw [split, outside, Bool.or_false]

theorem mapCase_take_of_ascii (hc : c.toNat < 128) {runs : List CaseRun} {n : Nat}
    (beyond : ((runs.drop n).all fun run => 128 ≤ run.first) = true) :
    mapCase runs c = mapCase (runs.take n) c := by
  have outside : (runs.drop n).find? (·.covers c) = none := by
    rw [List.find?_eq_none]
    intro run mem covers
    have hrun := List.all_eq_true.mp beyond run mem
    simp only [decide_eq_true_eq] at hrun
    have hfirst := (CaseRun.covers_iff.mp covers).1
    omega
  have split : runs.find? (·.covers c) = (runs.take n).find? (·.covers c) :=
    calc
      runs.find? (·.covers c) = (runs.take n ++ runs.drop n).find? (·.covers c) := by
        rw [List.take_append_drop]
      _ = (runs.take n).find? (·.covers c) := by
        rw [List.find?_append, outside, Option.or_none]
  rw [mapCase, mapCase, split]

theorem isAlphabetic_of_ascii (hc : c.toNat < 128) : isAlphabetic c = c.isAlpha := by
  have letters : alphabetic.contains c = CodePoints.contains (alphabetic.take 2) c :=
    contains_take_of_ascii hc (by decide +kernel)
  rw [isAlphabetic, letters]
  exact of_forall_ascii (p := fun c => CodePoints.contains (alphabetic.take 2) c = c.isAlpha)
    (by decide) hc

theorem isNumeric_of_ascii (hc : c.toNat < 128) : isNumeric c = c.isDigit := by
  have digits : numeric.contains c = CodePoints.contains (numeric.take 1) c :=
    contains_take_of_ascii hc (by decide)
  rw [isNumeric, digits]
  exact of_forall_ascii (p := fun c => CodePoints.contains (numeric.take 1) c = c.isDigit) (by decide) hc

theorem isAlphanumeric_of_ascii (hc : c.toNat < 128) : isAlphanumeric c = c.isAlphanum := by
  rw [isAlphanumeric, isAlphabetic_of_ascii hc, isNumeric_of_ascii hc, Char.isAlphanum]

theorem uppercaseChar_of_ascii (hc : c.toNat < 128) : uppercaseChar c = [c.toUpper] := by
  have expansions : (uppercaseExpansions.all fun (n, _) => 128 ≤ n) = true := by decide
  have single : uppercaseExpansions.lookup c.toNat = none := by
    rw [List.lookup_eq_none_iff]
    intro expansion mem
    have hbeyond := List.all_eq_true.mp expansions expansion mem
    simp only [decide_eq_true_eq] at hbeyond
    rw [bne_iff_ne]
    omega
  have capital : mapCase uppercaseRuns c = mapCase (uppercaseRuns.take 1) c :=
    mapCase_take_of_ascii hc (by decide)
  rw [uppercaseChar, single, capital]
  exact of_forall_ascii (p := fun c => [mapCase (uppercaseRuns.take 1) c] = [c.toUpper]) (by decide) hc

end Ascii

theorem isWord_of_isAlphanumeric {c : Char} (hc : isAlphanumeric c = true) : IsWord c := by
  by_cases ascii : c.toNat < 128
  · rw [isAlphanumeric_of_ascii ascii] at hc
    exact Or.inl hc
  · exact Or.inr (Nat.le_of_not_lt ascii)

/-- The capitals of ASCII, and what lies outside ASCII on either side of the surrogates. -/
def wordRanges : CodePoints := [(0x41, 0x5A), (0x80, 0xD7FF), (0xE000, 0x10FFFF)]

def inWordRange (first last : Nat) : Bool := wordRanges.any fun range => range.1 ≤ first && last ≤ range.2

theorem isWord_ofNat {first last n : Nat} (inRange : inWordRange first last = true) (hfirst : first ≤ n)
    (hlast : n ≤ last) : IsWord (Char.ofNat n) := by
  simp only [inWordRange, wordRanges, List.any_cons, List.any_nil, Bool.or_false, Bool.or_eq_true,
    Bool.and_eq_true, decide_eq_true_eq] at inRange
  have scalar : n.isValidChar := by
    unfold Nat.isValidChar
    omega
  have hn : (Char.ofNat n).toNat = n := by
    rw [Char.ofNat, dif_pos scalar]
    rfl
  by_cases ascii : n < 128
  · have capital : ∀ n : Fin 128, 0x41 ≤ n.val → n.val ≤ 0x5A → (Char.ofNat n).isAlphanum = true := by
      decide
    exact Or.inl (capital ⟨n, ascii⟩ (by simp only; omega) (by simp only; omega))
  · exact Or.inr (by omega)

theorem uppercaseRuns_inWordRange :
    (uppercaseRuns.all fun run => 0 ≤ run.first + run.shift && inWordRange run.firstImage run.lastImage) = true := by
  decide

theorem uppercaseExpansions_inWordRange :
    (uppercaseExpansions.all fun (_, cs) => cs ≠ [] && cs.all fun n => inWordRange n n) = true := by
  decide

theorem inWordRange_of_lookup {n : Nat} {cs : List Nat} (found : uppercaseExpansions.lookup n = some cs) :
    cs ≠ [] ∧ ∀ m ∈ cs, inWordRange m m = true := by
  obtain ⟨front, back, split, -⟩ := List.lookup_eq_some_iff.mp found
  have mem : (n, cs) ∈ uppercaseExpansions := by simp [split]
  have checked := List.all_eq_true.mp uppercaseExpansions_inWordRange _ mem
  simpa using checked

theorem uppercaseChar_ne_nil (c : Char) : uppercaseChar c ≠ [] := by
  unfold uppercaseChar
  split
  · rename_i cs found
    simpa using (inWordRange_of_lookup found).1
  · exact List.cons_ne_nil _ _

theorem isWord_of_mem_uppercaseChar {c d : Char} (hc : isAlphanumeric c = true) (mem : d ∈ uppercaseChar c) :
    IsWord d := by
  unfold uppercaseChar at mem
  split at mem
  · rename_i cs found
    obtain ⟨n, hn, rfl⟩ := List.mem_map.mp mem
    exact isWord_ofNat ((inWordRange_of_lookup found).2 n hn) (Nat.le_refl n) (Nat.le_refl n)
  · obtain rfl := List.mem_singleton.mp mem
    unfold mapCase
    split
    · rename_i run found
      have covers : run.covers c = true := by simpa using List.find?_some found
      obtain ⟨hfirst, hlast, -⟩ := CaseRun.covers_iff.mp covers
      have checked := List.all_eq_true.mp uppercaseRuns_inWordRange run (List.mem_of_find?_eq_some found)
      simp only [Bool.and_eq_true, decide_eq_true_eq] at checked
      refine isWord_ofNat checked.2 ?_ ?_
      · unfold CaseRun.firstImage
        omega
      · unfold CaseRun.lastImage
        omega
    · exact isWord_of_isAlphanumeric hc

end ServiceContainer.Text

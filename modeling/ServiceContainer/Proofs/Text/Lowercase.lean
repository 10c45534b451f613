import ServiceContainer.Text.Lowercase

/-!
# Lower-casing once is enough

No character that lower-casing produces has a lower case other than itself, so lower-cased text stays as it
is. The case map is a list of runs; that none of them leads into another is checked run against run and not
character by character.
-/

namespace ServiceContainer.Text

/-- Lower-casing leaves the character as it is, wherever it stands. -/
def IsLower (c : Char) : Prop := c ≠ 'Σ' ∧ lowercaseChar c = [c]

section CaseRun

def CaseRun.firstImage (run : CaseRun) : Nat := Int.toNat (run.first + run.shift)

def CaseRun.lastImage (run : CaseRun) : Nat := Int.toNat (run.last + run.shift)

/-- Whether the images of a run are characters from `a` on, where a percent sign is not. -/
def CaseRun.imagesValid (run : CaseRun) : Bool :=
  decide (0x61 ≤ run.firstImage) &&
    (decide (run.lastImage < 0xD800) ||
      decide (0xDFFF < run.firstImage) && decide (run.lastImage < 0x110000))

/-- Whether no image of a run is moved on by another run: the two lie apart, or alternate. -/
def CaseRun.imagesMiss (run other : CaseRun) : Bool :=
  Nat.blt run.lastImage other.first || Nat.blt other.last run.firstImage ||
    ((run.step == 2 || run.first == run.last) && other.step == 2 &&
      (run.firstImage + other.first) % 2 == 1)

variable {run other : CaseRun} {c d : Char}

theorem CaseRun.covers_iff :
    run.covers c = true ↔
      run.first ≤ c.toNat ∧ c.toNat ≤ run.last ∧ (c.toNat - run.first) % run.step = 0 := by
  simp only [CaseRun.covers, Bool.and_eq_true, decide_eq_true_eq, beq_iff_eq, and_assoc]

theorem CaseRun.toNat_image (valid : run.imagesValid = true) (covers : run.covers c = true) :
    ((Char.ofNat (Int.toNat (c.toNat + run.shift))).toNat : Int) = c.toNat + run.shift := by
  simp only [CaseRun.imagesValid, Bool.and_eq_true, Bool.or_eq_true, decide_eq_true_eq] at valid
  unfold CaseRun.firstImage CaseRun.lastImage at valid
  obtain ⟨hfirst, hlast, -⟩ := CaseRun.covers_iff.mp covers
  have scalar : (Int.toNat (c.toNat + run.shift)).isValidChar := by
    unfold Nat.isValidChar
    omega
  have image : (Char.ofNat (Int.toNat (c.toNat + run.shift))).toNat = Int.toNat (c.toNat + run.shift) := by
    rw [Char.ofNat, dif_pos scalar]
    rfl
  rw [image]
  omega

theorem CaseRun.not_covers_image (valid : run.imagesValid = true) (miss : run.imagesMiss other = true)
    (covers : run.covers c = true) (image : (d.toNat : Int) = c.toNat + run.shift) :
    other.covers d = false := by
  rw [Bool.eq_false_iff]
  intro again
  obtain ⟨hfirst, hlast, hstep⟩ := CaseRun.covers_iff.mp covers
  obtain ⟨hfirst', hlast', hstep'⟩ := CaseRun.covers_iff.mp again
  simp only [CaseRun.imagesValid, Bool.and_eq_true, decide_eq_true_eq] at valid
  simp only [CaseRun.imagesMiss, Bool.or_eq_true, Bool.and_eq_true, Nat.blt_eq, beq_iff_eq] at miss
  have hvalid := valid.1
  unfold CaseRun.firstImage at hvalid
  unfold CaseRun.firstImage CaseRun.lastImage at miss
  rcases miss with (before | after) | ⟨⟨two | single, two'⟩, odd⟩
  · omega
  · omega
  · rw [two] at hstep
    rw [two'] at hstep'
    omega
  · rw [two'] at hstep'
    omega

end CaseRun

/-- The capitals that lower-casing moves; the dotted capital I makes a run of its own. -/
def capitalRuns : List CaseRun := ⟨0x130, 0x130, 1, 0⟩ :: lowercaseRuns

theorem lowercaseRuns_imagesValid : lowercaseRuns.all CaseRun.imagesValid = true := by
  decide +kernel

theorem lowercaseRuns_imagesMiss :
    (lowercaseRuns.all fun run => capitalRuns.all run.imagesMiss) = true := by
  decide +kernel

theorem mapCase_of_not_covers {runs : List CaseRun} {c : Char}
    (hnot : ∀ run ∈ runs, run.covers c = false) : mapCase runs c = c := by
  have hnone : runs.find? (·.covers c) = none := List.find?_eq_none.mpr fun run mem => by
    simp [hnot run mem]
  rw [mapCase, hnone]

theorem isLower_of_not_covers {c : Char} (hnot : ∀ run ∈ capitalRuns, run.covers c = false) : IsLower c := by
  obtain ⟨hdotted, hruns⟩ := List.forall_mem_cons.mp hnot
  constructor
  · rintro rfl
    revert hruns
    decide
  · have hne : c ≠ 'İ' := by
      rintro rfl
      revert hdotted
      decide
    rw [lowercaseChar, if_neg hne, mapCase_of_not_covers hruns]

theorem mapCase_lowercaseRuns (c : Char) :
    (mapCase lowercaseRuns c = c ∧ ∀ run ∈ lowercaseRuns, run.covers c = false) ∨
      IsLower (mapCase lowercaseRuns c) ∧ 0x61 ≤ (mapCase lowercaseRuns c).toNat := by
  cases found : lowercaseRuns.find? (·.covers c) with
  | none =>
      have hnot : ∀ run ∈ lowercaseRuns, run.covers c = false := fun run mem =>
        Bool.eq_false_iff.mpr (List.find?_eq_none.mp found run mem)
      exact Or.inl ⟨mapCase_of_not_covers hnot, hnot⟩
  | some run =>
      have mem : run ∈ lowercaseRuns := List.mem_of_find?_eq_some found
      have covers : run.covers c = true := by simpa using List.find?_some found
      have valid := List.all_eq_true.mp lowercaseRuns_imagesValid run mem
      have miss := List.all_eq_true.mp (List.all_eq_true.mp lowercaseRuns_imagesMiss run mem)
      have image := CaseRun.toNat_image valid covers
      have hmap : mapCase lowercaseRuns c = Char.ofNat (Int.toNat (c.toNat + run.shift)) := by
        rw [mapCase, found]
      rw [hmap]
      refine Or.inr ⟨isLower_of_not_covers fun other mem' => ?_, ?_⟩
      · exact CaseRun.not_covers_image valid (miss other mem') covers image
      · have hfirst := (CaseRun.covers_iff.mp covers).1
        simp only [CaseRun.imagesValid, Bool.and_eq_true, decide_eq_true_eq] at valid
        unfold CaseRun.firstImage at valid
        omega

/-- What lower-casing makes of a character is in lower case; it is from `a` on unless it was there before. -/
theorem isLower_of_mem_lowercaseChar {c d : Char} (hc : c ≠ 'Σ') (mem : d ∈ lowercaseChar c) :
    IsLower d ∧ (d = c ∨ 0x61 ≤ d.toNat) := by
  unfold lowercaseChar at mem
  split at mem
  · simp only [List.mem_cons, List.not_mem_nil, or_false] at mem
    rcases mem with rfl | rfl
    · exact ⟨⟨by decide, by decide⟩, Or.inr (by decide)⟩
    · exact ⟨⟨by decide, by decide⟩, Or.inr (by decide)⟩
  · obtain rfl := List.mem_singleton.mp mem
    rcases mapCase_lowercaseRuns c with ⟨same, -⟩ | ⟨lower, hle⟩
    · rw [same]
      exact ⟨⟨hc, by rw [lowercaseChar, if_neg ‹_›, same]⟩, Or.inl rfl⟩
    · exact ⟨lower, Or.inr hle⟩

theorem isLower_of_mem_lowercaseAfter {before cs : List Char} {d : Char}
    (mem : d ∈ lowercaseAfter before cs) : IsLower d ∧ (d ∈ cs ∨ 0x61 ≤ d.toNat) := by
  induction cs generalizing before with
  | nil => cases mem
  | cons c after ih =>
      rw [lowercaseAfter, List.mem_append] at mem
      rcases mem with here | there
      · split at here
        · obtain rfl := List.mem_singleton.mp here
          split
          · exact ⟨⟨by decide, by decide⟩, Or.inr (by decide)⟩
          · exact ⟨⟨by decide, by decide⟩, Or.inr (by decide)⟩
        · obtain ⟨lower, rfl | hle⟩ := isLower_of_mem_lowercaseChar ‹_› here
          · exact ⟨lower, Or.inl List.mem_cons_self⟩
          · exact ⟨lower, Or.inr hle⟩
      · obtain ⟨lower, mem | hle⟩ := ih there
        · exact ⟨lower, Or.inl (List.mem_cons_of_mem c mem)⟩
        · exact ⟨lower, Or.inr hle⟩

theorem lowercaseAfter_of_isLower {before cs : List Char} (lower : ∀ c ∈ cs, IsLower c) :
    lowercaseAfter before cs = cs := by
  induction cs generalizing before with
  | nil => rfl
  | cons c after ih =>
      obtain ⟨⟨hsigma, hc⟩, hafter⟩ := List.forall_mem_cons.mp lower
      rw [lowercaseAfter, if_neg hsigma, hc, ih hafter]
      rfl

/-- Lower-cased text stays as it is, although a final sigma depends on what stands around it. -/
theorem lowercase_lowercase (s : String) : lowercase (lowercase s) = lowercase s := by
  unfold lowercase
  rw [String.toList_ofList, lowercaseAfter_of_isLower fun _ mem => (isLower_of_mem_lowercaseAfter mem).1]

theorem mem_of_mem_lowercase {s : String} {c : Char} (mem : c ∈ (lowercase s).toList)
    (hlt : c.toNat < 0x61) : c ∈ s.toList := by
  rw [lowercase, String.toList_ofList] at mem
  rcases (isLower_of_mem_lowercaseAfter mem).2 with mem | hle
  · exact mem
  · omega

theorem lowercaseAfter_eq_nil_iff {before cs : List Char} : lowercaseAfter before cs = [] ↔ cs = [] := by
  cases cs with
  | nil => exact iff_of_true rfl rfl
  | cons c after =>
      refine iff_of_false ?_ (List.cons_ne_nil c after)
      rw [lowercaseAfter, List.append_eq_nil_iff]
      rintro ⟨here, -⟩
      split at here
      · cases here
      · unfold lowercaseChar at here
        split at here <;> cases here

end ServiceContainer.Text

import ServiceContainer.Proofs.Expression

/-!
# Percent signs in the parameter bag

The base container replaces `%%` by a percent sign when a parameter is read, so literal text is stored with
its percent signs doubled. What comes from another parameter has been read already and is stored as it
stands; a string is read as it was meant when its percent signs from parameters never meet.
-/

namespace ServiceContainer

/-- Text as it is read from the bag. -/
def unescape : List Char → List Char
  | '%' :: '%' :: cs => '%' :: unescape cs
  | c :: cs => c :: unescape cs
  | [] => []

theorem unescape_percent_percent (cs : List Char) : unescape ('%' :: '%' :: cs) = '%' :: unescape cs := by
  rw [unescape]

theorem unescape_cons {c : Char} (hc : c ≠ '%') (cs : List Char) : unescape (c :: cs) = c :: unescape cs := by
  rw [unescape]
  rintro _ rfl
  exact absurd rfl hc

theorem unescape_percent_cons {c : Char} (hc : c ≠ '%') (cs : List Char) :
    unescape ('%' :: c :: cs) = '%' :: c :: unescape cs := by
  rw [unescape, unescape_cons hc]
  rintro _ - heq
  cases heq
  exact absurd rfl hc

/-! ### Percent signs that survive -/

/-- Where a character of a generated string comes from. -/
inductive Origin where
  | literal
  | parameter
  deriving DecidableEq, Repr

/-- Whether no run of percent signs has two that come from parameters; `seen` says that one has come in the
run so far. -/
def percentsKept (seen : Bool) : List (Origin × Char) → Bool
  | [] => true
  | (origin, c) :: rest =>
    if c ≠ '%' then percentsKept false rest
    else
      match origin with
      | .literal => percentsKept seen rest
      | .parameter => !seen && percentsKept true rest

/-- What is stored for a string whose characters come from the given places. -/
def storedText (marked : List (Origin × Char)) : List Char :=
  marked.flatMap fun (origin, c) => if c = '%' ∧ origin = .literal then ['%', '%'] else [c]

theorem storedText_cons {origin : Origin} {c : Char} (hc : c ≠ '%') (marked : List (Origin × Char)) :
    storedText ((origin, c) :: marked) = c :: storedText marked := by
  simp [storedText, hc]

theorem storedText_literal_percent (marked : List (Origin × Char)) :
    storedText ((.literal, '%') :: marked) = '%' :: '%' :: storedText marked := by
  simp [storedText]

theorem storedText_parameter_percent (marked : List (Origin × Char)) :
    storedText ((.parameter, '%') :: marked) = '%' :: storedText marked := by
  simp [storedText]

-- Both statements come as pairs, with and without a percent sign left over from the text before: reading
-- joins two percent signs across whatever they come from.
theorem length_unescape_storedText_le (marked : List (Origin × Char)) :
    (unescape (storedText marked)).length ≤ marked.length ∧
      (unescape ('%' :: storedText marked)).length ≤ marked.length + 1 := by
  induction marked with
  | nil => exact ⟨le_rfl, le_rfl⟩
  | cons entry marked ih =>
      obtain ⟨origin, c⟩ := entry
      by_cases hc : c = '%'
      · subst hc
        cases origin with
        | literal =>
            rw [storedText_literal_percent, unescape_percent_percent, unescape_percent_percent]
            simpa using ih
        | parameter =>
            rw [storedText_parameter_percent, unescape_percent_percent]
            simp only [List.length_cons]
            omega
      · rw [storedText_cons hc, unescape_cons hc, unescape_percent_cons hc]
        simp only [List.length_cons]
        omega

/-- Reading a stored string gives the string itself exactly when its percent signs are kept. -/
theorem unescape_storedText_iff (marked : List (Origin × Char)) :
    (unescape (storedText marked) = marked.map (·.2) ↔ percentsKept false marked) ∧
      (unescape ('%' :: storedText marked) = '%' :: marked.map (·.2) ↔ percentsKept true marked) := by
  induction marked with
  | nil => exact ⟨iff_of_true rfl rfl, iff_of_true rfl rfl⟩
  | cons entry marked ih =>
      obtain ⟨origin, c⟩ := entry
      by_cases hc : c = '%'
      · subst hc
        cases origin with
        | literal =>
            rw [storedText_literal_percent, unescape_percent_percent, unescape_percent_percent]
            simpa [percentsKept] using ih
        | parameter =>
            rw [storedText_parameter_percent, unescape_percent_percent]
            refine ⟨by simpa [percentsKept] using ih.2, iff_of_false ?_ (by simp [percentsKept])⟩
            -- two percent signs are read as one, and nothing behind them makes up for the other
            intro heq
            have hlength := congrArg List.length heq
            have hle := (length_unescape_storedText_le marked).1
            simp only [List.length_cons, List.length_map, List.map_cons] at hlength
            omega
      · rw [storedText_cons hc, unescape_cons hc, unescape_percent_cons hc]
        simpa [percentsKept, hc] using ih.1

theorem storedText_append (marked marked' : List (Origin × Char)) :
    storedText (marked ++ marked') = storedText marked ++ storedText marked' := List.flatMap_append

def fromLiteral (s : String) : List (Origin × Char) := s.toList.map (Origin.literal, ·)

def fromParameter (s : String) : List (Origin × Char) := s.toList.map (Origin.parameter, ·)

theorem storedText_fromLiteral (s : String) : storedText (fromLiteral s) = doubled s.toList := by
  rw [storedText, fromLiteral, List.flatMap_map, doubled]
  refine List.flatMap_congr fun c _ => ?_
  by_cases hc : c = '%' <;> simp [hc]

theorem storedText_fromParameter (s : String) : storedText (fromParameter s) = s.toList := by
  rw [storedText, fromParameter, List.flatMap_map]
  simp

theorem map_snd_fromLiteral (s : String) : (fromLiteral s).map (·.2) = s.toList := by
  simp [fromLiteral, Function.comp_def]

theorem map_snd_fromParameter (s : String) : (fromParameter s).map (·.2) = s.toList := by
  simp [fromParameter, Function.comp_def]

theorem percentsKept_fromLiteral (s : String) : percentsKept false (fromLiteral s) := by
  unfold fromLiteral
  induction s.toList with
  | nil => rfl
  | cons c cs ih =>
      by_cases hc : c = '%'
      · simpa [percentsKept, hc] using ih
      · simpa [percentsKept, hc] using ih

theorem unescape_doubled (s : String) : unescape (doubled s.toList) = s.toList := by
  have hkept := (unescape_storedText_iff (fromLiteral s)).1.mpr (percentsKept_fromLiteral s)
  rwa [storedText_fromLiteral, map_snd_fromLiteral] at hkept

theorem unescape_eq_self_iff (s : String) :
    unescape s.toList = s.toList ↔ percentsKept false (fromParameter s) := by
  rw [← (unescape_storedText_iff (fromParameter s)).1, storedText_fromParameter, map_snd_fromParameter]

end ServiceContainer

import ServiceContainer.Proofs.Php.Lexer

/-!
# The tokens of text that goes on

An expression stands in front of other text, which need not be code that can be read. So its tokens are read as far
as they go, each together with the text from the character that completes it; for a mark of one character this is
the text that begins with the mark.
-/

namespace ServiceContainer.Php.Lexer

/-- The tokens of a text as far as it can be read, each with the text from the character that completes it. -/
def scan : Pending → List Char → List (Token × List Char)
  | _, [] => []
  | pending, c :: cs =>
    match step pending c with
    | none => []
    | some (tokens, next) => tokens.map (·, c :: cs) ++ scan next cs

/-- The marks that values stand in front of. -/
def delimiters : List Char := [',', ')', ';']

def isDelimiter (c : Char) : Bool := c ∈ delimiters

variable {pending next : Pending} {c : Char} {front : List Char} {tokens : List Token}

theorem scan_cons (cs : List Char) (hstep : step pending c = some (tokens, next)) :
    scan pending (c :: cs) = tokens.map (·, c :: cs) ++ scan next cs := by
  rw [scan, hstep]

/-- What is read of the front of a text does not depend on what comes behind it. -/
theorem exists_scan_append (hrun : run pending front = some (tokens, next)) (back : List Char) :
    ∃ scanned, scanned.map (·.1) = tokens ∧ scan pending (front ++ back) = scanned ++ scan next back := by
  induction front generalizing pending tokens with
  | nil =>
      cases hrun
      exact ⟨[], rfl, rfl⟩
  | cons c cs ih =>
      obtain ⟨first, middle, rest, hstep, hrest, rfl⟩ := run_cons_eq_some_iff.mp hrun
      obtain ⟨scanned, hscanned, hscan⟩ := ih hrest
      refine ⟨first.map (·, c :: (cs ++ back)) ++ scanned, ?_, ?_⟩
      · simp [hscanned, Function.comp_def]
      · rw [List.cons_append, scan_cons _ hstep, hscan, List.append_assoc]

theorem run_concat_eq_some (hrun : run pending (front ++ [c]) = some (tokens, next)) :
    ∃ before middle last, run pending front = some (before, middle) ∧ step middle c = some (last, next) ∧
      tokens = before ++ last := by
  induction front generalizing pending tokens with
  | nil =>
      obtain ⟨last, middle, rest, hstep, hrest, rfl⟩ := run_cons_eq_some_iff.mp hrun
      cases hrest
      exact ⟨[], pending, last, rfl, hstep, List.append_nil last⟩
  | cons first front ih =>
      obtain ⟨tokens, between, rest, hstep, hrest, rfl⟩ := run_cons_eq_some_iff.mp hrun
      obtain ⟨before, middle, last, hbefore, hlast, rfl⟩ := ih hrest
      refine ⟨tokens ++ before, middle, last, ?_, hlast, (List.append_assoc ..).symm⟩
      exact run_cons_eq_some_iff.mpr ⟨tokens, between, before, hstep, hbefore, rfl⟩

/-! ### Delimiters -/

theorem isDelimiter_iff : isDelimiter c = true ↔ c = ',' ∨ c = ')' ∨ c = ';' := by
  simp [isDelimiter, delimiters]

theorem isEnd_of_isDelimiter (hc : isDelimiter c = true) : isEnd c = true := by
  rcases isDelimiter_iff.mp hc with rfl | rfl | rfl <;> rfl

theorem start_of_isDelimiter (hc : isDelimiter c = true) : start c = some ([.mark (String.singleton c)], .gap) := by
  rcases isDelimiter_iff.mp hc with rfl | rfl | rfl <;> rfl

theorem complete_of_isDelimiter {token : Token} (hc : isDelimiter c = true)
    (hcomplete : complete token c = some (tokens, next)) : tokens = [token] ++ [.mark (String.singleton c)] := by
  rw [complete, start_of_isDelimiter hc, prepend_some] at hcomplete
  cases hcomplete
  rfl

/-- A delimiter outside of quoted text is a mark, whatever it completes. -/
theorem step_of_isDelimiter (hc : isDelimiter c = true) (hstep : step pending c = some (tokens, .gap)) :
    ∃ before, tokens = before ++ [.mark (String.singleton c)] := by
  have hplain : c ≠ '\\' ∧ c ≠ '\'' ∧ isWordChar c = false ∧ isNameChar c = false ∧
      (∀ part, Part.next? part c = none) ∧ ∀ first, (first, c) ∉ pairs := by
    rcases isDelimiter_iff.mp hc with rfl | rfl | rfl <;>
      exact ⟨by decide, by decide, rfl, rfl, fun part => by cases part <;> rfl, by simp [pairs]⟩
  obtain ⟨hslash, hquote, hword, hname, hnumber, hpair⟩ := hplain
  cases pending with
  | gap =>
      rw [step, start_of_isDelimiter hc] at hstep
      cases hstep
      exact ⟨[], rfl⟩
  | quoted text =>
      rw [step, if_neg hslash, if_neg hquote] at hstep
      cases hstep
  | escape text =>
      rw [step, if_neg (not_or.mpr ⟨hslash, hquote⟩)] at hstep
      cases hstep
  | word name =>
      rw [step, hword, if_neg Bool.false_ne_true] at hstep
      split at hstep
      · exact ⟨_, complete_of_isDelimiter hc hstep⟩
      · cases hstep
  | var name =>
      rw [step, hname, if_neg Bool.false_ne_true] at hstep
      split at hstep
      · exact ⟨_, complete_of_isDelimiter hc hstep⟩
      · cases hstep
  | number part numeral =>
      rw [step, hnumber part] at hstep
      obtain ⟨token, -, hcomplete⟩ := Option.bind_eq_some_iff.mp hstep
      exact ⟨_, complete_of_isDelimiter hc hcomplete⟩
  | mark first =>
      rw [step, if_neg (hpair first)] at hstep
      exact ⟨_, complete_of_isDelimiter hc hstep⟩

/-- Text that is read as some tokens in front of a delimiter is scanned as these tokens and the delimiter, which
goes with all that is left of the text. -/
theorem exists_scan_delimiter {text : String} (htext : ReadsBefore isEnd text tokens) (hc : isDelimiter c = true)
    (cs : List Char) :
    ∃ scanned behind, scanned.map (·.1) = tokens ∧
      scan .gap (text.toList ++ c :: cs) = scanned ++ (.mark (String.singleton c), c :: cs) :: behind := by
  have hdelimiter : run .gap [c] = some ([.mark (String.singleton c)], .gap) :=
    run_cons_eq_some_iff.mpr ⟨_, .gap, [], start_of_isDelimiter hc, rfl, rfl⟩
  have hrun : run .gap (text.toList ++ [c]) = some (tokens ++ [.mark (String.singleton c)], .gap) := by
    rw [htext c [] (isEnd_of_isDelimiter hc), hdelimiter, prepend_some]
  obtain ⟨before, middle, last, hbefore, hlast, hsplit⟩ := run_concat_eq_some hrun
  obtain ⟨completed, rfl⟩ := step_of_isDelimiter hc hlast
  obtain ⟨scanned, hscanned, hscan⟩ := exists_scan_append hbefore (c :: cs)
  rw [← List.append_assoc] at hsplit
  obtain ⟨rfl, -⟩ := List.append_inj' hsplit rfl
  refine ⟨scanned ++ completed.map (·, c :: cs), scan .gap cs, ?_, ?_⟩
  · simp [hscanned, Function.comp_def]
  · rw [hscan, scan_cons cs hlast]
    simp

end ServiceContainer.Php.Lexer

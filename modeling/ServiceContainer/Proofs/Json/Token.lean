import ServiceContainer.Json.Token
import ServiceContainer.Proofs.Json.Literal
import ServiceContainer.Proofs.Json.Numeral

/-!
# Tokens of JSON text

What a piece of text is read as does not depend on what stands around it, except that a number or word has to end
where it ends.
-/

namespace ServiceContainer.Json

open Numeral (signText fractionText exponentText)

namespace Token

/-- Text that is read as the given tokens, whatever stands around it. -/
def Reads (text : String) (tokens : List Token) : Prop :=
  ∀ done rest, readFrom done (text.toList ++ rest) = readFrom (tokens.reverse ++ done) rest

def continues (c : Char) : Bool := isNumberChar c || c.isLower

/-- Text that is read as the given tokens if nothing behind it continues a number or word. -/
def ReadsApart (text : String) (tokens : List Token) : Prop :=
  ∀ done rest, (∀ c ∈ rest.head?, continues c = false) →
    readFrom done (text.toList ++ rest) = readFrom (tokens.reverse ++ done) rest

variable {text text' : String} {tokens tokens' : List Token} {c : Char}

theorem Reads.apart (h : Reads text tokens) : ReadsApart text tokens := fun done rest _ => h done rest

theorem reads_empty : Reads "" [] := fun _ _ => rfl

theorem Reads.append (h : Reads text tokens) (h' : Reads text' tokens') :
    Reads (text ++ text') (tokens ++ tokens') := by
  intro done rest
  rw [String.toList_append, List.append_assoc, h, h', List.reverse_append, List.append_assoc]

theorem Reads.append_apart (h : Reads text tokens) (h' : ReadsApart text' tokens') :
    ReadsApart (text ++ text') (tokens ++ tokens') := by
  intro done rest hrest
  rw [String.toList_append, List.append_assoc, h, h' _ _ hrest, List.reverse_append, List.append_assoc]

/-- Text that does not continue a number or word may stand behind either. -/
theorem ReadsApart.append (h : ReadsApart text tokens) (h' : Reads text' tokens')
    (begins : text'.toList.head?.any (!continues ·) = true) : Reads (text ++ text') (tokens ++ tokens') := by
  intro done rest
  have hfront : ∀ c ∈ (text'.toList ++ rest).head?, continues c = false := by
    cases hchars : text'.toList with
    | nil => simp [hchars] at begins
    | cons c cs =>
        intro d hd
        rw [← Option.some.inj hd]
        simpa [hchars] using begins
  rw [String.toList_append, List.append_assoc, h _ _ hfront, h', List.reverse_append, List.append_assoc]

/-! ### Tokens of one piece -/

abbrev marks : List Char := ['[', ']', '\x7b', '\x7d', ':', ',']

/-- Characters that begin neither a number nor a word, and end both. -/
def specials : List Char := '"' :: ([' ', '\t', '\n', '\r'] ++ marks)

theorem mem_specials_of_isSpace (hc : isSpace c = true) : c ∈ specials := by
  simp only [isSpace, Bool.or_eq_true, decide_eq_true_eq, or_assoc] at hc
  rcases hc with rfl | rfl | rfl | rfl <;> decide

theorem mem_specials_of_mem_marks (hc : c ∈ marks) : c ∈ specials :=
  List.mem_cons_of_mem _ (List.mem_append_right _ hc)

theorem eq_false_of_all {p : Char → Bool} {cs : List Char} (apart : cs.all (!p ·) = true) (hc : c ∈ cs) :
    p c = false := by
  simpa using List.all_eq_true.mp apart c hc

/-- A class of characters that holds none of the special ones. -/
theorem not_special {p : Char → Bool} (apart : specials.all (!p ·) = true) (hc : p c = true) :
    ¬ isSpace c = true ∧ c ∉ marks ∧ c ≠ '"' := by
  have hnot : c ∉ specials := by
    intro mem
    rw [eq_false_of_all apart mem] at hc
    cases hc
  refine ⟨fun hspace => hnot (mem_specials_of_isSpace hspace), fun mem => hnot (mem_specials_of_mem_marks mem), ?_⟩
  intro hquote
  rw [hquote] at hnot
  exact hnot List.mem_cons_self

theorem all_isSpace_append (spaces : text.toList.all isSpace = true) (spaces' : text'.toList.all isSpace = true) :
    (text ++ text').toList.all isSpace = true := by
  rw [String.toList_append, List.all_append, spaces, spaces']
  rfl

theorem reads_spaces (spaces : text.toList.all isSpace = true) : Reads text [] := by
  intro done rest
  generalize text.toList = cs at spaces
  induction cs with
  | nil => rfl
  | cons c cs ih =>
      obtain ⟨hc, hcs⟩ := Bool.and_eq_true_iff.mp spaces
      rw [List.cons_append, readFrom, if_pos hc, ih hcs]

theorem reads_mark (hc : c ∈ marks) : Reads (String.singleton c) [.mark c] := by
  intro done rest
  have hspace : isSpace c = false := eq_false_of_all (by decide) hc
  rw [String.toList_singleton, List.singleton_append, readFrom, hspace, if_neg Bool.false_ne_true]
  exact if_pos hc

theorem reads_quote (s : String) : Reads (quote s) [.text (units s)] := by
  intro done rest
  have hchars : (quote s).toList = '"' :: (s.toList.flatMap escapeChar ++ ['"']) := by simp [quote]
  have hread : readUnits [] (s.toList.flatMap escapeChar ++ '"' :: rest) = some (units s, rest) :=
    readUnits_flatMap [] rest s.toList
  rw [hchars, List.cons_append, List.append_assoc, List.singleton_append, readFrom, if_neg (by decide),
    if_neg (by decide), if_pos rfl]
  split
  · rename_i found
    rw [hread] at found
    cases found
    rfl
  · rename_i found
    rw [hread] at found
    cases found

theorem readsApart_word {w : List Char} (hne : w ≠ []) (lower : w.all Char.isLower = true) :
    ReadsApart (String.ofList w) [.word w] := by
  intro done rest hrest
  obtain ⟨c, cs, rfl⟩ := List.exists_cons_of_ne_nil hne
  obtain ⟨hc, hcs⟩ := List.forall_mem_cons.mp (List.all_eq_true.mp lower)
  have hend : ∀ c ∈ rest.head?, c.isLower = false := fun c hc => (Bool.or_eq_false_iff.mp (hrest c hc)).2
  obtain ⟨htake, hdrop⟩ := span_append hcs hend
  obtain ⟨hspace, hmark, hquote⟩ := not_special (by decide) hc
  have hletter : 'a'.toNat ≤ c.toNat :=
    UInt32.le_iff_toNat_le.mp (of_decide_eq_true (Bool.and_eq_true_iff.mp hc).1)
  have hnumber : ¬ (c.isDigit || decide (c = '-')) = true := by
    intro hnumber
    rcases Bool.or_eq_true_iff.mp hnumber with hdigit | hminus
    · exact absurd (hletter.trans (Char.isDigit_iff_toNat.mp hdigit).2) (by decide)
    · rw [of_decide_eq_true hminus] at hc
      cases hc
  rw [String.toList_ofList, List.cons_append, readFrom, if_neg hspace, if_neg hmark, if_neg hquote, if_neg hnumber,
    if_pos hc, htake, hdrop]
  rfl

variable {n : Numeral}

theorem isNumberChar_of_isDigit (hc : c.isDigit = true) : isNumberChar c = true := by
  simp [isNumberChar, hc]

theorem isNumberChar_of_mem_spelling (proper : n.IsProper) (hc : c ∈ n.spelling) : isNumberChar c = true := by
  obtain ⟨negative, whole, fraction, exponent⟩ := n
  obtain ⟨hwhole, hfraction, hexponent⟩ := proper
  dsimp only at hwhole hfraction hexponent
  simp only [Numeral.spelling, List.mem_append] at hc
  rcases hc with hc | hc | hc | hc
  · cases negative with
    | false => cases hc
    | true =>
        rw [List.mem_singleton.mp hc]
        rfl
  · exact isNumberChar_of_isDigit (hwhole.digits c hc)
  · unfold fractionText at hc
    split at hc
    · cases hc
    · rcases List.mem_cons.mp hc with rfl | hc
      · rfl
      · exact isNumberChar_of_isDigit (hfraction c hc)
  · cases exponent with
    | none => cases hc
    | some e =>
        rcases List.mem_cons.mp hc with rfl | hc
        · rfl
        rcases List.mem_cons.mp hc with rfl | hc
        · split <;> rfl
        · exact isNumberChar_of_isDigit ((hexponent e rfl).2 c hc)

theorem exists_spelling_eq_cons (proper : n.IsProper) :
    ∃ c cs, n.spelling = c :: cs ∧ (c.isDigit || decide (c = '-')) = true := by
  obtain ⟨negative, whole, fraction, exponent⟩ := n
  obtain ⟨d, ds, rfl⟩ := List.exists_cons_of_ne_nil proper.whole.nonempty
  cases negative with
  | false => exact ⟨d, _, rfl, by rw [proper.whole.digits d List.mem_cons_self, Bool.true_or]⟩
  | true => exact ⟨'-', _, rfl, rfl⟩

theorem readsApart_numeral (proper : n.IsProper) : ReadsApart (String.ofList n.spelling) [.number n] := by
  intro done rest hrest
  have hend : ∀ c ∈ rest.head?, isNumberChar c = false := fun c hc => (Bool.or_eq_false_iff.mp (hrest c hc)).1
  have hread := Numeral.ofText?_spelling proper
  have inside := fun c => isNumberChar_of_mem_spelling (c := c) proper
  obtain ⟨c, cs, hchars, hbegins⟩ := exists_spelling_eq_cons proper
  rw [hchars] at hread inside
  obtain ⟨hc, hcs⟩ := List.forall_mem_cons.mp inside
  obtain ⟨htake, hdrop⟩ := span_append hcs hend
  obtain ⟨hspace, hmark, hquote⟩ := not_special (by decide) hc
  rw [String.toList_ofList, hchars, List.cons_append, readFrom, if_neg hspace, if_neg hmark, if_neg hquote,
    if_pos hbegins, htake, hread, hdrop]
  rfl

/-! ### Lists between brackets -/

section Lists

variable {α : Type} {as : List α} {part : α → String} {partTokens : α → List Token} {opening closing : Char}

theorem readsApart_intercalate (each : ∀ a ∈ as, ReadsApart (part a) (partTokens a)) :
    ReadsApart (String.intercalate "," (as.map part)) (List.intercalate [.mark ','] (as.map partTokens)) := by
  have hcomma : Reads "," [.mark ','] := reads_mark (c := ',') (by decide)
  induction as with
  | nil => exact reads_empty.apart
  | cons a as ih =>
      obtain ⟨ha, has⟩ := List.forall_mem_cons.mp each
      cases as with
      | nil =>
          rw [List.map_singleton, List.map_singleton, String.intercalate_singleton, List.intercalate_singleton]
          exact ha
      | cons b as =>
          rw [List.map_cons, List.map_cons, List.map_cons, List.map_cons, String.intercalate_cons_cons,
            List.intercalate_cons_cons]
          exact (ha.append hcomma (by decide)).append_apart (ih has)

/-- The closing bracket may stand behind spaces. -/
theorem reads_bracketed (hopening : opening ∈ marks) (hclosing : closing ∈ marks) {gap : String}
    (spaces : gap.toList.all isSpace = true) (each : ∀ a ∈ as, ReadsApart (part a) (partTokens a)) :
    Reads (String.singleton opening ++ String.intercalate "," (as.map part) ++ (gap ++ String.singleton closing))
      (.mark opening :: (List.intercalate [.mark ','] (as.map partTokens) ++ [.mark closing])) := by
  have hfront := (reads_mark hopening).append_apart (readsApart_intercalate each)
  have hback := (reads_spaces spaces).append (reads_mark hclosing)
  have hends : ∀ c ∈ specials, (!continues c) = true := List.all_eq_true.mp (by decide)
  refine hfront.append hback ?_
  rw [String.toList_append, String.toList_singleton]
  generalize gap.toList = cs at spaces
  cases cs with
  | nil => exact hends closing (mem_specials_of_mem_marks hclosing)
  | cons c cs => exact hends c (mem_specials_of_isSpace (Bool.and_eq_true_iff.mp spaces).1)

theorem reads_brackets (hopening : opening ∈ marks) (hclosing : closing ∈ marks)
    (each : ∀ a ∈ as, ReadsApart (part a) (partTokens a)) :
    Reads (String.singleton opening ++ String.intercalate "," (as.map part) ++ String.singleton closing)
      (.mark opening :: (List.intercalate [.mark ','] (as.map partTokens) ++ [.mark closing])) := by
  have nogap : "".toList.all isSpace = true := rfl
  have hreads := reads_bracketed hopening hclosing nogap each
  rwa [String.empty_append] at hreads

/-- The same list on one line for each part. -/
theorem reads_block (hopening : opening ∈ marks) (hclosing : closing ∈ marks) {margin : String}
    (spaces : margin.toList.all isSpace = true) (each : ∀ a ∈ as, ReadsApart (part a) (partTokens a)) :
    Reads (block (String.singleton opening) (String.singleton closing) margin (as.map part))
      (.mark opening :: (List.intercalate [.mark ','] (as.map partTokens) ++ [.mark closing])) := by
  cases as with
  | nil => exact (reads_mark hopening).append (reads_mark hclosing)
  | cons a as =>
      have hline : ("\n" ++ margin).toList.all isSpace = true := all_isSpace_append rfl spaces
      have hgap : ("\n" ++ margin ++ "  ").toList.all isSpace = true := all_isSpace_append hline rfl
      have hlines : ∀ b ∈ a :: as, ReadsApart ("\n" ++ margin ++ "  " ++ part b) (partTokens b) :=
        fun b mem => (reads_spaces hgap).append_apart (each b mem)
      have hparts := reads_bracketed hopening hclosing hline hlines
      have htext : block (String.singleton opening) (String.singleton closing) margin ((a :: as).map part) =
          String.singleton opening ++
            String.intercalate "," ((a :: as).map fun a => "\n" ++ margin ++ "  " ++ part a) ++
              ("\n" ++ margin ++ String.singleton closing) := by
        rw [block, List.map_map]
        simp only [List.map_cons, List.isEmpty_cons, Function.comp_def, String.append_assoc]
        rfl
      rw [htext]
      exact hparts

end Lists

end Token

end ServiceContainer.Json

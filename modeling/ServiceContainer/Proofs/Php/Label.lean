import ServiceContainer.Proofs.Php.Lexing

/-!
# Labels

What PHP takes for a name, said without a reader: a label, or labels with backslashes between them. Accessors are
labels whatever their ids are, so that they can be written as they are, in quotes and without.
-/

namespace ServiceContainer.Php

open Lexer

/-- ASCII letters and digits, underscores and characters outside ASCII, but no digit in front. -/
structure IsLabel (name : List Char) : Prop where
  nonempty : name ≠ []
  chars : ∀ c ∈ name, c.isAlphanum = true ∨ c = '_' ∨ 128 ≤ c.toNat
  begins : ∀ c ∈ name.head?, c.isDigit = false

/-- Labels with one backslash between each two, and perhaps one in front. -/
def IsPath (name : List Char) : Prop :=
  ∃ labels : List (List Char), labels ≠ [] ∧ (∀ label ∈ labels, IsLabel label) ∧
    (name = List.intercalate ['\\'] labels ∨ name = '\\' :: List.intercalate ['\\'] labels)

theorem isNameChar_iff {c : Char} : isNameChar c = true ↔ c.isAlphanum = true ∨ c = '_' ∨ 128 ≤ c.toNat := by
  simp only [isNameChar, isLetter, Char.isAlphanum, Bool.or_eq_true, decide_eq_true_eq]
  tauto

theorem isLetter_iff {c : Char} : isLetter c = true ↔ isNameChar c = true ∧ c.isDigit = false := by
  constructor
  · intro hc
    refine ⟨by simp [isNameChar, hc], ?_⟩
    by_cases ascii : c.toNat < 128
    · exact Text.of_forall_ascii (p := fun c => isLetter c = true → c.isDigit = false) (by decide) ascii hc
    · have hnine : '9'.toNat < 128 := by decide
      rw [Bool.eq_false_iff, ne_eq, Char.isDigit_iff_toNat]
      omega
  · rintro ⟨hc, hdigit⟩
    simpa [isNameChar, hdigit] using hc

theorem isLabelName_iff {name : List Char} : isLabelName name = true ↔ IsLabel name := by
  cases name with
  | nil => exact iff_of_false Bool.false_ne_true fun label => label.nonempty rfl
  | cons c cs =>
      rw [isLabelName_cons, isLetter_iff]
      constructor
      · rintro ⟨⟨hc, hdigit⟩, hcs⟩
        have chars : ∀ d ∈ c :: cs, isNameChar d = true := List.forall_mem_cons.mpr ⟨hc, hcs⟩
        refine ⟨List.cons_ne_nil c cs, fun d hd => isNameChar_iff.mp (chars d hd), ?_⟩
        rintro _ ⟨⟩
        exact hdigit
      · rintro ⟨-, chars, begins⟩
        obtain ⟨hc, hcs⟩ := List.forall_mem_cons.mp chars
        exact ⟨⟨isNameChar_iff.mpr hc, begins c rfl⟩, fun d hd => isNameChar_iff.mpr (hcs d hd)⟩

theorem IsLabel.noBackslash {name : List Char} (label : IsLabel name) : '\\' ∉ name :=
  fun mem => absurd (isNameChar_iff.mpr (label.chars _ mem)) (by decide)

theorem isPath_of_isWordName {name : List Char} (word : isWordName name = true) : IsPath name := by
  unfold isWordName at word
  refine ⟨_, List.splitOn_ne_nil _ _, fun label mem => isLabelName_iff.mp (List.all_eq_true.mp word label mem), ?_⟩
  rw [List.intercalate_splitOn]
  split
  · rename_i slash
    obtain ⟨rest, rfl⟩ := List.head?_eq_some_iff.mp slash
    exact Or.inr rfl
  · exact Or.inl rfl

/-! ### Words that are read -/

theorem word_not_mem_start {c : Char} {tokens : List Token} {next : Pending} (hstart : start c = some (tokens, next))
    (name : String) : Token.word name ∉ tokens := by
  revert hstart
  unfold start
  repeat' split
  all_goals rintro ⟨⟩ <;> simp

theorem eq_of_mem_complete {token : Token} {c : Char} {tokens : List Token} {next : Pending}
    (hcomplete : complete token c = some (tokens, next)) {name : String} (mem : Token.word name ∈ tokens) :
    token = .word name := by
  obtain ⟨⟨more, pending⟩, hstart, heq⟩ := Option.map_eq_some_iff.mp hcomplete
  cases heq
  rcases List.mem_cons.mp mem with heq | mem
  · exact heq.symm
  · exact absurd mem (word_not_mem_start hstart name)

theorem isWordName_of_mem_step {pending next : Pending} {c : Char} {tokens : List Token}
    (hstep : step pending c = some (tokens, next)) {name : String} (mem : Token.word name ∈ tokens) :
    isWordName name.toList = true := by
  cases pending with
  | gap => exact absurd mem (word_not_mem_start hstep name)
  | quoted text =>
      simp only [step] at hstep
      split at hstep
      · cases hstep
        cases mem
      · split at hstep <;> cases hstep <;> simp at mem
  | escape text =>
      simp only [step] at hstep
      split at hstep <;> cases hstep <;> cases mem
  | word read =>
      simp only [step] at hstep
      split at hstep
      · cases hstep
        cases mem
      · split at hstep
        · rename_i isName
          cases eq_of_mem_complete hstep mem
          rwa [String.toList_ofList]
        · cases hstep
  | var read =>
      simp only [step] at hstep
      split at hstep
      · cases hstep
        cases mem
      · split at hstep
        · cases eq_of_mem_complete hstep mem
        · cases hstep
  | number part numeral =>
      simp only [step] at hstep
      split at hstep
      · cases hstep
        cases mem
      · obtain ⟨token, htoken, hcomplete⟩ := Option.bind_eq_some_iff.mp hstep
        cases eq_of_mem_complete hcomplete mem
        cases part <;> cases htoken
  | mark first =>
      simp only [step] at hstep
      split at hstep
      · cases hstep
        simp at mem
      · cases eq_of_mem_complete hstep mem

theorem isWordName_of_mem_run {cs : List Char} {pending next : Pending} {tokens : List Token}
    (hrun : run pending cs = some (tokens, next)) {name : String} (mem : Token.word name ∈ tokens) :
    isWordName name.toList = true := by
  induction cs generalizing pending tokens with
  | nil =>
      cases hrun
      cases mem
  | cons c cs ih =>
      obtain ⟨first, middle, rest, hstep, hrest, rfl⟩ := run_cons_eq_some_iff.mp hrun
      rcases List.mem_append.mp mem with mem | mem
      · exact isWordName_of_mem_step hstep mem
      · exact ih hrest mem

theorem isPath_of_mem_tokens? {text : String} {tokens : List Token} (htokens : tokens? text = some tokens)
    {name : String} (mem : Token.word name ∈ tokens) : IsPath name.toList := by
  simp only [tokens?] at htokens
  split at htokens
  · obtain ⟨⟨read, pending⟩, hrun, heq⟩ := Option.bind_eq_some_iff.mp htokens
    cases pending <;> cases heq
    exact isPath_of_isWordName (isWordName_of_mem_run hrun mem)
  · cases htokens

/-! ### Accessors -/

theorem camelize_ne_empty {id : ServiceId} (usable : id.toList.any Text.isAlphanumeric = true) :
    camelize id ≠ "" := by
  intro hempty
  have hchars : (camelize id).toList = camelizeFrom true id.toList := String.toList_ofList
  rw [hempty] at hchars
  exact camelizeFrom_ne_nil usable true hchars.symm

/-- A table lists the ids in order. Each of its accessors has a middle of its own and is one label, which a quoted
literal holds as it is, and none is like another method of the class even when ASCII case is ignored. -/
theorem accessors_labels {c : Container} {table : List (ServiceId × String)} (hok : c.accessors = .ok table) :
    table.map (·.1) = c.ids ∧
      ∀ row ∈ table, (∃ middle, middle ≠ "" ∧ row.2 = "get" ++ middle ++ "Service") ∧ IsLabel row.2.toList ∧
        (∀ special ∈ ['\'', '"', '\\', ' '], special ∉ row.2.toList) ∧ quote row.2 = "'" ++ row.2 ++ "'" ∧
        ∀ own ∈ ownMethods, ignoreCase row.2 ≠ ignoreCase own := by
  obtain ⟨usable, -, rfl⟩ := Container.accessors_eq_ok_iff.mp hok
  refine ⟨?_, ?_⟩
  · rw [List.map_map]
    exact List.map_id c.ids
  · rintro row mem
    obtain ⟨id, hid, rfl⟩ := List.mem_map.mp mem
    have label := isLabelName_accessorName id
    refine ⟨⟨camelize id, camelize_ne_empty (usable id hid), rfl⟩, isLabelName_iff.mp label, ?_,
      quote_of_isLabelName label, fun own => accessorName_not_own (usable id hid)⟩
    have noName : ['\'', '"', '\\', ' '].all (!isNameChar ·) = true := by decide
    intro special hspecial hmem
    have hspecial := List.all_eq_true.mp noName special hspecial
    simp [isNameChar_of_isLabelName label special hmem] at hspecial

/-- In upper case one letter outside ASCII may become two inside it. -/
theorem accessors_labels_withIds :
    (Container.withIds "ß.é" "ﬁx").accessors = .ok [("ß.é", "getSS_ÉService"), ("ﬁx", "getFIxService")] ∧
      IsLabel "getSS_ÉService".toList ∧ IsLabel "getFIxService".toList := by
  have ids : (Container.withIds "ß.é" "ﬁx").ids = ["ß.é", "ﬁx"] := by decide +kernel
  have hok : (Container.withIds "ß.é" "ﬁx").accessors =
      .ok [("ß.é", "getSS_ÉService"), ("ﬁx", "getFIxService")] := by
    rw [Container.accessors_eq_ok_iff, ids]
    decide +kernel
  have rows := (accessors_labels hok).2
  exact ⟨hok, (rows _ List.mem_cons_self).2.1, (rows _ (List.mem_cons_of_mem _ List.mem_cons_self)).2.1⟩

end ServiceContainer.Php

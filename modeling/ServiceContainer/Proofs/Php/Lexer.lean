import ServiceContainer.Php.Expression
import ServiceContainer.Proofs.Result
import ServiceContainer.Proofs.Text.Uppercase

/-!
# Generated code as tokens

A reader of PHP text that knows the part of the language which generated classes are written in: quoted
literals with two escapes, names, variables, numbers and marks. It takes one character at a time and never
goes back. Pieces of text are read one after the other: a piece either ends between tokens, or in a token
that the next character ends.
-/

namespace ServiceContainer.Php

inductive Token where
  | quoted (text : String)
  /-- A label, or labels between backslashes. -/
  | word (name : String)
  | var (name : String)
  | integer (digits : String)
  | float (numeral : String)
  | mark (text : String)
  deriving DecidableEq, Repr

namespace Lexer

/-! ### The reader -/

def isBlank (c : Char) : Bool := c = ' ' || c = '\n' || c = '\t' || c = '\r'

/-- PHP takes all bytes of characters outside ASCII for letters. -/
def isLetter (c : Char) : Bool := c.isAlpha || c = '_' || 128 ≤ c.toNat

def isNameChar (c : Char) : Bool := isLetter c || c.isDigit

def isWordChar (c : Char) : Bool := isNameChar c || c = '\\'

/-- Marks of one character, none of which is the start of a longer one. -/
def singles : List Char := ['(', ')', '[', ']', '{', '}', ',', ';', '.', '!', '>']

/-- Marks of two characters. -/
def pairs : List (Char × Char) := [('=', '>'), ('-', '>'), (':', ':'), ('|', '|'), ('&', '&')]

def isLabelName : List Char → Bool
  | [] => false
  | c :: cs => isLetter c && cs.all isNameChar

def isWordName (cs : List Char) : Bool :=
  (List.splitOn '\\' (if cs.head? = some '\\' then cs.tail else cs)).all isLabelName

/-- How far a number has come. -/
inductive Part where
  | whole
  | fraction
  /-- Behind the `e` of an exponent, which needs a digit yet. -/
  | exponentMark
  | exponentSign
  | exponent
  deriving DecidableEq, Repr

/-- The part that a character belongs to, if it goes on with the number. -/
def Part.next? : Part → Char → Option Part
  | .whole, c =>
    if c.isDigit then some .whole else if c = '.' then some .fraction
    else if c = 'e' || c = 'E' then some .exponentMark else none
  | .fraction, c =>
    if c.isDigit then some .fraction else if c = 'e' || c = 'E' then some .exponentMark else none
  | .exponentMark, c =>
    if c.isDigit then some .exponent else if c = '+' || c = '-' then some .exponentSign else none
  | .exponentSign, c => if c.isDigit then some .exponent else none
  | .exponent, c => if c.isDigit then some .exponent else none

/-- The number that ends with this part. -/
def Part.token? (numeral : List Char) : Part → Option Token
  | .whole => some (.integer (String.ofList numeral))
  | .fraction | .exponent => some (.float (String.ofList numeral))
  | .exponentMark | .exponentSign => none

/-- What has been read of the token at hand. -/
inductive Pending where
  | gap
  | quoted (text : List Char)
  /-- A quoted literal with a backslash behind it. -/
  | escape (text : List Char)
  | word (name : List Char)
  | var (name : List Char)
  | number (part : Part) (numeral : List Char)
  | mark (c : Char)
  deriving DecidableEq, Repr

/-- The tokens that have been completed, and what is at hand behind them. -/
abbrev Progress := List Token × Pending

def start (c : Char) : Option Progress :=
  if isBlank c then some ([], .gap)
  else if c = '\'' then some ([], .quoted [])
  else if c = '$' then some ([], .var [])
  else if c.isDigit then some ([], .number .whole [c])
  else if isWordChar c then some ([], .word [c])
  else if c ∈ singles then some ([.mark (String.singleton c)], .gap)
  else if c ∈ pairs.map (·.1) then some ([], .mark c)
  else none

/-- Tokens in front of what is read next. -/
def prepend (tokens : List Token) (rest : Option Progress) : Option Progress :=
  rest.map fun (more, pending) => (tokens ++ more, pending)

/-- Completes a token in front of a character that does not belong to it. -/
def complete (token : Token) (c : Char) : Option Progress := prepend [token] (start c)

def step : Pending → Char → Option Progress
  | .gap, c => start c
  | .quoted text, c =>
    if c = '\\' then some ([], .escape text)
    else if c = '\'' then some ([.quoted (String.ofList text)], .gap)
    else some ([], .quoted (text ++ [c]))
  | .escape text, c =>
    if c = '\\' ∨ c = '\'' then some ([], .quoted (text ++ [c])) else some ([], .quoted (text ++ ['\\', c]))
  | .word name, c =>
    if isWordChar c then some ([], .word (name ++ [c]))
    else if isWordName name then complete (.word (String.ofList name)) c
    else none
  | .var name, c =>
    if isNameChar c then some ([], .var (name ++ [c]))
    else if isLabelName name then complete (.var (String.ofList name)) c
    else none
  | .number part numeral, c =>
    match part.next? c with
    | some part => some ([], .number part (numeral ++ [c]))
    | none => (part.token? numeral).bind fun token => complete token c
  | .mark first, c =>
    if (first, c) ∈ pairs then some ([.mark (String.ofList [first, c])], .gap)
    else complete (.mark (String.singleton first)) c

def run : Pending → List Char → Option Progress
  | pending, [] => some ([], pending)
  | pending, c :: cs => (step pending c).bind fun (tokens, pending) => prepend tokens (run pending cs)

/-- The tokens of a PHP file that ends between two tokens. -/
def tokens? (text : String) : Option (List Token) := do
  let opening := "<?php\n".toList
  if opening.isPrefixOf text.toList then
    match ← run .gap (text.toList.drop opening.length) with
    | (tokens, .gap) => some tokens
    | _ => none
  else none

/-! ### Pieces of text -/

@[simp]
theorem prepend_nil (rest : Option Progress) : prepend [] rest = rest := by
  cases rest <;> rfl

@[simp]
theorem prepend_some (tokens more : List Token) (pending : Pending) :
    prepend tokens (some (more, pending)) = some (tokens ++ more, pending) := rfl

theorem prepend_prepend (tokens more : List Token) (rest : Option Progress) :
    prepend tokens (prepend more rest) = prepend (tokens ++ more) rest := by
  cases rest <;> simp [prepend]

theorem run_cons {pending pending' : Pending} {c : Char} {tokens : List Token} (cs : List Char)
    (hstep : step pending c = some (tokens, pending')) :
    run pending (c :: cs) = prepend tokens (run pending' cs) := by
  rw [run, hstep]
  rfl

theorem run_cons_eq_some_iff {pending next : Pending} {c : Char} {cs : List Char} {tokens : List Token} :
    run pending (c :: cs) = some (tokens, next) ↔
      ∃ first middle rest, step pending c = some (first, middle) ∧ run middle cs = some (rest, next) ∧
        tokens = first ++ rest := by
  rw [run]
  constructor
  · intro hrun
    obtain ⟨⟨first, middle⟩, hstep, hbehind⟩ := Option.bind_eq_some_iff.mp hrun
    obtain ⟨⟨rest, last⟩, hrest, heq⟩ := Option.map_eq_some_iff.mp hbehind
    cases heq
    exact ⟨first, middle, rest, hstep, hrest, rfl⟩
  · rintro ⟨first, middle, rest, hstep, hrest, rfl⟩
    simp only [hstep, Option.bind_some, hrest, prepend_some]

theorem run_append {pending pending' : Pending} {cs : List Char} {tokens : List Token} (ds : List Char)
    (hrun : run pending cs = some (tokens, pending')) :
    run pending (cs ++ ds) = prepend tokens (run pending' ds) := by
  induction cs generalizing pending tokens with
  | nil =>
      obtain ⟨rfl, rfl⟩ := Prod.mk.inj (Option.some.inj hrun)
      rw [List.nil_append, prepend_nil]
  | cons c cs ih =>
      obtain ⟨first, middle, rest, hstep, hrest, rfl⟩ := run_cons_eq_some_iff.mp hrun
      rw [List.cons_append, run_cons _ hstep, ih hrest, prepend_prepend]

/-- The text is read as these tokens, from one gap between tokens to another. -/
def Reads (text : String) (tokens : List Token) : Prop := run .gap text.toList = some (tokens, .gap)

/-- The text is read as these tokens if a character of the given kind comes next. -/
def ReadsBefore (next : Char → Bool) (text : String) (tokens : List Token) : Prop :=
  ∀ c cs, next c = true → run .gap (text.toList ++ c :: cs) = prepend tokens (run .gap (c :: cs))

def BeginsWith (next : Char → Bool) (text : String) : Prop := text.toList.head?.any next = true

instance (next : Char → Bool) (text : String) : Decidable (BeginsWith next text) :=
  inferInstanceAs (Decidable (_ = _))

section Pieces

variable {text text' : String} {tokens tokens' : List Token} {next next' : Char → Bool}

theorem reads_ofList {cs : List Char} (hrun : run .gap cs = some (tokens, .gap)) :
    Reads (String.ofList cs) tokens := by
  rw [Reads, String.toList_ofList, hrun]

theorem Reads.append (htext : Reads text tokens) (htext' : Reads text' tokens') :
    Reads (text ++ text') (tokens ++ tokens') := by
  unfold Reads at *
  rw [String.toList_append, run_append _ htext, htext', prepend_some]

theorem reads_empty : Reads "" [] := rfl

theorem Reads.before (htext : Reads text tokens) : ReadsBefore next text tokens :=
  fun _ _ _ => run_append _ htext

theorem Reads.append_before (htext : Reads text tokens) (htext' : ReadsBefore next text' tokens') :
    ReadsBefore next (text ++ text') (tokens ++ tokens') := by
  intro c cs hc
  rw [String.toList_append, List.append_assoc, run_append _ htext, htext' c cs hc, prepend_prepend]

theorem exists_of_beginsWith (hbegins : BeginsWith next text) :
    ∃ c cs, text.toList = c :: cs ∧ next c = true := by
  unfold BeginsWith at hbegins
  cases hchars : text.toList with
  | nil => simp [hchars] at hbegins
  | cons c cs => exact ⟨c, cs, rfl, by simpa [hchars] using hbegins⟩

theorem ReadsBefore.append (htext : ReadsBefore next text tokens) (htext' : Reads text' tokens')
    (hbegins : BeginsWith next text') : Reads (text ++ text') (tokens ++ tokens') := by
  obtain ⟨c, cs, hchars, hc⟩ := exists_of_beginsWith hbegins
  unfold Reads at *
  rw [String.toList_append, hchars, htext c cs hc, ← hchars, htext', prepend_some]

theorem ReadsBefore.append_before (htext : ReadsBefore next text tokens)
    (htext' : ReadsBefore next' text' tokens') (hbegins : BeginsWith next text') :
    ReadsBefore next' (text ++ text') (tokens ++ tokens') := by
  intro d ds hd
  obtain ⟨c, cs, hchars, hc⟩ := exists_of_beginsWith hbegins
  have hrest := htext' d ds hd
  rw [hchars, List.cons_append] at hrest
  rw [String.toList_append, hchars, List.append_assoc, List.cons_append, htext c _ hc, hrest, prepend_prepend]

theorem ReadsBefore.imp (htext : ReadsBefore next text tokens)
    (himp : ∀ c, next' c = true → next c = true) : ReadsBefore next' text tokens :=
  fun c cs hc => htext c cs (himp c hc)

theorem reads_join {texts : List String} {tokens : List (List Token)} (all : List.Forall₂ Reads texts tokens) :
    Reads (String.join texts) tokens.flatten := by
  induction all with
  | nil => exact reads_empty
  | cons hfirst _ ih =>
      rw [String.join_cons, List.flatten_cons]
      exact hfirst.append ih

theorem reads_join_map {α : Type} {as : List α} {f : α → String} {g : α → List Token}
    (each : ∀ a ∈ as, Reads (f a) (g a)) : Reads (String.join (as.map f)) (as.flatMap g) := by
  refine reads_join ?_
  rw [List.forall₂_map_left_iff, List.forall₂_map_right_iff, List.forall₂_same]
  exact each

/-- Pieces with a separator between them, which the first character of the separator ends. -/
theorem readsBefore_intercalate {separator : String} {separators : List Token} {texts : List String}
    {tokens : List (List Token)} (hseparator : Reads separator separators) (hbegins : BeginsWith next separator)
    (all : List.Forall₂ (ReadsBefore next) texts tokens) :
    ReadsBefore next (String.intercalate separator texts) (List.intercalate separators tokens) := by
  induction all with
  | nil =>
      rw [String.intercalate_nil, List.intercalate_nil]
      exact reads_empty.before
  | @cons text first texts rest htext all ih =>
      cases all with
      | nil =>
          rw [String.intercalate_singleton, List.intercalate_singleton]
          exact htext
      | cons htext' all =>
          rw [String.intercalate_cons_cons, List.intercalate_cons_cons]
          exact (htext.append hseparator hbegins).append_before ih

end Pieces

/-! ### Tokens of one piece -/

/-- Where a value ends in generated code, or an index in front of its value. -/
def isEnd (c : Char) : Bool := c = ' ' || c = ',' || c = ')' || c = ';'

theorem readsBefore_of_pending {next : Char → Bool} {text : String} {tokens : List Token} {pending : Pending}
    {token : Token} (hrun : run .gap text.toList = some (tokens, pending))
    (hstep : ∀ c, next c = true → step pending c = complete token c) :
    ReadsBefore next text (tokens ++ [token]) := by
  intro c cs hc
  have hnext : run pending (c :: cs) = prepend [token] (run .gap (c :: cs)) := by
    rw [run, run, hstep c hc, complete, step]
    cases start c with
    | none => rfl
    | some progress => exact (prepend_prepend [token] progress.1 (run progress.2 cs)).symm
  rw [run_append _ hrun, hnext, prepend_prepend]

theorem readsBefore_alone {next : Char → Bool} {text : String} {pending : Pending} {token : Token}
    (hrun : run .gap text.toList = some ([], pending))
    (hstep : ∀ c, next c = true → step pending c = complete token c) : ReadsBefore next text [token] :=
  readsBefore_of_pending hrun hstep

theorem run_quoted (text cs : List Char) :
    run (.quoted text) (cs.flatMap fun c => if c = '\\' ∨ c = '\'' then ['\\', c] else [c]) =
      some ([], .quoted (text ++ cs)) := by
  induction cs generalizing text with
  | nil => simp [run]
  | cons c cs ih =>
      rw [List.flatMap_cons]
      by_cases special : c = '\\' ∨ c = '\''
      · have escaped : run (.quoted text) ['\\', c] = some ([], .quoted (text ++ [c])) := by
          simp [run, step, special]
        rw [if_pos special, run_append _ escaped, ih, List.append_assoc]
        rfl
      · have plain : run (.quoted text) [c] = some ([], .quoted (text ++ [c])) := by
          obtain ⟨hslash, hquote⟩ := not_or.mp special
          simp [run, step, hslash, hquote]
        rw [if_neg special, run_append _ plain, ih, List.append_assoc]
        rfl

theorem reads_quote (s : String) : Reads (quote s) [.quoted s] := by
  have opened : run .gap ['\''] = some ([], .quoted []) := rfl
  have closed : run (.quoted s.toList) ['\''] = some ([.quoted (String.ofList s.toList)], .gap) := rfl
  have chars : (quote s).toList =
      ['\''] ++ (s.toList.flatMap fun c => if c = '\\' ∨ c = '\'' then ['\\', c] else [c]) ++ ['\''] := by
    simp only [quote, String.toList_append, String.toList_ofList]
    rfl
  rw [Reads, chars, List.append_assoc, run_append _ opened, run_append _ (run_quoted [] s.toList), List.nil_append,
    closed, String.ofList_toList]
  rfl

/-! ### Names -/

theorem isNameChar_of_isWord {c : Char} (hc : Text.IsWord c) : isNameChar c = true := by
  simp only [isNameChar, isLetter, Bool.or_eq_true, decide_eq_true_eq]
  rcases hc with alphanumeric | beyond
  · rw [Char.isAlphanum, Bool.or_eq_true] at alphanumeric
    tauto
  · exact Or.inl (Or.inr beyond)

theorem start_of_isLetter {c : Char} (hc : isLetter c = true) : start c = some ([], .word [c]) := by
  by_cases ascii : c.toNat < 128
  · exact Text.of_forall_ascii (p := fun c => isLetter c = true → start c = some ([], .word [c]))
      (by decide +kernel) ascii hc
  · have apart : ∀ d : Char, d.toNat < 128 → c ≠ d := by
      rintro d hd rfl
      exact ascii hd
    have hdigit : c.isDigit = false := by
      rw [Bool.eq_false_iff, ne_eq, Char.isDigit_iff_toNat]
      have hnine : '9'.toNat < 128 := by decide
      omega
    have hword : isWordChar c = true := by simp [isWordChar, isNameChar, hc]
    simp [start, isBlank, apart, hdigit, hword]

theorem isLabelName_cons {c : Char} {cs : List Char} :
    isLabelName (c :: cs) = true ↔ isLetter c = true ∧ ∀ d ∈ cs, isNameChar d = true := by
  simp [isLabelName]

theorem isNameChar_of_isLabelName {cs : List Char} (label : isLabelName cs = true) :
    ∀ c ∈ cs, isNameChar c = true := by
  cases cs with
  | nil => exact nofun
  | cons c cs =>
      obtain ⟨hc, hcs⟩ := isLabelName_cons.mp label
      exact List.forall_mem_cons.mpr ⟨by simp [isNameChar, hc], hcs⟩

theorem isWordChar_of_splitOn {cs : List Char}
    (pieces : ∀ piece ∈ cs.splitOn '\\', ∀ c ∈ piece, isNameChar c = true) : ∀ c ∈ cs, isWordChar c = true := by
  induction cs with
  | nil => exact nofun
  | cons c cs ih =>
      rw [List.splitOn_cons_eq_if_modifyHead] at pieces
      split at pieces
      · rename_i slash
        refine List.forall_mem_cons.mpr ⟨by simpa [isWordChar] using Or.inr slash, ih fun piece mem => ?_⟩
        exact pieces piece (List.mem_cons_of_mem _ mem)
      · cases hsplit : cs.splitOn '\\' with
        | nil => exact absurd hsplit (List.splitOn_ne_nil _ _)
        | cons first rest =>
            rw [hsplit] at pieces ih
            obtain ⟨hfirst, hrest⟩ := List.forall_mem_cons.mp pieces
            obtain ⟨hc, hfirst⟩ := List.forall_mem_cons.mp hfirst
            exact List.forall_mem_cons.mpr
              ⟨by simp [isWordChar, hc], ih (List.forall_mem_cons.mpr ⟨hfirst, hrest⟩)⟩

theorem isLetter_of_splitOn {c : Char} {cs : List Char}
    (labels : ((c :: cs).splitOn '\\').all isLabelName = true) : isLetter c = true := by
  rw [List.splitOn_cons_eq_if_modifyHead] at labels
  split at labels
  · cases labels
  · cases hsplit : cs.splitOn '\\' with
    | nil => exact absurd hsplit (List.splitOn_ne_nil _ _)
    | cons first rest =>
        rw [hsplit, List.modifyHead_cons, List.all_cons, Bool.and_eq_true] at labels
        exact (isLabelName_cons.mp labels.1).1

theorem run_word (name cs : List Char) (hcs : ∀ c ∈ cs, isWordChar c = true) :
    run (.word name) cs = some ([], .word (name ++ cs)) := by
  induction cs generalizing name with
  | nil => simp [run]
  | cons c cs ih =>
      obtain ⟨hc, hcs⟩ := List.forall_mem_cons.mp hcs
      have hstep : step (.word name) c = some ([], .word (name ++ [c])) := by rw [step, if_pos hc]
      rw [run_cons _ hstep, ih _ hcs, List.append_assoc]
      rfl

theorem run_name {cs : List Char} (name : isWordName cs = true) (hne : cs ≠ []) :
    run .gap cs = some ([], .word cs) := by
  obtain ⟨c, rest, rfl⟩ := List.exists_cons_of_ne_nil hne
  unfold isWordName at name
  have begins : start c = some ([], .word [c]) ∧ ∀ d ∈ rest, isWordChar d = true := by
    by_cases slash : c = '\\'
    · subst slash
      refine ⟨rfl, isWordChar_of_splitOn fun piece mem => ?_⟩
      exact isNameChar_of_isLabelName (List.all_eq_true.mp name piece mem)
    · rw [if_neg (by simpa using slash)] at name
      refine ⟨start_of_isLetter (isLetter_of_splitOn name), fun d hd => ?_⟩
      exact isWordChar_of_splitOn
        (fun piece mem => isNameChar_of_isLabelName (List.all_eq_true.mp name piece mem)) d
        (List.mem_cons_of_mem _ hd)
  have hstep : step .gap c = some ([], .word [c]) := begins.1
  rw [run_cons _ hstep, run_word [c] rest begins.2]
  rfl

/-- What may stand behind a name. -/
def endsName (c : Char) : Bool := !isWordChar c

theorem endsName_of_isEnd {c : Char} (hc : isEnd c = true) : endsName c = true := by
  simp only [isEnd, Bool.or_eq_true, decide_eq_true_eq, or_assoc] at hc
  rcases hc with rfl | rfl | rfl | rfl <;> decide

theorem readsBefore_word {name : String} (hname : isWordName name.toList = true) :
    ReadsBefore endsName name [.word name] := by
  have hne : name.toList ≠ [] := by
    intro hempty
    rw [hempty] at hname
    cases hname
  refine readsBefore_alone (run_name hname hne) fun c hc => ?_
  rw [step, if_neg (by simpa [endsName] using hc), if_pos hname, String.ofList_toList]

theorem readsBefore_constant {name : String} (hname : isWordName name.toList = true) :
    ReadsBefore isEnd name [.word name] :=
  (readsBefore_word hname).imp fun _ => endsName_of_isEnd

theorem readsBefore_of_var {cs name : List Char} {tokens : List Token}
    (hrun : run .gap cs = some (tokens, .var name)) (label : isLabelName name = true) :
    ReadsBefore endsName (String.ofList cs) (tokens ++ [.var (String.ofList name)]) := by
  refine readsBefore_of_pending (by rw [String.toList_ofList, hrun]) fun c hc => ?_
  have hname : isNameChar c = false := by
    have hnot : (isNameChar c || decide (c = '\\')) = false := by simpa [endsName, isWordChar] using hc
    exact (Bool.or_eq_false_iff.mp hnot).1
  rw [step, hname, if_neg Bool.false_ne_true, if_pos label]

theorem isLetter_of_isAlphabetic {c : Char} (hc : c = '_' ∨ Text.isAlphabetic c = true) : isLetter c = true := by
  simp only [isLetter, Bool.or_eq_true, decide_eq_true_eq]
  rcases hc with rfl | alphabetic
  · exact Or.inl (Or.inr rfl)
  · by_cases ascii : c.toNat < 128
    · rw [Text.isAlphabetic_of_ascii ascii] at alphabetic
      exact Or.inl (Or.inl alphabetic)
    · exact Or.inr (Nat.le_of_not_lt ascii)

theorem isLabelName_of_isLabel {cs : List Char} (label : isLabel cs = true) : isLabelName cs = true := by
  cases cs with
  | nil => cases label
  | cons c cs =>
      rw [isLabel, Bool.and_eq_true, List.all_eq_true] at label
      refine isLabelName_cons.mpr ⟨isLetter_of_isAlphabetic (by simpa using label.1), fun d hd => ?_⟩
      have hchar : d = '_' ∨ Text.isAlphanumeric d = true := by simpa using label.2 d hd
      rcases hchar with rfl | alphanumeric
      · rfl
      · exact isNameChar_of_isWord (Text.isWord_of_isAlphanumeric alphanumeric)

theorem isWordName_of_isQualifiedName {name : String} (qualified : isQualifiedName name = true) :
    isWordName name.toList = true := by
  rw [isQualifiedName] at qualified
  rw [isWordName, List.all_eq_true]
  exact fun piece mem => isLabelName_of_isLabel (List.all_eq_true.mp qualified piece mem)

theorem isWordName_of_isLabelName {cs : List Char} (label : isLabelName cs = true) : isWordName cs = true := by
  have single : '\\' ∉ cs := by
    intro mem
    exact absurd (isNameChar_of_isLabelName label _ mem) (by decide)
  have begins : cs.head? ≠ some '\\' := fun heq => single (List.mem_of_head? heq)
  rw [isWordName, if_neg begins, List.splitOn_eq_singleton single]
  simpa using label

end Lexer

end ServiceContainer.Php

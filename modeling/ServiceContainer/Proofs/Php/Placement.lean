import ServiceContainer.Proofs.Php.Label
import ServiceContainer.Proofs.Php.Outline

/-!
# Where words stand

A word of generated code is a path, but not each path may stand at each place: what comes behind an arrow, two
colons or the word `function` is one label, and so is the name of an argument in front of its colon. Both are
decided by two tokens that are next to each other, so that pieces of code fit if they fit where they meet.
-/

namespace ServiceContainer.Php

open Token (word var mark)

/-- Whether a token may come next, as far as one of the two is a word that must be a label. -/
def WordsFit : Token → Token → Prop
  | .mark s, .word name => s = "->" ∨ s = "::" → IsLabel name.toList
  | .word s, .word name => s = "function" → IsLabel name.toList
  | .word name, .mark s => s = ":" → IsLabel name.toList
  | _, _ => True

def Fits (tokens : List Token) : Prop := tokens.IsChain WordsFit

/-- A whole piece of code, which may have anything behind it. -/
def FitsBefore (tokens : List Token) : Prop := ∀ rest, Fits rest → Fits (tokens ++ rest)

/-- A piece that may end in a word, with a mark behind it other than the colon that a name of an argument has. -/
def FitsBeforeMark (tokens : List Token) : Prop :=
  ∀ s rest, s ≠ ":" → Fits (mark s :: rest) → Fits (tokens ++ mark s :: rest)

section Tokens

variable {tokens tokens' : List Token}

theorem fits_cons_cons {token token' : Token} :
    Fits (token :: token' :: tokens) ↔ WordsFit token token' ∧ Fits (token' :: tokens) :=
  List.isChain_cons_cons

theorem fits_cons_of_forall {token : Token} (fits : ∀ next, WordsFit token next) :
    Fits (token :: tokens) ↔ Fits tokens := by
  rw [Fits, List.isChain_cons]
  exact and_iff_right fun next _ => fits next

@[simp]
theorem fits_nil : Fits [] := .nil

@[simp]
theorem fits_var {name : String} : Fits (var name :: tokens) ↔ Fits tokens :=
  fits_cons_of_forall fun _ => trivial

@[simp]
theorem fits_quoted {s : String} : Fits (.quoted s :: tokens) ↔ Fits tokens :=
  fits_cons_of_forall fun _ => trivial

@[simp]
theorem fits_integer {digits : String} : Fits (.integer digits :: tokens) ↔ Fits tokens :=
  fits_cons_of_forall fun _ => trivial

@[simp]
theorem fits_float {numeral : String} : Fits (.float numeral :: tokens) ↔ Fits tokens :=
  fits_cons_of_forall fun _ => trivial

@[simp]
theorem fits_mark {s : String} (arrow : s ≠ "->") (colons : s ≠ "::") : Fits (mark s :: tokens) ↔ Fits tokens := by
  refine fits_cons_of_forall fun next => ?_
  cases next with
  | word name => exact fun either => (either.elim arrow colons).elim
  | _ => trivial

/-- A label that does not say that a method is declared may have any token behind it. -/
theorem fits_word {name : String} (label : IsLabel name.toList) (declares : name ≠ "function") :
    Fits (word name :: tokens) ↔ Fits tokens := by
  refine fits_cons_of_forall fun next => ?_
  cases next with
  | word name' => exact fun heq => absurd heq declares
  | mark s => exact fun _ => label
  | _ => trivial

@[simp]
theorem fits_mark_word {s name : String} :
    Fits (mark s :: word name :: tokens) ↔
      (s = "->" ∨ s = "::" → IsLabel name.toList) ∧ Fits (word name :: tokens) :=
  fits_cons_cons

@[simp]
theorem fits_mark_var {s name : String} : Fits (mark s :: var name :: tokens) ↔ Fits tokens :=
  fits_cons_cons.trans ((and_iff_right trivial).trans fits_var)

@[simp]
theorem fits_mark_mark {s s' : String} : Fits (mark s :: mark s' :: tokens) ↔ Fits (mark s' :: tokens) :=
  fits_cons_cons.trans (and_iff_right trivial)

@[simp]
theorem fits_word_word {s name : String} :
    Fits (word s :: word name :: tokens) ↔ (s = "function" → IsLabel name.toList) ∧ Fits (word name :: tokens) :=
  fits_cons_cons

@[simp]
theorem fits_word_var {name name' : String} : Fits (word name :: var name' :: tokens) ↔ Fits tokens :=
  fits_cons_cons.trans ((and_iff_right trivial).trans fits_var)

@[simp]
theorem fits_word_mark {name s : String} :
    Fits (word name :: mark s :: tokens) ↔ (s = ":" → IsLabel name.toList) ∧ Fits (mark s :: tokens) :=
  fits_cons_cons

/-! ### Pieces of code -/

theorem FitsBefore.beforeMark (fits : FitsBefore tokens) : FitsBeforeMark tokens := fun _ _ _ hrest => fits _ hrest

theorem FitsBefore.append (fits : FitsBefore tokens) (fits' : FitsBefore tokens') :
    FitsBefore (tokens ++ tokens') := by
  intro rest hrest
  rw [List.append_assoc]
  exact fits _ (fits' rest hrest)

theorem fitsBefore_nil : FitsBefore [] := fun _ hrest => hrest

theorem fitsBefore_ite {p : Prop} [Decidable p] (fits : FitsBefore tokens) :
    FitsBefore (if p then [] else tokens) := by
  split
  · exact fitsBefore_nil
  · exact fits

theorem fitsBefore_flatMap {α : Type} {write : α → List Token} {as : List α}
    (each : ∀ a ∈ as, FitsBefore (write a)) : FitsBefore (as.flatMap write) := by
  induction as with
  | nil => exact fitsBefore_nil
  | cons a as ih =>
      obtain ⟨first, others⟩ := List.forall_mem_cons.mp each
      exact first.append (ih others)

theorem FitsBeforeMark.append_mark {s : String} (fits : FitsBeforeMark tokens) (fits' : FitsBeforeMark tokens')
    (plain : s ∉ [":", "->", "::"]) : FitsBeforeMark (tokens ++ mark s :: tokens') := by
  obtain ⟨colon, arrow, colons⟩ : s ≠ ":" ∧ s ≠ "->" ∧ s ≠ "::" := by simpa using plain
  intro s' rest hs' hrest
  have behind : Fits (mark s :: (tokens' ++ mark s' :: rest)) :=
    (fits_mark arrow colons).mpr (fits' s' rest hs' hrest)
  rw [List.append_assoc]
  exact fits s _ colon behind

theorem fitsBeforeMark_nil : FitsBeforeMark [] := fitsBefore_nil.beforeMark

theorem fitsBeforeMark_intercalate {s : String} {parts : List (List Token)} (plain : s ∉ [":", "->", "::"])
    (each : ∀ part ∈ parts, FitsBeforeMark part) :
    FitsBeforeMark (List.intercalate [mark s] parts) := by
  induction parts with
  | nil => exact fitsBeforeMark_nil
  | cons first others ih =>
      obtain ⟨hfirst, each⟩ := List.forall_mem_cons.mp each
      cases others with
      | nil => simpa using hfirst
      | cons second others =>
          have heq : List.intercalate [mark s] (first :: second :: others) =
              first ++ mark s :: List.intercalate [mark s] (second :: others) := by simp
          rw [heq]
          exact hfirst.append_mark (ih each) plain

end Tokens

/-! ### Values -/

instance (name : List Char) : Decidable (IsLabel name) := decidable_of_iff _ isLabelName_iff

theorem fitsBefore_int (n : Int) : FitsBefore (Lexer.intTokens n) := by
  intro rest hrest
  by_cases negative : n < 0 <;> simp [Lexer.intTokens, Lexer.signTokens, negative, hrest]

theorem fitsBeforeMark_literal (place : Place) (l : Literal) : FitsBeforeMark (l.tokens place) := by
  intro s rest hs hrest
  cases l with
  | null => simp [Literal.tokens, hs, hrest]
  | bool b => simp [Literal.tokens, hs, hrest]
  | int n =>
      rw [Literal.tokens]
      split
      · simp [hs, hrest]
      · exact fitsBefore_int _ _ hrest
  | float text =>
      rw [Literal.tokens, Lexer.floatTokens]
      repeat' split
      all_goals simp [hs, hrest]
  | text text => simp [Literal.tokens, hrest]

theorem fitsBeforeMark_service (id : ServiceId) : FitsBeforeMark (serviceTokens id) := by
  intro s rest hs hrest
  unfold serviceTokens
  split
  · simp [hrest]
  · simp +decide [hrest]

theorem fitsBefore_parameter (name : String) : FitsBefore (parameterTokens name) := by
  intro rest hrest
  simp +decide [parameterTokens, hrest]

theorem fitsBefore_segment (place : Place) (s : Segment String) : FitsBefore (segmentTokens place s) := by
  cases s with
  | literal text =>
      intro rest hrest
      simp [segmentTokens, hrest]
  | parameter name => exact fitsBefore_parameter name

theorem fitsBefore_key (k : Key) : FitsBefore (keyTokens k) := by
  cases k with
  | index n => exact fitsBefore_int n.toInt
  | name s =>
      intro rest hrest
      simp [keyTokens, hrest]

theorem fitsBeforeMark_value (place : Place) (v : Shown) : FitsBeforeMark (v.tokens place) := by
  induction v using Shown.induction with
  | literal l => exact fitsBeforeMark_literal place l
  | list items ih =>
      have hitems : FitsBeforeMark (List.intercalate [mark ","] (Shown.tokens.itemTokens place items)) := by
        rw [Reader.itemTokens_eq_map]
        refine fitsBeforeMark_intercalate (by decide) fun part mem => ?_
        obtain ⟨entry, hentry, rfl⟩ := List.mem_map.mp mem
        exact (fitsBefore_key entry.1).beforeMark.append_mark (ih entry hentry) (by decide)
      intro s rest _ hrest
      have behind : Fits (mark ")" :: mark s :: rest) := by simpa using hrest
      simpa [Shown.tokens] using hitems ")" _ (by decide) behind
  | service id => exact fitsBeforeMark_service id
  | parameter name => exact (fitsBefore_parameter name).beforeMark
  | template segments =>
      refine fitsBeforeMark_intercalate (by decide) fun part mem => ?_
      obtain ⟨s, -, rfl⟩ := List.mem_map.mp mem
      exact (fitsBefore_segment place s).beforeMark
  | object type => exact fitsBeforeMark_nil

/-! ### Definitions -/

theorem isLabel_of_isIdentifier {name : String} (hname : isIdentifier name = true) : IsLabel name.toList :=
  isLabelName_iff.mp (Lexer.isLabelName_of_isLabel hname)

theorem fitsBeforeMark_argument {k : Key} (hk : ∀ name ∈ k.name?, isIdentifier name = true) (v : Shown) :
    FitsBeforeMark (argumentTokens (k.name?, v)) := by
  cases k with
  | index n => exact fitsBeforeMark_value .code v
  | name name =>
      intro s rest hs hrest
      have label := isLabel_of_isIdentifier (hk name rfl)
      simpa [Key.name?, argumentTokens, label] using fitsBeforeMark_value .code v s rest hs hrest

theorem fitsBefore_arguments {arguments : Arguments} (writable : Arguments.Writable arguments) :
    FitsBefore (argumentsTokens (.ofArguments arguments)) := by
  intro rest hrest
  have each : FitsBeforeMark
      (List.intercalate [mark ","] ((ShownArguments.ofArguments arguments).map argumentTokens)) := by
    refine fitsBeforeMark_intercalate (by decide) fun part mem => ?_
    rw [ShownArguments.ofArguments, List.map_map] at mem
    obtain ⟨argument, hargument, rfl⟩ := List.mem_map.mp mem
    exact fitsBeforeMark_argument (writable.names argument hargument) _
  have behind : Fits (mark ")" :: mark ";" :: rest) := by simpa using hrest
  simpa [argumentsTokens] using each ")" _ (by decide) behind

theorem fitsBeforeMark_construction {factory : Option String}
    (hfactory : ∀ method ∈ factory, isIdentifier method = true) (className : Shown) :
    FitsBeforeMark (constructionTokens factory className) := by
  intro s rest hs hrest
  have behind : Fits (mark ";" :: var "instance" :: mark "=" ::
      (factory.elim [word "new", var "class"] (fun method => [var "class", mark "::", word method]) ++
        mark s :: rest)) := by
    cases factory with
    | none => simp [hrest]
    | some method => simp [isLabel_of_isIdentifier (hfactory method rfl), hs, hrest]
  unfold constructionTokens
  split
  · cases factory with
    | none => simp [hs, hrest]
    | some method => simp [isLabel_of_isIdentifier (hfactory method rfl), hs, hrest]
  · simpa using fitsBeforeMark_value .code className ";" _ (by decide) behind

theorem fitsBefore_call {call : MethodCall} (writable : call.Writable) :
    FitsBefore (ShownCall.ofCall call).tokens := by
  intro rest hrest
  have behind := fitsBefore_arguments writable.arguments rest hrest
  rw [argumentsTokens, List.cons_append] at behind
  simpa [ShownCall.tokens, ShownCall.ofCall, argumentsTokens, isLabel_of_isIdentifier writable.method] using behind

theorem fitsBefore_configurator {c : Configurator} (writable : c.Writable) :
    FitsBefore (ShownConfigurator.ofConfigurator c).tokens := by
  intro rest hrest
  cases writable with
  | function isName => simp [ShownConfigurator.ofConfigurator, ShownConfigurator.tokens, handOverTokens, hrest]
  | @serviceMethod service method isMethod =>
      have label := isLabel_of_isIdentifier isMethod
      have behind : Fits (mark "->" :: word method :: (handOverTokens ++ rest)) := by
        simp [handOverTokens, label, hrest]
      simpa [ShownConfigurator.ofConfigurator, ShownConfigurator.tokens] using
        fitsBeforeMark_service service "->" _ (by decide) behind
  | classMethod isName isMethod =>
      have label := isLabel_of_isIdentifier isMethod
      simp [ShownConfigurator.ofConfigurator, ShownConfigurator.tokens, handOverTokens, label, hrest]
  | staticMethod _ method =>
      have behind : Fits (mark "," :: .quoted method :: mark ")" :: mark "," :: var "instance" :: mark ")" ::
          mark ";" :: rest) := by simp [hrest]
      simpa [ShownConfigurator.ofConfigurator, ShownConfigurator.tokens] using
        fitsBeforeMark_value .code _ "," _ (by decide) behind

theorem fitsBefore_end (id : ServiceId) (shared : Bool) : FitsBefore (endTokens id shared) := by
  intro rest hrest
  cases shared <;> simp +decide [endTokens, storeTokens, hrest]

theorem fitsBefore_file (file : Shown) : FitsBefore (fileTokens file) := by
  intro rest hrest
  have behind : Fits (mark ";" :: rest) := by simpa using hrest
  rw [fileTokens, List.cons_append, fits_word (by decide +kernel) (by decide), List.append_assoc]
  exact fitsBeforeMark_value .code file ";" rest (by decide) behind

theorem fitsBefore_definition {d : Definition} (writable : d.Writable) (id : ServiceId) :
    FitsBefore ((ShownDefinition.ofDefinition d).tokens id) := by
  have hfile : FitsBefore ((d.file.map Shown.ofValue).elim [] fileTokens) := by
    cases d.file with
    | none => exact fitsBefore_nil
    | some file => exact fitsBefore_file (.ofValue file)
  have hcalls : FitsBefore ((d.calls.map ShownCall.ofCall).flatMap ShownCall.tokens) := by
    rw [List.flatMap_map]
    exact fitsBefore_flatMap fun call mem => fitsBefore_call (writable.calls call mem)
  have hconfigurator : FitsBefore
      ((d.configurator.map ShownConfigurator.ofConfigurator).elim [] ShownConfigurator.tokens) := by
    cases hc : d.configurator with
    | none => exact fitsBefore_nil
    | some c => exact fitsBefore_configurator (writable.configurator c hc)
  refine hfile.append ?_
  intro rest hrest
  have behind := (fitsBefore_arguments writable.arguments) _
    ((hcalls.append (hconfigurator.append (fitsBefore_end id d.shared))) rest hrest)
  rw [argumentsTokens, List.cons_append] at behind
  simpa [ShownDefinition.ofDefinition, argumentsTokens] using
    fitsBeforeMark_construction writable.factory (.ofValue d.className) "(" _ (by decide) behind

theorem fitsBefore_entry {entry : Entry} (writable : ∀ d, entry = .definition d → d.Writable) (id : ServiceId) :
    FitsBefore ((ShownEntry.ofEntry entry).tokens id) := by
  cases entry with
  | definition d => exact fitsBefore_definition (writable d rfl) id
  | «alias» target =>
      intro rest hrest
      have behind : Fits (mark ";" :: rest) := by simpa using hrest
      have hservice := fitsBeforeMark_service target ";" rest (by decide) behind
      rw [ShownEntry.ofEntry, ShownEntry.tokens, List.cons_append, fits_word (by decide +kernel) (by decide),
        List.append_assoc]
      exact hservice

/-! ### Classes -/

theorem fitsBefore_method {name : String} {parameters body : List Token} (visibility : String)
    (label : IsLabel name.toList) (hparameters : FitsBefore parameters) (hbody : FitsBefore body) :
    FitsBefore (methodTokens visibility name parameters body) := by
  intro rest hrest
  have closing : Fits (mark "\x7d" :: rest) := by simpa using hrest
  have behind : Fits (mark ")" :: mark "\x7b" :: (body ++ mark "\x7d" :: rest)) := by simpa using hbody _ closing
  simpa +decide [methodTokens, label] using hparameters _ behind

theorem fitsBefore_id : FitsBefore [var "id"] := by
  intro rest hrest
  simpa using hrest

theorem fitsBefore_lookup : FitsBefore lookupTokens := by
  refine (fitsBefore_method "public" (by decide +kernel) fitsBefore_id ?hasService).append
    ((fitsBefore_method "public" (by decide +kernel) fitsBefore_id ?getService).append
      (fitsBefore_method "public" (by decide +kernel) fitsBefore_nil ?getServiceIds))
  case hasService =>
    intro rest hrest
    simp +decide [hasServiceTokens, elementTokens, parentCallTokens, hrest]
  case getService =>
    intro rest hrest
    simp +decide [getServiceTokens, elementTokens, parentCallTokens, hrest]
  case getServiceIds =>
    intro rest hrest
    simp +decide [getServiceIdsTokens, parentCallTokens, hrest]

theorem fitsBefore_constructor : FitsBefore constructorTokens := by
  refine fitsBefore_method "public" (by decide +kernel) fitsBefore_nil fun rest hrest => ?_
  simp +decide [hrest]

theorem fitsBefore_table (rows : List (ServiceId × String)) : FitsBefore (tableTokens rows) := by
  have hrows : FitsBefore (rows.flatMap rowTokens) := by
    refine fitsBefore_flatMap fun row _ rest hrest => ?_
    simpa [rowTokens] using hrest
  intro rest hrest
  have behind : Fits (mark ")" :: mark ";" :: rest) := by simpa using hrest
  simpa [tableTokens] using hrows _ behind

theorem fitsBefore_defaults (parameters : List (String × Shown)) : FitsBefore (defaultsTokens parameters) := by
  have hparameters : FitsBefore (parameters.flatMap defaultTokens) := by
    refine fitsBefore_flatMap fun parameter _ rest hrest => ?_
    have behind : Fits (mark "," :: rest) := by simpa using hrest
    simpa [defaultTokens] using fitsBeforeMark_value .parameters parameter.2 "," rest (by decide) behind
  refine fitsBefore_method "protected" (by decide +kernel) fitsBefore_nil fun rest hrest => ?_
  have behind : Fits (mark ")" :: mark ";" :: rest) := by simpa using hrest
  simpa using hparameters _ behind

theorem fits_contents {c : Container} (names : ClassNames)
    (writable : ∀ (id : ServiceId) (d : Definition), c.entries[id]? = some (.definition d) → d.Writable) :
    Fits (Contents.ofContainer names c).tokens := by
  have haccessors : FitsBefore ((Contents.ofContainer names c).entries.flatMap Contents.accessorTokens) := by
    rw [Contents.ofContainer, List.flatMap_map]
    refine fitsBefore_flatMap fun row mem => ?_
    obtain ⟨id, entry⟩ := row
    refine fitsBefore_method "protected" (isLabelName_iff.mp (isLabelName_accessorName id)) fitsBefore_nil ?_
    refine fitsBefore_entry (fun d hd => writable id d ?_) id
    rw [← hd]
    exact Std.ExtTreeMap.mem_toList_iff_getElem?_eq_some.mp mem
  have closing : Fits [mark "\x7d"] := by simp
  rw [Contents.tokens, fits_word (by decide +kernel) (by decide), fits_word_word, fits_word_word, fits_word_mark,
    fits_mark (by decide) (by decide)]
  have noFunction : "extends" ≠ "function" := by decide
  have noColon : "\x7b" ≠ ":" := by decide
  refine ⟨fun _ => by decide +kernel, fun heq => absurd heq noFunction, fun heq => absurd heq noColon, ?_⟩
  exact fitsBefore_table _ _ (fitsBefore_ite fitsBefore_constructor _ (fitsBefore_lookup _
    (haccessors _ (fitsBefore_ite (fitsBefore_defaults _) _ closing))))

end ServiceContainer.Php

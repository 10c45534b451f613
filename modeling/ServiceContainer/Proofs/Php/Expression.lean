import ServiceContainer.Php.ContainerClass
import ServiceContainer.Proofs.Php.Array
import ServiceContainer.Proofs.Resolution

/-!
# Generated expressions and what they evaluate to

The text of a generated value is that of an expression, which is evaluated over the parameters that
`getParameter` returns. Services stay symbolic.
-/

namespace ServiceContainer.Php

/-- The expressions that values are generated as. -/
inductive Expression where
  | literal (s : Scalar)
  | array (entries : List (Key × Expression))
  | service (id : ServiceId)
  | parameter (name : String)
  /-- String literals and parameters between dots. -/
  | concat (operands : List (Segment String))

namespace Expression

def parameterText (name : String) : String := "$this->getParameter(" ++ quote name ++ ")"

def operandText : Segment String → String
  | .literal s => quote s
  | .parameter name => parameterText name

def text : Expression → String
  | .literal s => scalar s
  | .array entries => "array(" ++ String.intercalate ", " (entryTexts entries) ++ ")"
  | .service id => serviceCall id
  | .parameter name => parameterText name
  | .concat operands => String.intercalate "." (operands.map operandText)
where
  entryTexts : List (Key × Expression) → List String
    | [] => []
    | (k, entry) :: entries => (key k ++ " => " ++ entry.text) :: entryTexts entries

def ofOperand : Segment String → Expression
  | .literal s => .literal (.text s)
  | .parameter name => .parameter name

theorem text_ofOperand (o : Segment String) : (ofOperand o).text = operandText o := by
  cases o <;> rfl

def operandValue (get : String → Value) : Segment String → Option String
  | .literal s => some s
  | .parameter name =>
    match get name with
    | .scalar s => some s.interpolated
    | _ => none

/-- The value of an expression, given what `getParameter` returns. -/
def eval (get : String → Value) : Expression → Option Value
  | .literal s => some (.scalar s)
  | .array entries => (evalEntries entries).map fun values => .list (arrayOf values)
  | .service id => some (.service id)
  | .parameter name => some (get name)
  | .concat operands => (operands.mapM (operandValue get)).map fun texts => .text (String.join texts)
where
  evalEntries : List (Key × Expression) → Option (List (Key × Value))
    | [] => some []
    | (k, entry) :: entries => do
      let value ← entry.eval get
      let values ← evalEntries entries
      return (k, value) :: values

end Expression

/-- A string literal that the place reads as the given text. -/
def placed (place : Place) (s : String) : String :=
  match place with
  | .code => s
  | .parameters => doublePercent s

def operand (place : Place) : Segment ParameterKey → Segment String
  | .literal s => .literal (placed place s)
  | .parameter key => .parameter key.text

/-- The expression that a value is generated as. Objects have none, and no segments are no expression. -/
def expression (place : Place) : Value → Option Expression
  | .scalar (.text s) => some (.literal (.text (placed place s)))
  | .scalar s => some (.literal s)
  | .list items => (entries items).map .array
  | .service id => some (.service id)
  | .parameter key => some (.parameter key.text)
  | .template [] => none
  | .template [segment] => some (.ofOperand (operand place segment))
  | .template segments => some (.concat (segments.map (operand place)))
  | .object _ => none
where
  entries : List (Key × Value) → Option (List (Key × Expression))
    | [] => some []
    | (k, item) :: items => do
      let e ← expression place item
      let es ← entries items
      return (k, e) :: es

/-! ### The text of an expression -/

variable {place : Place}

theorem textAt_eq_quote_placed (s : String) : textAt place s = quote (placed place s) := by
  cases place <;> rfl

theorem parameterCall_eq_parameterText (key : ParameterKey) :
    parameterCall key = Expression.parameterText key.text := by
  unfold parameterCall Expression.parameterText
  rw [ParameterKey.lowercase_text]

theorem segment_eq_operandText (s : Segment ParameterKey) :
    segment place s = Expression.operandText (operand place s) := by
  cases s with
  | literal s => exact textAt_eq_quote_placed s
  | parameter key => exact parameterCall_eq_parameterText key

theorem entries_eq_some_cons {k : Key} {item : Value} {items : List (Key × Value)}
    {es : List (Key × Expression)} :
    expression.entries place ((k, item) :: items) = some es ↔
      ∃ e, expression place item = some e ∧
        ∃ es', expression.entries place items = some es' ∧ (k, e) :: es' = es := by
  simp [expression.entries, Option.bind_eq_some_iff]

theorem exists_expression_of_mem {items : List (Key × Value)} {es : List (Key × Expression)}
    (hes : expression.entries place items = some es) {entry : Key × Value} (mem : entry ∈ items) :
    ∃ e, expression place entry.2 = some e := by
  induction items generalizing es with
  | nil => cases mem
  | cons first items ih =>
      obtain ⟨e, he, es', hes', rfl⟩ := entries_eq_some_cons.mp hes
      rcases List.mem_cons.mp mem with rfl | mem
      · exact ⟨e, he⟩
      · exact ih hes' mem

theorem entries_of_expression {items : List (Key × Value)} {es : List (Key × Expression)}
    (hitems : ∀ entry ∈ items, ∀ {e}, expression place entry.2 = some e →
      value place entry.2 = .ok e.text)
    (hes : expression.entries place items = some es) :
    value.entries place items = .ok (Expression.text.entryTexts es) := by
  induction items generalizing es with
  | nil =>
      cases hes
      rfl
  | cons entry items ih =>
      obtain ⟨k, item⟩ := entry
      obtain ⟨hitem, hitems⟩ := List.forall_mem_cons.mp hitems
      obtain ⟨e, he, es', hes', rfl⟩ := entries_eq_some_cons.mp hes
      rw [value.entries, hitem he, ih hitems hes']
      rfl

theorem value_of_expression {v : Value} {e : Expression} (hv : expression place v = some e) :
    value place v = .ok e.text := by
  induction v generalizing e with
  | scalar s =>
      cases s with
      | text s =>
          cases hv
          exact congrArg Except.ok (textAt_eq_quote_placed s)
      | null => cases hv; rfl
      | bool b => cases hv; rfl
      | int n => cases hv; rfl
      | float x => cases hv; rfl
  | list items ih =>
      obtain ⟨es, hes, rfl⟩ := Option.map_eq_some_iff.mp hv
      rw [value, entries_of_expression (fun entry mem {_} he => ih entry mem he) hes]
      rfl
  | service id =>
      cases hv
      rfl
  | parameter key =>
      cases hv
      exact congrArg Except.ok (parameterCall_eq_parameterText key)
  | template segments =>
      rw [value]
      match segments, hv with
      | [single], hv =>
          cases hv
          rw [List.map_singleton, segment_eq_operandText, Expression.text_ofOperand]
          rfl
      | first :: second :: rest, hv =>
          cases hv
          rw [Expression.text, List.map_map]
          exact congrArg (fun texts => Except.ok (String.intercalate "." texts))
            (List.map_congr_left fun s _ => segment_eq_operandText s)
  | object type => cases hv

/-- Each parameter comes with the expression of its value. -/
def Expressed (parameters : List (ParameterKey × Value)) (es : List (ParameterKey × Expression)) : Prop :=
  List.Forall₂ (fun p e => p.1 = e.1 ∧ expression .parameters p.2 = some e.2) parameters es

/-- The method that returns the values of expressions, each under the name of its parameter. -/
def defaultsText (es : List (ParameterKey × Expression)) : String :=
  method "protected" "getDefaultParameters" ""
    ("    return array(\n" ++ String.join (es.map fun e => "      " ++ quote e.1.text ++ " => " ++ e.2.text ++ ",\n") ++
      "    );\n")

theorem defaultParameters_of_expressions {parameters : List (ParameterKey × Value)}
    {es : List (ParameterKey × Expression)} (hes : Expressed parameters es) :
    defaultParameters parameters = .ok (defaultsText es) := by
  rw [defaultParameters, bind_eq_ok_iff]
  refine ⟨es.map fun e => "      " ++ quote e.1.text ++ " => " ++ e.2.text ++ ",\n", ?_, ?_⟩
  · rw [mapM_eq_ok_iff, List.forall₂_map_right_iff]
    refine hes.imp ?_
    rintro ⟨key, v⟩ ⟨_, e⟩ ⟨rfl, he⟩
    simp only [value_of_expression he]
    rfl
  · rfl

/-! ### The value of an expression -/

def denote (place : Place) (get : String → Value) (v : Value) : Option Value :=
  (expression place v).bind (Expression.eval get)

variable {get get' : String → Value}

theorem denoteItems_eq_mapM (items : List (Key × Value)) :
    (expression.entries place items).bind (Expression.eval.evalEntries get) =
      items.mapM fun entry => (denote place get entry.2).map (entry.1, ·) := by
  induction items with
  | nil => rfl
  | cons entry items ih =>
      obtain ⟨k, item⟩ := entry
      rw [List.mapM_cons, ← ih, expression.entries, denote]
      cases expression place item with
      | none => rfl
      | some e =>
          cases expression.entries place items with
          | none => cases hvalue : e.eval get <;> simp [hvalue]
          | some es => cases hvalue : e.eval get <;> simp [Expression.eval.evalEntries, hvalue]

theorem denote_list (items : List (Key × Value)) :
    denote place get (.list items) =
      (items.mapM fun entry => (denote place get entry.2).map (entry.1, ·)).map
        fun values => .list (arrayOf values) := by
  rw [← denoteItems_eq_mapM, denote, expression]
  cases expression.entries place items <;> rfl

theorem denote_template (first second : Segment ParameterKey) (rest : List (Segment ParameterKey)) :
    denote place get (.template (first :: second :: rest)) =
      ((first :: second :: rest).mapM fun segment => Expression.operandValue get (operand place segment)).map
        fun texts => .text (String.join texts) := by
  have hconcat : denote place get (.template (first :: second :: rest)) =
      (((first :: second :: rest).map (operand place)).mapM (Expression.operandValue get)).map
        fun texts => .text (String.join texts) := rfl
  rw [hconcat, List.mapM_map]
  rfl

theorem denote_list_eq_some_iff {items : List (Key × Value)} {s : Value} :
    denote place get (.list items) = some s ↔
      ∃ values, s = .list (arrayOf values) ∧
        List.Forall₂ (fun entry s => entry.1 = s.1 ∧ denote place get entry.2 = some s.2) items values := by
  have hentry : ∀ entry s : Key × Value, (denote place get entry.2).map (entry.1, ·) = some s ↔
      entry.1 = s.1 ∧ denote place get entry.2 = some s.2 := by
    intro entry s
    rw [Option.map_eq_some_iff]
    constructor
    · rintro ⟨item, hitem, rfl⟩
      exact ⟨rfl, hitem⟩
    · rintro ⟨hkey, hitem⟩
      exact ⟨s.2, hitem, Prod.ext hkey rfl⟩
  rw [denote_list, Option.map_eq_some_iff]
  simp only [mapM_eq_some_iff, hentry]
  constructor
  · rintro ⟨values, hall, rfl⟩
    exact ⟨values, rfl, hall⟩
  · rintro ⟨values, rfl, hall⟩
    exact ⟨values, hall, rfl⟩

theorem denote_template_eq_some_iff {first second : Segment ParameterKey}
    {rest : List (Segment ParameterKey)} {s : Value} :
    denote place get (.template (first :: second :: rest)) = some s ↔
      ∃ texts, s = .text (String.join texts) ∧
        List.Forall₂ (fun segment text => Expression.operandValue get (operand place segment) = some text)
          (first :: second :: rest) texts := by
  rw [denote_template, Option.map_eq_some_iff]
  simp only [mapM_eq_some_iff]
  constructor
  · rintro ⟨texts, hall, rfl⟩
    exact ⟨texts, rfl, hall⟩
  · rintro ⟨texts, rfl, hall⟩
    exact ⟨texts, hall, rfl⟩

theorem operandValue_congr {segment : Segment ParameterKey}
    (agree : ∀ key, segment = .parameter key → get key.text = get' key.text) :
    Expression.operandValue get (operand place segment) =
      Expression.operandValue get' (operand place segment) := by
  cases segment with
  | literal s => rfl
  | parameter key => rw [operand, Expression.operandValue, Expression.operandValue, agree key rfl]

theorem denote_congr {v : Value} (agree : ∀ key ∈ v.parameters, get key.text = get' key.text) :
    denote place get v = denote place get' v := by
  induction v with
  | scalar s => cases s <;> rfl
  | list items ih =>
      rw [Value.parameters_list] at agree
      rw [denote_list, denote_list]
      refine congrArg _ (mapM_congr fun entry mem => ?_)
      rw [ih entry mem fun key hkey => agree key (List.mem_flatMap.mpr ⟨entry, mem, hkey⟩)]
  | service id => rfl
  | parameter key => exact congrArg some (agree key (List.mem_singleton_self key))
  | template segments =>
      have hsegments : ∀ segment ∈ segments, ∀ key, segment = .parameter key →
          get key.text = get' key.text := by
        rintro _ mem key rfl
        exact agree key (Value.mem_parameters_template.mpr mem)
      match segments, hsegments with
      | [], _ => rfl
      | [.literal s], _ => rfl
      | [.parameter key], hsegments =>
          exact congrArg some (hsegments _ (List.mem_singleton_self _) key rfl)
      | first :: second :: rest, hsegments =>
          rw [denote_template, denote_template]
          exact congrArg _ (mapM_congr fun segment mem => operandValue_congr (hsegments segment mem))
  | object type => rfl

end ServiceContainer.Php

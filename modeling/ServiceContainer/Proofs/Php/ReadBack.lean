import ServiceContainer.Proofs.Php.Expression
import ServiceContainer.Proofs.Php.PercentSigns

/-!
# Reading generated values back

A configured value is resolved by the compiler, and it is generated as an expression whose value is read
from the parameter bag. Both give the same exactly when the percent signs and the keys in it are kept.
-/

namespace ServiceContainer

/-- What segments contribute to a string when parameters have the given values. -/
def Segment.marked (find : ParameterKey → Except Failure Value) :
    Segment ParameterKey → List (Origin × Char)
  | .literal s => fromLiteral s
  | .parameter key =>
    match find key with
    | .ok (.scalar s) => fromParameter s.interpolated
    | _ => []

namespace Value

/-- The value that is read from the bag. -/
def unescaped : Value → Value
  | .scalar (.text s) => .text (String.ofList (unescape s.toList))
  | .list items => .list (unescapedItems items)
  | .scalar s => .scalar s
  | .service id => .service id
  | .parameter key => .parameter key
  | .template segments => .template segments
  | .object type => .object type
where
  unescapedItems : List (Key × Value) → List (Key × Value)
    | [] => []
    | (key, item) :: items => (key, item.unescaped) :: unescapedItems items

def texts : Value → List String
  | .scalar (.text s) => [s]
  | .list items => ofItems items
  | .scalar _ | .service _ | .parameter _ | .template _ | .object _ => []
where
  ofItems : List (Key × Value) → List String
    | [] => []
    | (_, item) :: items => item.texts ++ ofItems items

/-- Whether reading a value from the bag gives what it resolves to, as long as that holds of the parameters
that it refers to. Array literals keep their keys, and percent signs from parameters never meet; a parameter
that stands alone is read twice. -/
def ReadsBack (find : ParameterKey → Except Failure Value) : Value → Prop
  | .scalar _ | .service _ => True
  | .list items => Php.KeysKept (items.map (·.1)) ∧ ofItems items
  | .parameter key =>
    ∀ value, find key = .ok value → ∀ s ∈ value.texts, percentsKept false (fromParameter s)
  | .template segments =>
    segments ≠ [] ∧ (∀ key, segments = [.parameter key] → ∃ s, find key = .ok (.text s)) ∧
      percentsKept false (segments.flatMap (Segment.marked find))
  | .object _ => False
where
  ofItems : List (Key × Value) → Prop
    | [] => True
    | (_, item) :: items => item.ReadsBack find ∧ ofItems items

theorem unescaped_list (items : List (Key × Value)) :
    (list items).unescaped = list (items.map fun entry => (entry.1, entry.2.unescaped)) := by
  rw [unescaped]
  induction items with
  | nil => rfl
  | cons entry items ih =>
      rw [list.injEq] at ih
      rw [unescaped.unescapedItems, ih, List.map_cons]

theorem texts_list (items : List (Key × Value)) :
    (list items).texts = items.flatMap fun entry => entry.2.texts := by
  rw [texts]
  induction items with
  | nil => rfl
  | cons entry items ih => rw [texts.ofItems, ih, List.flatMap_cons]

theorem readsBack_list {find : ParameterKey → Except Failure Value} {items : List (Key × Value)} :
    (list items).ReadsBack find ↔
      Php.KeysKept (items.map (·.1)) ∧ ∀ entry ∈ items, entry.2.ReadsBack find := by
  have hitems : ReadsBack.ofItems find items ↔ ∀ entry ∈ items, entry.2.ReadsBack find := by
    induction items with
    | nil => exact iff_of_true trivial (by simp)
    | cons entry items ih => rw [ReadsBack.ofItems, ih, List.forall_mem_cons]
  rw [ReadsBack, hitems]

theorem exists_unescaped_scalar (x : Scalar) : ∃ y, (scalar x).unescaped = .scalar y := by
  cases x <;> exact ⟨_, rfl⟩

theorem unescaped_text (s : String) : (text s).unescaped = text (String.ofList (unescape s.toList)) := rfl

theorem unescaped_text_eq_iff {s t : String} :
    (text s).unescaped = text t ↔ unescape s.toList = t.toList := by
  rw [unescaped_text, text, text, scalar.injEq, Scalar.text.injEq, ← String.toList_inj,
    String.toList_ofList]

theorem unescaped_eq_self_iff {v : Value} :
    v.unescaped = v ↔ ∀ s ∈ v.texts, percentsKept false (fromParameter s) := by
  induction v with
  | scalar s =>
      cases s with
      | text s =>
          rw [texts, List.forall_mem_singleton, ← unescape_eq_self_iff]
          exact unescaped_text_eq_iff
      | _ => exact iff_of_true rfl (by simp [texts])
  | list items ih =>
      have hmap : (items.map fun entry => (entry.1, entry.2.unescaped)) = items ↔
          ∀ entry ∈ items, entry.2.unescaped = entry.2 := by
        conv_lhs => rhs; rw [← List.map_id items]
        rw [List.map_inj_left]
        simp [Prod.ext_iff]
      rw [unescaped_list, texts_list, list.injEq, List.forall_mem_flatMap, hmap]
      exact forall₂_congr ih
  | _ => exact iff_of_true rfl (by simp [texts])

end Value

/-! ### Reading back what is generated -/

variable {find : ParameterKey → Except Failure Value} {get : String → Value}

theorem Segment.toList_of_interpolate {segment : Segment ParameterKey} {text : String}
    (hok : segment.interpolate find = .ok text) : text.toList = (segment.marked find).map (·.2) := by
  cases segment with
  | literal s =>
      obtain rfl : s = text := Except.ok.inj hok
      exact (map_snd_fromLiteral s).symm
  | parameter key =>
      obtain ⟨s, hfind, rfl⟩ := Segment.interpolate_eq_ok_iff.mp hok
      rw [marked, hfind, map_snd_fromParameter]

theorem Segment.operandValue_of_interpolate (agree : ∀ {key r}, find key = .ok r → get key.text = r)
    {segment : Segment ParameterKey} {text : String} (hok : segment.interpolate find = .ok text) :
    Php.Expression.operandValue get (Php.operand .parameters segment) =
      some (String.ofList (storedText (segment.marked find))) := by
  cases segment with
  | literal s =>
      rw [marked, storedText_fromLiteral, ← toList_doublePercent, String.ofList_toList]
      rfl
  | parameter key =>
      obtain ⟨s, hfind, rfl⟩ := Segment.interpolate_eq_ok_iff.mp hok
      rw [marked, hfind, storedText_fromParameter, String.ofList_toList, Php.operand,
        Php.Expression.operandValue, agree hfind]

namespace Value

theorem readsBack_items {items resolved : List (Key × Value)}
    (hall : List.Forall₂ (fun entry r => entry.1 = r.1 ∧ entry.2.substitute find = .ok r.2) items resolved)
    (hitems : ∀ entry ∈ items, ∀ {r}, entry.2.substitute find = .ok r →
      ((∃ s, Php.denote .parameters get entry.2 = some s ∧ s.unescaped = r) ↔ entry.2.ReadsBack find)) :
    (∃ values : List (Key × Value),
      List.Forall₂ (fun entry s => entry.1 = s.1 ∧ Php.denote .parameters get entry.2 = some s.2)
        items values ∧
      values.map (fun entry => (entry.1, entry.2.unescaped)) = resolved) ↔
      ∀ entry ∈ items, entry.2.ReadsBack find := by
  induction hall with
  | nil => exact iff_of_true ⟨[], List.Forall₂.nil, rfl⟩ (by simp)
  | @cons entry r items resolved hentry hall ih =>
      obtain ⟨hitem, hitems⟩ := List.forall_mem_cons.mp hitems
      rw [List.forall_mem_cons, ← ih hitems, ← hitem hentry.2]
      constructor
      · rintro ⟨_, hvalues, heq⟩
        cases hvalues with
        | @cons _ s _ values hs hvalues =>
            obtain ⟨hhead, htail⟩ := List.cons_eq_cons.mp heq
            exact ⟨⟨s.2, hs.2, congrArg Prod.snd hhead⟩, values, hvalues, htail⟩
      · rintro ⟨⟨s, hs, hunescaped⟩, values, hvalues, htail⟩
        refine ⟨(entry.1, s) :: values, List.Forall₂.cons ⟨rfl, hs⟩ hvalues, ?_⟩
        rw [List.map_cons, htail, hunescaped, hentry.1]

theorem exists_denote_list_iff {items resolved : List (Key × Value)}
    (hkeys : items.map (·.1) = resolved.map (·.1)) :
    (∃ s, Php.denote .parameters get (list items) = some s ∧ s.unescaped = list resolved) ↔
      Php.KeysKept (items.map (·.1)) ∧ ∃ values : List (Key × Value),
        List.Forall₂ (fun entry s => entry.1 = s.1 ∧ Php.denote .parameters get entry.2 = some s.2)
          items values ∧
        values.map (fun entry => (entry.1, entry.2.unescaped)) = resolved := by
  constructor
  · rintro ⟨s, hs, hunescaped⟩
    obtain ⟨values, rfl, hvalues⟩ := Php.denote_list_eq_some_iff.mp hs
    rw [unescaped_list, list.injEq] at hunescaped
    have hkept : Php.KeysKept (items.map (·.1)) := by
      rw [hkeys, ← hunescaped, List.map_map]
      exact Php.keysKept_arrayOf values
    rw [Php.arrayOf_of_keysKept (map_fst_eq_of_forall₂ hvalues ▸ hkept)] at hunescaped
    exact ⟨hkept, values, hvalues, hunescaped⟩
  · rintro ⟨hkept, values, hvalues, rfl⟩
    have harray : Php.arrayOf values = values :=
      Php.arrayOf_of_keysKept (map_fst_eq_of_forall₂ hvalues ▸ hkept)
    refine ⟨list values, Php.denote_list_eq_some_iff.mpr ⟨values, ?_, hvalues⟩, unescaped_list values⟩
    rw [harray]

theorem toList_join_of_interpolate {segments : List (Segment ParameterKey)} {texts : List String}
    (hall : List.Forall₂ (fun segment text => Segment.interpolate find segment = .ok text) segments texts) :
    (String.join texts).toList = (segments.flatMap (Segment.marked find)).map (·.2) := by
  induction hall with
  | nil => rfl
  | cons hsegment _ ih =>
      rw [String.toList_join] at ih ⊢
      rw [List.flatMap_cons, List.flatMap_cons, List.map_append, ih,
        Segment.toList_of_interpolate hsegment]

theorem exists_operands_of_interpolate (agree : ∀ {key r}, find key = .ok r → get key.text = r)
    {segments : List (Segment ParameterKey)} {texts : List String}
    (hall : List.Forall₂ (fun segment text => Segment.interpolate find segment = .ok text) segments texts) :
    ∃ operands, List.Forall₂ (fun segment text =>
        Php.Expression.operandValue get (Php.operand .parameters segment) = some text) segments operands ∧
      (String.join operands).toList = storedText (segments.flatMap (Segment.marked find)) := by
  induction hall with
  | nil => exact ⟨[], List.Forall₂.nil, rfl⟩
  | cons hsegment _ ih =>
      obtain ⟨operands, hoperands, hjoin⟩ := ih
      have hoperand := Segment.operandValue_of_interpolate agree hsegment
      refine ⟨_ :: operands, List.Forall₂.cons hoperand hoperands, ?_⟩
      rw [String.toList_join] at hjoin ⊢
      rw [List.flatMap_cons, List.flatMap_cons, storedText_append, hjoin, String.toList_ofList]

/-- A template of a single parameter is generated as that parameter, but resolves to a text. -/
theorem readsBack_template_parameter (agree : ∀ {key r}, find key = .ok r → get key.text = r)
    {key : ParameterKey} {r : Value}
    (hsubstitute : (template [.parameter key]).substitute find = .ok r) :
    (∃ s, Php.denote .parameters get (template [.parameter key]) = some s ∧ s.unescaped = r) ↔
      (template [.parameter key]).ReadsBack find := by
  obtain ⟨texts, rfl, hall⟩ := substitute_template_eq_ok_iff.mp hsubstitute
  obtain ⟨t, rfl, hinterpolate⟩ :
      ∃ t, texts = [t] ∧ Segment.interpolate find (.parameter key) = .ok t := by
    cases hall with
    | cons ht hnil =>
        cases hnil
        exact ⟨_, rfl, ht⟩
  obtain ⟨x, hfind, rfl⟩ := Segment.interpolate_eq_ok_iff.mp hinterpolate
  have hdenote : Php.denote .parameters get (template [.parameter key]) = some (.scalar x) :=
    congrArg some (agree hfind)
  rw [hdenote, ReadsBack]
  cases x with
  | text t =>
      have hkept : (text t).unescaped = text t ↔ percentsKept false (fromParameter t) := by
        rw [unescaped_text_eq_iff, unescape_eq_self_iff]
      simp [hfind, Segment.marked, Scalar.interpolated, ← hkept, text]
  | _ => simp [hfind, unescaped, text]

theorem readsBack_template (agree : ∀ {key r}, find key = .ok r → get key.text = r)
    {segments : List (Segment ParameterKey)} {r : Value}
    (hsubstitute : (template segments).substitute find = .ok r) :
    (∃ s, Php.denote .parameters get (template segments) = some s ∧ s.unescaped = r) ↔
      (template segments).ReadsBack find := by
  obtain ⟨texts, rfl, hall⟩ := substitute_template_eq_ok_iff.mp hsubstitute
  obtain ⟨operands, hoperands, hjoin⟩ := exists_operands_of_interpolate agree hall
  have hkept := (unescape_storedText_iff (segments.flatMap (Segment.marked find))).1
  rw [← hjoin, ← toList_join_of_interpolate hall, ← unescaped_text_eq_iff] at hkept
  -- a single segment is an expression of its own; only from two segments on is there a concatenation
  match segments, hsubstitute, hoperands, hkept with
  | [], _, _, _ =>
      refine iff_of_false ?_ (fun h => h.1 rfl)
      rintro ⟨s, hs, -⟩
      cases hs
  | [.literal s], _, hoperands, hkept =>
      have hdenote : Php.denote .parameters get (template [.literal s]) =
          some (text (String.join operands)) := by
        cases hoperands with
        | cons hs hnil =>
            cases hnil
            cases hs
            simp [Php.denote, Php.expression, Php.operand, Php.Expression.ofOperand,
              Php.Expression.eval, text]
      rw [hdenote, ReadsBack, ← hkept]
      simp
  | [.parameter key], hsubstitute, _, _ => exact readsBack_template_parameter agree hsubstitute
  | first :: second :: rest, _, hoperands, hkept =>
      have hdenote : Php.denote .parameters get (template (first :: second :: rest)) =
          some (text (String.join operands)) :=
        Php.denote_template_eq_some_iff.mpr ⟨operands, rfl, hoperands⟩
      rw [hdenote, ReadsBack, ← hkept]
      simp

/-- A value is read back from the bag as what it resolves to exactly when its percent signs allow it,
provided that this holds of the parameters that it refers to. -/
theorem readsBack_iff (agree : ∀ {key r}, find key = .ok r → get key.text = r) {v r : Value}
    (hsubstitute : v.substitute find = .ok r) :
    (∃ s, Php.denote .parameters get v = some s ∧ s.unescaped = r) ↔ v.ReadsBack find := by
  induction v generalizing r with
  | scalar s =>
      cases hsubstitute
      refine iff_of_true ?_ trivial
      cases s with
      | text s =>
          refine ⟨text (doublePercent s), rfl, ?_⟩
          rw [← text, unescaped_text_eq_iff, toList_doublePercent, unescape_doubled]
      | null => exact ⟨_, rfl, rfl⟩
      | bool b => exact ⟨_, rfl, rfl⟩
      | int n => exact ⟨_, rfl, rfl⟩
      | float x => exact ⟨_, rfl, rfl⟩
  | list items ih =>
      obtain ⟨resolved, rfl, hall⟩ := substitute_list_eq_ok_iff.mp hsubstitute
      rw [exists_denote_list_iff (map_fst_eq_of_forall₂ hall), readsBack_items hall ih, readsBack_list]
  | service id =>
      cases hsubstitute
      exact iff_of_true ⟨_, rfl, rfl⟩ trivial
  | parameter key =>
      have hdenote : (∃ s, Php.denote .parameters get (parameter key) = some s ∧ s.unescaped = r) ↔
          r.unescaped = r := by
        rw [← agree hsubstitute]
        simp [Php.denote, Php.expression, Php.Expression.eval]
      rw [hdenote, unescaped_eq_self_iff, ReadsBack]
      constructor
      · intro hkept value hvalue
        cases hsubstitute.symm.trans hvalue
        exact hkept
      · exact fun hkept => hkept r hsubstitute
  | template segments => exact readsBack_template agree hsubstitute
  | object type =>
      refine iff_of_false ?_ id
      rintro ⟨s, hs, -⟩
      cases hs

/-! ### Generated values exist -/

theorem exists_denote_template {segments : List (Segment ParameterKey)} (hne : segments ≠ [])
    (hscalar : ∀ key, .parameter key ∈ segments → ∃ x, get key.text = .scalar x) :
    ∃ s x, Php.denote .parameters get (template segments) = some s ∧ s.unescaped = .scalar x := by
  match segments, hscalar with
  | [], _ => exact absurd rfl hne
  | [.literal s], _ => exact ⟨_, _, rfl, rfl⟩
  | [.parameter key], hscalar =>
      obtain ⟨x, hx⟩ := hscalar key (List.mem_singleton_self _)
      obtain ⟨y, hy⟩ := exists_unescaped_scalar x
      exact ⟨.scalar x, y, congrArg some hx, hy⟩
  | first :: second :: rest, hscalar =>
      have each : ∀ segment ∈ first :: second :: rest, ∃ t,
          Php.Expression.operandValue get (Php.operand .parameters segment) = some t := by
        intro segment mem
        cases segment with
        | literal s => exact ⟨_, rfl⟩
        | parameter key =>
            obtain ⟨x, hx⟩ := hscalar key mem
            rw [Php.operand, Php.Expression.operandValue, hx]
            exact ⟨_, rfl⟩
      obtain ⟨operands, hoperands⟩ := exists_forall₂ each
      exact ⟨_, _, Php.denote_template_eq_some_iff.mpr ⟨operands, rfl, hoperands⟩, rfl⟩

/-- The expression of a value that resolves has a value itself, as long as the parameters that resolve to
scalars are read as scalars. -/
theorem exists_denote {v r : Value} (hexpression : ∃ e, Php.expression .parameters v = some e)
    (kinds : ∀ key ∈ v.parameters, ∀ x, find key = .ok (.scalar x) → ∃ y, get key.text = .scalar y)
    (hsubstitute : v.substitute find = .ok r) :
    ∃ s, Php.denote .parameters get v = some s ∧
      ((∃ x, r = .scalar x) → ∃ y, s.unescaped = .scalar y) := by
  induction v generalizing r with
  | scalar s => cases s <;> exact ⟨_, rfl, fun _ => ⟨_, rfl⟩⟩
  | list items ih =>
      obtain ⟨e, he⟩ := hexpression
      obtain ⟨es, hes, -⟩ := Option.map_eq_some_iff.mp he
      obtain ⟨resolved, rfl, hall⟩ := substitute_list_eq_ok_iff.mp hsubstitute
      rw [parameters_list] at kinds
      have each : ∀ entry ∈ items, ∃ s : Key × Value,
          entry.1 = s.1 ∧ Php.denote .parameters get entry.2 = some s.2 := by
        intro entry mem
        obtain ⟨r, -, -, hr⟩ := exists_of_forall₂ hall mem
        obtain ⟨s, hs, -⟩ := ih entry mem (Php.exists_expression_of_mem hes mem)
          (fun key hkey => kinds key (List.mem_flatMap.mpr ⟨entry, mem, hkey⟩)) hr
        exact ⟨(entry.1, s), rfl, hs⟩
      obtain ⟨values, hvalues⟩ := exists_forall₂ each
      refine ⟨.list _, Php.denote_list_eq_some_iff.mpr ⟨values, rfl, hvalues⟩, ?_⟩
      rintro ⟨x, hx⟩
      cases hx
  | service id =>
      cases hsubstitute
      refine ⟨.service id, rfl, ?_⟩
      rintro ⟨x, hx⟩
      cases hx
  | parameter key =>
      refine ⟨get key.text, rfl, ?_⟩
      rintro ⟨x, rfl⟩
      obtain ⟨y, hy⟩ := kinds key (List.mem_singleton_self key) x hsubstitute
      rw [hy]
      exact exists_unescaped_scalar y
  | template segments =>
      obtain ⟨e, he⟩ := hexpression
      have hne : segments ≠ [] := by
        rintro rfl
        cases he
      obtain ⟨texts, rfl, hall⟩ := substitute_template_eq_ok_iff.mp hsubstitute
      have hscalar : ∀ key, .parameter key ∈ segments → ∃ x, get key.text = .scalar x := by
        intro key mem
        obtain ⟨t, -, ht⟩ := exists_of_forall₂ hall mem
        obtain ⟨x, hx, -⟩ := Segment.interpolate_eq_ok_iff.mp ht
        exact kinds key (mem_parameters_template.mpr mem) x hx
      obtain ⟨s, x, hs, hx⟩ := exists_denote_template hne hscalar
      exact ⟨s, hs, fun _ => ⟨x, hx⟩⟩
  | object type =>
      obtain ⟨e, he⟩ := hexpression
      cases he

end Value

end ServiceContainer

import ServiceContainer.Proofs.Resolution
import ServiceContainer.Proofs.Value.Kinds

/-!
# Strings resolve as they are written

Bringing a string to its normal form runs literals together and drops empty ones. The parameters stay, in the
order in which they are looked up, with the same text between them. So the normal form resolves to what the
segments stand for, or fails as they do; only a parameter that is left alone keeps the type of its value.
-/

namespace ServiceContainer

variable {find : ParameterKey → Except Failure Value} {segments rest : List (Segment ParameterKey)}

namespace Segment

/-- The texts of segments one behind the other, or the first failure among them. -/
def interpolateAll (find : ParameterKey → Except Failure Value) (segments : List (Segment ParameterKey)) :
    Except Failure String :=
  (segments.mapM (interpolate find)).map String.join

theorem interpolateAll_nil : interpolateAll find [] = .ok "" := rfl

theorem interpolateAll_cons (segment : Segment ParameterKey) :
    interpolateAll find (segment :: rest) = do
      let text ← segment.interpolate find
      let texts ← interpolateAll find rest
      return text ++ texts := by
  rw [interpolateAll, interpolateAll, List.mapM_cons]
  cases segment.interpolate find with
  | error failure => rfl
  | ok text =>
      cases rest.mapM (interpolate find) with
      | error failure => rfl
      | ok texts => exact congrArg Except.ok String.join_cons

theorem interpolateAll_literal (s : String) :
    interpolateAll find (.literal s :: rest) = (interpolateAll find rest).map (s ++ ·) := by
  rw [interpolateAll_cons]
  rfl

theorem interpolateAll_singleton (segment : Segment ParameterKey) :
    interpolateAll find [segment] = segment.interpolate find := by
  rw [interpolateAll_cons, interpolateAll_nil]
  cases segment.interpolate find with
  | error failure => rfl
  | ok text => exact congrArg Except.ok String.append_empty

/-- A literal that runs into the next one leaves the text as it is. -/
theorem interpolateAll_cons_eq (segment : Segment ParameterKey) :
    interpolateAll find (cons segment rest) = interpolateAll find (segment :: rest) := by
  cases segment with
  | parameter key => rfl
  | literal s =>
      by_cases hs : s = ""
      · subst hs
        rw [cons_literal_empty, interpolateAll_literal]
        cases interpolateAll find rest with
        | error failure => rfl
        | ok text => exact congrArg Except.ok String.empty_append.symm
      · rcases rest with _ | ⟨t | key, rest⟩
        · rw [cons_literal_nil hs]
        · rw [cons_literal_literal hs]
          simp only [interpolateAll_literal]
          cases interpolateAll find rest with
          | error failure => rfl
          | ok text => exact congrArg Except.ok String.append_assoc
        · rw [cons_literal_parameter hs]

theorem interpolateAll_merge (segments : List (Segment ParameterKey)) :
    interpolateAll find (merge segments) = interpolateAll find segments := by
  induction segments with
  | nil => rfl
  | cons segment segments ih => rw [merge_cons, interpolateAll_cons_eq, interpolateAll_cons, interpolateAll_cons, ih]

end Segment

namespace Value

theorem substitute_template (segments : List (Segment ParameterKey)) :
    (template segments).substitute find = (Segment.interpolateAll find segments).map text := by
  rw [substitute, Segment.interpolateAll]
  cases segments.mapM (Segment.interpolate find) <;> rfl

theorem ofSegments_merge (segments : List (Segment ParameterKey)) :
    ofSegments (Segment.merge segments) = ofSegments segments := by
  rw [ofSegments, ofSegments, Segment.merge_of_merged (Segment.merge_merged segments)]

/-- The segments of a normal form are their own normal form. -/
theorem ofSegments_of_eq_template {others : List (Segment ParameterKey)}
    (heq : ofSegments segments = .template others) : ofSegments others = .template others := by
  have merged := Segment.merge_merged segments
  rw [← ofSegments_merge] at heq
  obtain ⟨-, -, rfl⟩ := (ofSegments_eq_template_iff merged).mp heq
  exact heq

theorem substitute_ofSegments (mixed : ∀ key, ofSegments segments ≠ .parameter key) :
    (ofSegments segments).substitute find = (template segments).substitute find := by
  rw [substitute_template, ← Segment.interpolateAll_merge]
  have standsFor := standsFor_ofSegments (Segment.merge_merged segments)
  rw [ofSegments_merge] at standsFor
  generalize Segment.merge segments = merged at standsFor
  generalize ofSegments segments = v at standsFor mixed
  cases standsFor with
  | nothing => rfl
  | literal s => rw [Segment.interpolateAll_singleton]; rfl
  | parameter key => exact absurd rfl (mixed key)
  | template => rw [substitute_template]

/-- The segments around a lone parameter have no text, so what is found for it goes into a string by itself. -/
theorem substitute_template_of_parameter {key : ParameterKey} (alone : ofSegments segments = .parameter key) :
    (template segments).substitute find = ((Segment.parameter key).interpolate find).map text := by
  rw [← ofSegments_merge, ofSegments_eq_parameter_iff (Segment.merge_merged segments)] at alone
  rw [substitute_template, ← Segment.interpolateAll_merge, alone, Segment.interpolateAll_singleton]

end Value

open Value in
/-- Normalising a string keeps what it resolves to, value or failure, unless a lone parameter is left. That one
resolves to a value of any type, which the string has as text if it is a scalar and rejects otherwise; where the
parameter fails, the string fails in the same way. Normalising again changes nothing. -/
theorem Container.resolve_ofSegments (c : Container) (segments : List (Segment ParameterKey)) :
    ((∀ key, ofSegments segments ≠ .parameter key) →
      c.resolve (ofSegments segments) = c.resolve (.template segments)) ∧
    (∀ key, ofSegments segments = .parameter key →
      (∀ s, c.resolve (ofSegments segments) = .ok (.scalar s) →
        c.resolve (.template segments) = .ok (.text s.interpolated)) ∧
      (∀ v, c.resolve (ofSegments segments) = .ok v → (∀ s, v ≠ .scalar s) →
        c.resolve (.template segments) = .error (.invalid (.notInterpolable key v))) ∧
      ∀ failure, c.resolve (ofSegments segments) = .error failure →
        c.resolve (.template segments) = .error failure) ∧
    ∀ others, ofSegments segments = .template others → ofSegments others = .template others := by
  refine ⟨substitute_ofSegments, fun key alone => ?_, fun others => ofSegments_of_eq_template⟩
  have raw : c.resolve (.template segments) = ((Segment.parameter key).interpolate (c.lookup [])).map text :=
    substitute_template_of_parameter alone
  have lone : c.resolve (ofSegments segments) = c.lookup [] key := by
    rw [alone]
    rfl
  rw [raw, lone, Segment.interpolate]
  refine ⟨fun s hs => ?_, fun v hv notScalar => ?_, fun failure failed => ?_⟩
  · rw [hs]
    rfl
  · rw [hv]
    cases v with
    | scalar s => exact absurd rfl (notScalar s)
    | _ => rfl
  · rw [failed]
    rfl

end ServiceContainer

import ServiceContainer.Proofs.Tree
import ServiceContainer.Proofs.Value.Source

/-!
# The normal form of values

Reading a document leaves values in a normal form. A string that mixes text with parameters is kept as few
segments as possible, each parameter has a name that could stand between two percent signs, and no at sign
is left where it would mark a service.
-/

namespace ServiceContainer

structure ParameterKey.Normal (key : ParameterKey) : Prop where
  nonempty : key.text ≠ ""
  noPercent : '%' ∉ key.text.toList
  lowercase : ofName key.text = key

/-- The segments of a string that is neither plain text nor a lone parameter. An at sign may stand behind a
parameter, but not in front of everything. -/
structure Segment.Normal (segments : List (Segment ParameterKey)) : Prop extends Merged segments where
  two_le : 2 ≤ segments.length
  exists_parameter : ∃ key, .parameter key ∈ segments
  front : ∀ s rest, segments = .literal s :: rest → s.toList.head? ≠ some '@'

inductive Value.Normal : Value → Prop
  | scalar (s : Scalar) : Normal (.scalar s)
  | list {items : List (Key × Value)} (normal : ∀ item ∈ items, Normal item.2) : Normal (.list items)
  | service {id : ServiceId} (noAt : id.toList.head? ≠ some '@') : Normal (.service id)
  | parameter {key : ParameterKey} (normal : key.Normal) : Normal (.parameter key)
  | template {segments : List (Segment ParameterKey)} (normal : Segment.Normal segments)
      (keys : ∀ key, .parameter key ∈ segments → key.Normal) : Normal (.template segments)
  | object (type : String) : Normal (.object type)

theorem ParameterKey.normal_of_isToken {key : ParameterKey}
    (token : (Segment.parameter key.text).IsToken) : key.Normal where
  nonempty := token.1
  noPercent := token.2
  lowercase := key.ofName_text

/-- Of two segments side by side one is a parameter. -/
theorem Segment.Merged.exists_parameter {segments : List (Segment ParameterKey)} (merged : Merged segments)
    (hlength : 2 ≤ segments.length) : ∃ key, .parameter key ∈ segments := by
  match segments, hlength with
  | .parameter key :: _ :: _, _ => exact ⟨key, List.mem_cons_self⟩
  | .literal _ :: .parameter key :: _, _ => exact ⟨key, List.mem_cons_of_mem _ List.mem_cons_self⟩
  | .literal s :: .literal t :: rest, _ =>
      exact absurd ⟨trivial, trivial⟩ (List.isChain_cons_cons.mp merged.apart).1

namespace Value

variable {segments : List (Segment ParameterKey)}

/-- What merged segments stand for. -/
inductive StandsFor : List (Segment ParameterKey) → Value → Prop
  | nothing : StandsFor [] (.text "")
  | literal (s : String) : StandsFor [.literal s] (.text s)
  | parameter (key : ParameterKey) : StandsFor [.parameter key] (.parameter key)
  | template {segments : List (Segment ParameterKey)} (two_le : 2 ≤ segments.length)
      (exists_parameter : ∃ key, .parameter key ∈ segments) : StandsFor segments (.template segments)

theorem standsFor_ofSegments (merged : Segment.Merged segments) : StandsFor segments (ofSegments segments) := by
  rw [ofSegments, Segment.merge_of_merged merged]
  split
  · exact .nothing
  · exact .literal _
  · exact .parameter _
  · rename_i hnil hliteral hparameter
    have two_le : 2 ≤ segments.length := by
      rcases segments with _ | ⟨first | first, _ | ⟨second, rest⟩⟩
      · exact absurd rfl hnil
      · exact absurd rfl (hliteral _)
      · exact Nat.le_add_left 2 rest.length
      · exact absurd rfl (hparameter _)
      · exact Nat.le_add_left 2 rest.length
    exact .template two_le (merged.exists_parameter two_le)

theorem normal_ofSegments (merged : Segment.Merged segments)
    (tokens : ∀ segment ∈ segments, (segment.map ParameterKey.text).IsToken)
    (hat : Segment.firstChar? segments ≠ some '@') : (ofSegments segments).Normal := by
  have keys : ∀ key, .parameter key ∈ segments → key.Normal := by
    intro key mem
    exact ParameterKey.normal_of_isToken (tokens _ mem)
  have standsFor := standsFor_ofSegments merged
  generalize ofSegments segments = v at standsFor
  cases standsFor with
  | nothing => exact .scalar _
  | literal s => exact .scalar _
  | parameter key => exact .parameter (keys key List.mem_cons_self)
  | template two_le exists_parameter =>
      refine .template ⟨merged, two_le, exists_parameter, ?_⟩ keys
      rintro s rest rfl
      exact hat

theorem normal_ofText (s : String) : (ofText s).Normal := by
  by_cases hs : s.toList.head? = some '@'
  · rcases eq_at_at_or_eq_at hs with ⟨cs, hcs⟩ | ⟨cs, hcs, single⟩
    · rw [ofText_at_at hcs]
      exact .scalar _
    · rw [ofText_at hcs single]
      exact .service (by rwa [String.toList_ofList])
  · rw [ofText_eq_ofSegments hs]
    have tokens : ∀ segment ∈ segmentsOf s, (segment.map ParameterKey.text).IsToken := by
      intro segment mem
      exact isToken_of_mem_segmentsOf mem
    exact normal_ofSegments (segmentsOf_merged s) tokens (firstChar?_segmentsOf hs)

/-- An at sign behind a parameter marks nothing. -/
example : ofText "%a%@x" = .template [.parameter (.ofName "a"), .literal "@x"] := by cbv

theorem normal_ofTree (tree : Tree) : (ofTree tree).Normal := by
  induction tree with
  | scalar s =>
      cases s with
      | text s => exact normal_ofText s
      | _ => exact .scalar _
  | map entries ih =>
      rw [ofTree_map]
      refine .list ?_
      rw [List.forall_mem_map]
      exact ih
  | object tag => exact .object tag

end Value

end ServiceContainer

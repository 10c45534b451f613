import ServiceContainer.Proofs.Text.Lowercase
import ServiceContainer.Value

/-!
# The structure of values

Values are built from others only as lists, so what holds of a list when it holds of its items holds of
every value.
-/

namespace ServiceContainer

theorem ParameterKey.lowercase_text (key : ParameterKey) : Text.lowercase key.text = key.text := by
  obtain ⟨text, name, rfl⟩ := key
  exact Text.lowercase_lowercase name

/-- The text of a key names the same parameter. -/
theorem ParameterKey.ofName_text (key : ParameterKey) : ParameterKey.ofName key.text = key := by
  simp only [ofName, lowercase_text]

@[elab_as_elim, induction_eliminator]
theorem Value.induction {P : Value → Prop} (scalar : ∀ s, P (.scalar s))
    (list : ∀ items, (∀ entry ∈ items, P entry.2) → P (.list items)) (service : ∀ id, P (.service id))
    (parameter : ∀ key, P (.parameter key)) (template : ∀ segments, P (.template segments))
    (object : ∀ type, P (.object type)) (v : Value) : P v := by
  refine @Value.rec P (fun items => ∀ entry ∈ items, P entry.2) (fun entry => P entry.2)
    scalar list service parameter template object ?_ ?_ ?_ v
  · exact nofun
  · exact fun entry items hentry hitems => List.forall_mem_cons.mpr ⟨hentry, hitems⟩
  · exact fun key item hitem => hitem

/-- The parameter that a segment stands for. -/
def Segment.parameter? {α : Type} : Segment α → Option α
  | .literal _ => none
  | .parameter name => some name

theorem Segment.parameter?_eq_some {α : Type} {segment : Segment α} {name : α} :
    segment.parameter? = some name ↔ segment = .parameter name := by
  cases segment <;> simp [parameter?]

namespace Value

/-- The parameters that a value refers to, in order and with repetitions. -/
def parameters : Value → List ParameterKey
  | .parameter key => [key]
  | .template segments => segments.filterMap Segment.parameter?
  | .list items => ofItems items
  | .scalar _ | .service _ | .object _ => []
where
  ofItems : List (Key × Value) → List ParameterKey
    | [] => []
    | (_, item) :: items => item.parameters ++ ofItems items

theorem parameters_list (items : List (Key × Value)) :
    (list items).parameters = items.flatMap fun entry => entry.2.parameters := by
  rw [parameters]
  induction items with
  | nil => rfl
  | cons entry items ih => rw [parameters.ofItems, ih, List.flatMap_cons]

theorem mem_parameters_template {segments : List (Segment ParameterKey)} {key : ParameterKey} :
    key ∈ (template segments).parameters ↔ .parameter key ∈ segments := by
  simp [parameters, Segment.parameter?_eq_some]

end Value

end ServiceContainer

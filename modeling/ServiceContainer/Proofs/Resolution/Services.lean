import ServiceContainer.Definition
import ServiceContainer.Proofs.Resolution

/-!
# Services in resolved values

A parameter that stands for a whole value, or for an item of a list, is replaced by what it refers to, services
included. So resolution shows the services that a value names, and besides them those that its parameters supply.
-/

namespace ServiceContainer

namespace Value

theorem services_list (items : List (Key × Value)) :
    (list items).services = items.flatMap fun entry => entry.2.services := by
  rw [services]
  induction items with
  | nil => rfl
  | cons entry items ih => rw [services.ofItems, ih, List.flatMap_cons]

/-- The parameters that whole values are put in place of, in order and with repetitions. -/
def replaced : Value → List ParameterKey
  | .parameter key => [key]
  | .list items => ofItems items
  | .scalar _ | .service _ | .template _ | .object _ => []
where
  ofItems : List (Key × Value) → List ParameterKey
    | [] => []
    | (_, item) :: items => item.replaced ++ ofItems items

theorem replaced_list (items : List (Key × Value)) :
    (list items).replaced = items.flatMap fun entry => entry.2.replaced := by
  rw [replaced]
  induction items with
  | nil => rfl
  | cons entry items ih => rw [replaced.ofItems, ih, List.flatMap_cons]

theorem mem_parameters_of_mem_replaced {v : Value} {key : ParameterKey} (mem : key ∈ v.replaced) :
    key ∈ v.parameters := by
  induction v with
  | list items ih =>
      rw [replaced_list, List.mem_flatMap] at mem
      obtain ⟨entry, hentry, hkey⟩ := mem
      rw [parameters_list, List.mem_flatMap]
      exact ⟨entry, hentry, ih entry hentry hkey⟩
  | parameter other => exact mem
  | _ => cases mem

end Value

/-- What holds of each pair of values holds of lists of them. -/
theorem mem_flatMap_iff_of_forall₂ {α β : Type} {R : α → β → Prop} {as : List α} {bs : List β}
    {before : α → List ServiceId} {after : β → List ServiceId} {replaced : α → List ParameterKey}
    {supplies : ParameterKey → Prop} {id : ServiceId} (all : List.Forall₂ R as bs)
    (each : ∀ a ∈ as, ∀ b, R a b → (id ∈ after b ↔ id ∈ before a ∨ ∃ key ∈ replaced a, supplies key)) :
    id ∈ bs.flatMap after ↔ id ∈ as.flatMap before ∨ ∃ key ∈ as.flatMap replaced, supplies key := by
  induction all with
  | nil => simp
  | @cons a b as bs hab all ih =>
      obtain ⟨head, tail⟩ := List.forall_mem_cons.mp each
      simp only [List.flatMap_cons, List.mem_append, head b hab, ih tail, or_and_right, exists_or]
      exact or_or_or_comm

/-- Substitution leaves the services of a value and adds those that are found for whole values. -/
theorem Value.mem_services_of_substitute {find : ParameterKey → Except Failure Value} {v r : Value} {id : ServiceId}
    (hok : v.substitute find = .ok r) :
    id ∈ r.services ↔ id ∈ v.services ∨ ∃ key ∈ v.replaced, ∃ value, find key = .ok value ∧ id ∈ value.services := by
  induction v generalizing r with
  | scalar s =>
      cases hok
      simp [services, replaced]
  | list items ih =>
      obtain ⟨resolved, rfl, hall⟩ := substitute_list_eq_ok_iff.mp hok
      rw [services_list, services_list, replaced_list]
      exact mem_flatMap_iff_of_forall₂ hall fun entry mem r hr => ih entry mem hr.2
  | service other =>
      cases hok
      simp [replaced]
  | parameter key =>
      have hfind : find key = .ok r := hok
      simp [services, replaced, hfind]
  | template segments =>
      obtain ⟨texts, rfl, -⟩ := substitute_template_eq_ok_iff.mp hok
      simp [services, replaced, text]
  | object type =>
      cases hok
      simp [services, replaced]

namespace Container

variable {c : Container} {id : ServiceId}

/-- The value of the parameter names the service, itself or through parameters in place of whole values. -/
inductive Supplies (c : Container) (id : ServiceId) : ParameterKey → Prop
  | named {key : ParameterKey} {v : Value} (found : c.parameters[key]? = some v) (mem : id ∈ v.services) :
      Supplies c id key
  | through {key other : ParameterKey} {v : Value} (found : c.parameters[key]? = some v) (mem : other ∈ v.replaced)
      (supplies : Supplies c id other) : Supplies c id key

theorem mem_services_of_lookup {pending : List ParameterKey} {key : ParameterKey} {r : Value}
    (hlookup : c.lookup pending key = .ok r) : id ∈ r.services ↔ c.Supplies id key := by
  induction pending, key using lookup.induct c generalizing r with
  | case1 pending key mem => exact absurd mem (lookup_eq_ok hlookup).1
  | case2 pending key new found =>
      obtain ⟨-, v, found', -⟩ := lookup_eq_ok hlookup
      rw [found] at found'
      cases found'
  | case3 pending key new v found ih =>
      rw [lookup_eq_substitute new found] at hlookup
      rw [Value.mem_services_of_substitute hlookup]
      constructor
      · rintro (mem | ⟨other, hother, value, hvalue, mem⟩)
        · exact .named found mem
        · exact .through found hother ((ih other hvalue).mp mem)
      · intro supplies
        cases supplies with
        | named found' mem =>
            cases found.symm.trans found'
            exact Or.inl mem
        | @through _ other _ found' hother supplies =>
            cases found.symm.trans found'
            obtain ⟨value, hvalue⟩ :=
              Value.exists_find_of_substitute hlookup (Value.mem_parameters_of_mem_replaced hother)
            exact Or.inr ⟨other, hother, value, hvalue, (ih other hvalue).mpr supplies⟩

theorem mem_services_of_resolve {v r : Value} (hok : c.resolve v = .ok r) :
    id ∈ r.services ↔ id ∈ v.services ∨ ∃ key ∈ v.replaced, c.Supplies id key := by
  rw [Value.mem_services_of_substitute hok]
  refine or_congr_right (exists_congr fun key => and_congr_right fun mem => ?_)
  constructor
  · rintro ⟨value, hvalue, hid⟩
    exact (mem_services_of_lookup hvalue).mp hid
  · intro supplies
    obtain ⟨value, hvalue⟩ := Value.exists_find_of_substitute hok (Value.mem_parameters_of_mem_replaced mem)
    exact ⟨value, hvalue, (mem_services_of_lookup hvalue).mpr supplies⟩

end Container

/-! ### Definitions -/

section Arguments

variable {find : ParameterKey → Except Failure Value}

theorem map_values_arguments (arguments : Arguments) :
    List.map (·.2) <$> Arguments.substitute find arguments = (arguments.map (·.2)).mapM (·.substitute find) := by
  have each : ∀ argument : Key × Value, (fun resolved : Key × Value => [resolved.2]) <$>
      (do return (argument.1, ← argument.2.substitute find) : Except Failure (Key × Value)) =
        [argument.2].mapM (·.substitute find) := by
    intro argument
    rw [List.mapM_cons, List.mapM_nil]
    simp only [map_bind, map_pure, pure_bind]
  have hmap : (List.map (·.2) : Arguments → List Value) = List.flatMap fun argument => [argument.2] :=
    funext fun _ => List.map_eq_flatMap
  rw [hmap, Arguments.substitute, map_flatMap_mapM each]

end Arguments

namespace Definition

/-- What has to be known before the constructor can run. -/
def constructorValues (d : Definition) : List Value := d.className :: (d.file.toList ++ d.arguments.map (·.2))

/-- The parameters that are replaced in what the constructor is given. -/
def constructorParameters (d : Definition) : List ParameterKey := d.constructorValues.flatMap Value.replaced

theorem constructorServices_eq (d : Definition) :
    d.constructorServices = d.constructorValues.flatMap Value.services := by
  simp only [constructorServices, constructorValues, List.flatMap_cons, List.flatMap_append, List.flatMap_map,
    List.append_assoc]

theorem forall₂_constructorValues {find : ParameterKey → Except Failure Value} {d d' : Definition}
    (hok : d.substitute find = .ok d') :
    List.Forall₂ (fun v r => v.substitute find = .ok r) d.constructorValues d'.constructorValues := by
  obtain ⟨className, hclass, rest⟩ := bind_eq_ok_iff.mp hok
  obtain ⟨file, hfile, rest⟩ := bind_eq_ok_iff.mp rest
  obtain ⟨arguments, harguments, rest⟩ := bind_eq_ok_iff.mp rest
  obtain ⟨calls, -, rest⟩ := bind_eq_ok_iff.mp rest
  obtain ⟨configurator, -, heq⟩ := bind_eq_ok_iff.mp rest
  cases heq
  refine List.Forall₂.cons hclass (List.rel_append ?_ ?_)
  · apply mapM_eq_ok_iff.mp
    rw [← map_toList_option_mapM, hfile]
    rfl
  · apply mapM_eq_ok_iff.mp
    rw [← map_values_arguments, harguments]
    rfl

end Definition

/-- A resolved definition needs what the definition itself needs, and what its parameters supply. -/
theorem Container.mem_constructorServices_of_resolveDefinition {c : Container} {d d' : Definition} {id : ServiceId}
    (hok : c.resolveDefinition d = .ok d') :
    id ∈ d'.constructorServices ↔
      id ∈ d.constructorServices ∨ ∃ key ∈ d.constructorParameters, c.Supplies id key := by
  rw [Definition.constructorServices_eq, Definition.constructorServices_eq]
  exact mem_flatMap_iff_of_forall₂ (Definition.forall₂_constructorValues hok) fun _ _ _ hr => mem_services_of_resolve hr

end ServiceContainer

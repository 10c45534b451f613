import Mathlib.Data.List.Sort
import ServiceContainer.Proofs.Operations
import ServiceContainer.Proofs.ReferenceGraph.BuildOrder
import ServiceContainer.Proofs.ReferenceGraph.Container
import ServiceContainer.Proofs.Resolution.Services

/-!
# What a graph records

Each service has one node, numbered in the order in which the services come up, and its references are listed
in ascending order, each once; in which order and how often they were recorded does not show. The graph of a
container has the references that its entries make before they are constructed, and no others.
-/

namespace ServiceContainer

/-- The value names a service, itself or at some depth of its lists. -/
inductive Value.Mentions (id : ServiceId) : Value → Prop
  | service : Mentions id (.service id)
  | item {items : List (Key × Value)} {entry : Key × Value} (mem : entry ∈ items) (mentions : Mentions id entry.2) :
      Mentions id (.list items)

theorem Value.mem_services {v : Value} {id : ServiceId} : id ∈ v.services ↔ v.Mentions id := by
  induction v with
  | list items ih =>
      rw [services_list, List.mem_flatMap]
      constructor
      · rintro ⟨entry, mem, hid⟩
        exact .item mem ((ih entry mem).mp hid)
      · rintro (_ | ⟨mem, mentions⟩)
        exact ⟨_, mem, (ih _ mem).mpr mentions⟩
  | service other =>
      refine List.mem_singleton.trans ⟨?_, ?_⟩
      · rintro rfl
        exact .service
      · rintro ⟨⟩
        rfl
  | scalar | parameter | template | object => exact iff_of_false nofun nofun

/-- The service is named by the class, the file or an argument of the constructor. -/
def Definition.ConstructorMentions (d : Definition) (id : ServiceId) : Prop :=
  d.className.Mentions id ∨ (∃ file ∈ d.file, file.Mentions id) ∨ ∃ argument ∈ d.arguments, argument.2.Mentions id

theorem Definition.mem_constructorServices {d : Definition} {id : ServiceId} :
    id ∈ d.constructorServices ↔ d.ConstructorMentions id := by
  simp only [constructorServices, List.mem_append, List.mem_flatMap, Option.mem_toList, Value.mem_services, or_assoc]
  rfl

namespace ReferenceGraph

variable {g : ReferenceGraph} {ids : List ServiceId} {a b : ServiceId}

/-! ### Nodes -/

/-- There is one node for each service that comes up, and its number is how many others came up before. -/
structure Numbers (g : ReferenceGraph) (ids : List ServiceId) : Prop where
  nodup : g.services.Nodup
  services_eq : g.services = ids.eraseDups
  number : ∀ before id after, ids = before ++ id :: after → id ∉ before →
    g.services[before.eraseDups.length]? = some id

theorem services_addService_of_eq (heq : g.services = ids.eraseDups) :
    (g.addService a).services = (ids ++ [a]).eraseDups := by
  rw [List.eraseDups_append, ← heq, addService]
  by_cases mem : a ∈ g.services
  · have again : a ∈ ids := List.mem_eraseDups.mp (heq ▸ mem)
    simp [mem, again, List.removeAll]
  · have new : a ∉ ids := fun old => mem (heq ▸ List.mem_eraseDups.mpr old)
    simp [mem, new, List.removeAll, List.eraseDups_cons]

theorem services_apply_of_eq (heq : g.services = ids.eraseDups) (step : Step) :
    (g.apply step).services = (ids ++ step.services).eraseDups := by
  cases step with
  | service id => exact services_addService_of_eq heq
  | reference source target =>
      rw [apply, services_addReference, services_addService_of_eq (services_addService_of_eq heq), List.append_assoc]
      rfl

theorem services_foldl_apply_of_eq (heq : g.services = ids.eraseDups) (steps : List Step) :
    (steps.foldl apply g).services = (ids ++ steps.flatMap Step.services).eraseDups := by
  induction steps generalizing g ids with
  | nil => rwa [List.flatMap_nil, List.append_nil]
  | cons step steps ih =>
      rw [List.foldl_cons, ih (services_apply_of_eq heq step), List.flatMap_cons, List.append_assoc]

theorem numbers_ofSteps (steps : List Step) : (ofSteps steps).Numbers (steps.flatMap Step.services) := by
  have start : empty.services = List.eraseDups [] := rfl
  have heq : (ofSteps steps).services = (steps.flatMap Step.services).eraseDups :=
    services_foldl_apply_of_eq start steps
  refine ⟨(wellFormed_ofSteps steps).services_nodup, heq, fun before id after hsplit new => ?_⟩
  rw [heq, hsplit, List.eraseDups_append, List.getElem?_append_right le_rfl, Nat.sub_self]
  simp [List.removeAll, new, List.eraseDups_cons]

/-! ### References -/

/-- The references of a service are those given, in strictly ascending order. -/
structure Lists (g : ReferenceGraph) (a : ServiceId) (targets : ServiceId → Prop) : Prop where
  ascending : Container.Ascending id (g.referencesOf a)
  mem_iff : ∀ b, b ∈ g.referencesOf a ↔ targets b

theorem WellFormed.lists (wf : g.WellFormed) (a : ServiceId) : g.Lists a (g.Refers a) where
  ascending := (wf.referencesOf_pairwise_lt a).imp Text.utf8_lt_utf8
  mem_iff _ := mem_referencesOf

/-- A graph that is well formed can list a set of references in one way only. -/
theorem WellFormed.referencesOf_eq (wf : g.WellFormed) (sorted : ids.Pairwise (· < ·))
    (same : ∀ b, g.Refers a b ↔ b ∈ ids) : g.referencesOf a = ids :=
  (wf.referencesOf_pairwise_lt a).eq_of_mem_iff sorted fun b => mem_referencesOf.trans (same b)

theorem lists_ofSteps (steps : List Step) (a : ServiceId) : (ofSteps steps).Lists a fun b => .reference a b ∈ steps := by
  have lists := (wellFormed_ofSteps steps).lists a
  exact ⟨lists.ascending, fun b => (lists.mem_iff b).trans refers_ofSteps⟩

/-! ### The graph of a container -/

variable {c : Container}

theorem exists_mem_stepsOf {entry : Entry} :
    (∃ step ∈ stepsOf a entry, b ∈ step.services) ↔ b = a ∨ b ∈ entry.constructorServices := by
  rw [stepsOf, List.exists_mem_cons_iff]
  constructor
  · rintro (here | ⟨step, mem, hb⟩)
    · exact Or.inl (List.mem_singleton.mp here)
    · obtain ⟨target, htarget, rfl⟩ := List.mem_map.mp mem
      rcases List.mem_pair.mp hb with rfl | rfl
      · exact Or.inl rfl
      · exact Or.inr htarget
  · rintro (rfl | mem)
    · exact Or.inl (List.mem_singleton_self b)
    · exact Or.inr ⟨.reference a b, List.mem_map_of_mem mem, by simp [Step.services]⟩

theorem mem_services_ofContainer {id : ServiceId} :
    id ∈ (ofContainer c).services ↔ id ∈ c.entries ∨ ∃ a ∈ c.entries, id ∈ (ofContainer c).referencesOf a := by
  simp only [mem_referencesOf, refers_ofContainer]
  rw [ofContainer_eq_ofSteps, mem_services_ofSteps]
  constructor
  · rintro ⟨step, mem, hid⟩
    obtain ⟨⟨source, entry⟩, hentry, hstep⟩ := List.mem_flatMap.mp mem
    have found := Std.ExtTreeMap.mem_toList_iff_getElem?_eq_some.mp hentry
    have known := Container.mem_entries_of_found found
    rcases exists_mem_stepsOf.mp ⟨step, hstep, hid⟩ with rfl | hneeds
    · exact Or.inl known
    · exact Or.inr ⟨source, known, entry, found, hneeds⟩
  · intro hid
    obtain ⟨source, entry, found, hsource⟩ :
        ∃ source entry, c.entries[source]? = some entry ∧ (id = source ∨ id ∈ entry.constructorServices) := by
      rcases hid with known | ⟨source, -, entry, found, hneeds⟩
      · obtain ⟨entry, found⟩ := Option.isSome_iff_exists.mp (Std.ExtTreeMap.mem_iff_isSome_getElem?.mp known)
        exact ⟨id, entry, found, Or.inl rfl⟩
      · exact ⟨source, entry, found, Or.inr hneeds⟩
    obtain ⟨step, hstep, hmentioned⟩ := exists_mem_stepsOf.mpr hsource
    have mem := Std.ExtTreeMap.mem_toList_iff_getElem?_eq_some.mpr found
    exact ⟨step, List.mem_flatMap_of_mem mem hstep, hmentioned⟩

theorem refers_iff_of_found {entry : Entry} (found : c.entries[a]? = some entry) :
    (ofContainer c).Refers a b ↔ b ∈ entry.constructorServices := by
  rw [refers_ofContainer]
  constructor
  · rintro ⟨other, found', mem⟩
    cases found.symm.trans found'
    exact mem
  · exact fun mem => ⟨entry, found, mem⟩

theorem lists_definition {d : Definition} (found : c.entries[a]? = some (.definition d)) :
    (ofContainer c).Lists a d.ConstructorMentions := by
  have lists := (wellFormed_ofContainer c).lists a
  refine ⟨lists.ascending, fun b => ?_⟩
  rw [lists.mem_iff, refers_iff_of_found found]
  exact Definition.mem_constructorServices

theorem referencesOf_alias {target : ServiceId} (found : c.entries[a]? = some (.alias target)) :
    (ofContainer c).referencesOf a = [target] :=
  (wellFormed_ofContainer c).referencesOf_eq (List.pairwise_singleton _ target) fun _ => refers_iff_of_found found

theorem referencesOf_unknown (unknown : a ∉ c.entries) : (ofContainer c).referencesOf a = [] := by
  refine (wellFormed_ofContainer c).referencesOf_eq List.Pairwise.nil fun b => iff_of_false ?_ List.not_mem_nil
  rw [refers_ofContainer]
  rintro ⟨entry, found, -⟩
  exact unknown (Container.mem_entries_of_found found)

/-- Whatever the calls, each service that came up has one node, numbered in the order of coming up, and the
references of each are what was recorded for it, so that they depend on nothing else. The graph of a container has
a node for each entry and each service that an entry refers to. A definition refers to what its class, its file and
the arguments of its constructor name, an alias to its target, and what is no entry to nothing. -/
theorem records_references :
    (∀ steps : List Step,
      (ofSteps steps).Numbers (steps.flatMap Step.services) ∧
      (∀ a, (ofSteps steps).Lists a fun b => .reference a b ∈ steps) ∧
      ∀ others, (∀ a b, Step.reference a b ∈ others ↔ Step.reference a b ∈ steps) →
        (ofSteps others).referencesOf = (ofSteps steps).referencesOf) ∧
    ∀ c : Container,
      (ofContainer c).services.Nodup ∧
      (∀ id, id ∈ (ofContainer c).services ↔
        id ∈ c.entries ∨ ∃ a ∈ c.entries, id ∈ (ofContainer c).referencesOf a) ∧
      (∀ a d, c.entries[a]? = some (.definition d) → (ofContainer c).Lists a d.ConstructorMentions) ∧
      (∀ a target, c.entries[a]? = some (.alias target) → (ofContainer c).referencesOf a = [target]) ∧
      ∀ a, a ∉ c.entries → (ofContainer c).referencesOf a = [] := by
  refine ⟨fun steps => ⟨numbers_ofSteps steps, lists_ofSteps steps, fun others same => ?_⟩, fun c => ?_⟩
  · funext a
    refine (wellFormed_ofSteps others).referencesOf_eq ((wellFormed_ofSteps steps).referencesOf_pairwise_lt a) ?_
    intro b
    rw [mem_referencesOf, refers_ofSteps, refers_ofSteps, same]
  · exact ⟨(wellFormed_ofContainer c).services_nodup, fun id => mem_services_ofContainer, fun a d => lists_definition,
      fun a target => referencesOf_alias, fun a => referencesOf_unknown⟩

end ReferenceGraph

end ServiceContainer

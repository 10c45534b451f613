import Mathlib.Logic.Relation
import ServiceContainer.Proofs.Resolution

/-!
# When resolution succeeds

Lookups nest along references, and a trail of keys never holds one twice, so nesting comes to an end whether
the parameters refer back to themselves or not. A value resolves exactly when all that it reaches is defined
and off every cycle, and what goes into strings is scalar.
-/

namespace ServiceContainer

open Relation (ReflTransGen TransGen)

namespace Value

/-- The parameters that a value puts into strings, in order and with repetitions. -/
def embedded : Value → List ParameterKey
  | .template segments => segments.filterMap Segment.parameter?
  | .list items => ofItems items
  | .scalar _ | .service _ | .parameter _ | .object _ => []
where
  ofItems : List (Key × Value) → List ParameterKey
    | [] => []
    | (_, item) :: items => item.embedded ++ ofItems items

theorem embedded_list (items : List (Key × Value)) :
    (list items).embedded = items.flatMap fun entry => entry.2.embedded := by
  rw [embedded]
  induction items with
  | nil => rfl
  | cons entry items ih => rw [embedded.ofItems, ih, List.flatMap_cons]

theorem mem_embedded_template {segments : List (Segment ParameterKey)} {key : ParameterKey} :
    key ∈ (template segments).embedded ↔ .parameter key ∈ segments := by
  simp [embedded, Segment.parameter?_eq_some]

theorem mem_parameters_of_mem_embedded {v : Value} {key : ParameterKey} (mem : key ∈ v.embedded) :
    key ∈ v.parameters := by
  induction v with
  | list items ih =>
      rw [embedded_list, List.mem_flatMap] at mem
      obtain ⟨entry, hentry, hkey⟩ := mem
      rw [parameters_list, List.mem_flatMap]
      exact ⟨entry, hentry, ih entry hentry hkey⟩
  | template segments => exact mem
  | _ => cases mem

section Substitution

variable {find : ParameterKey → Except Failure Value}

theorem exists_substitute_list_iff {items : List (Key × Value)} :
    (∃ r, (list items).substitute find = .ok r) ↔ ∀ entry ∈ items, ∃ r, entry.2.substitute find = .ok r := by
  constructor
  · rintro ⟨_, hok⟩ entry mem
    obtain ⟨resolved, -, hall⟩ := substitute_list_eq_ok_iff.mp hok
    obtain ⟨r, -, -, hitem⟩ := exists_of_forall₂ hall mem
    exact ⟨r.2, hitem⟩
  · intro found
    have each : ∀ entry ∈ items, ∃ r : Key × Value, entry.1 = r.1 ∧ entry.2.substitute find = .ok r.2 := by
      intro entry mem
      obtain ⟨r, hitem⟩ := found entry mem
      exact ⟨(entry.1, r), rfl, hitem⟩
    obtain ⟨resolved, hall⟩ := exists_forall₂ each
    exact ⟨list resolved, substitute_list_eq_ok_iff.mpr ⟨resolved, rfl, hall⟩⟩

theorem exists_substitute_template_iff {segments : List (Segment ParameterKey)} :
    (∃ r, (template segments).substitute find = .ok r) ↔
      ∀ key, .parameter key ∈ segments → ∃ s, find key = .ok (.scalar s) := by
  constructor
  · rintro ⟨_, hok⟩ key mem
    obtain ⟨texts, -, hall⟩ := substitute_template_eq_ok_iff.mp hok
    obtain ⟨text, -, htext⟩ := exists_of_forall₂ hall mem
    obtain ⟨s, hs, -⟩ := Segment.interpolate_eq_ok_iff.mp htext
    exact ⟨s, hs⟩
  · intro scalar
    have each : ∀ segment ∈ segments, ∃ text, segment.interpolate find = .ok text := by
      intro segment mem
      cases segment with
      | literal s => exact ⟨s, rfl⟩
      | parameter key =>
          obtain ⟨s, hs⟩ := scalar key mem
          exact ⟨_, Segment.interpolate_eq_ok_iff.mpr ⟨s, hs, rfl⟩⟩
    obtain ⟨texts, hall⟩ := exists_forall₂ each
    exact ⟨_, substitute_template_eq_ok_iff.mpr ⟨texts, rfl, hall⟩⟩

/-- Substitution succeeds when every parameter is found, and one that goes into a string is scalar. -/
theorem exists_substitute_iff {v : Value} :
    (∃ r, v.substitute find = .ok r) ↔
      (∀ key ∈ v.parameters, ∃ r, find key = .ok r) ∧
      ∀ key ∈ v.embedded, ∃ s, find key = .ok (.scalar s) := by
  induction v with
  | scalar s => exact iff_of_true ⟨_, rfl⟩ ⟨nofun, nofun⟩
  | list items ih =>
      rw [parameters_list, embedded_list, List.forall_mem_flatMap, List.forall_mem_flatMap, ← forall₂_and,
        exists_substitute_list_iff]
      exact forall₂_congr ih
  | service id => exact iff_of_true ⟨_, rfl⟩ ⟨nofun, nofun⟩
  | parameter key =>
      refine ⟨fun found => ⟨fun other mem => ?_, nofun⟩, fun found => ?_⟩
      · obtain rfl := List.mem_singleton.mp mem
        exact found
      · exact found.1 key (List.mem_singleton_self key)
  | template segments =>
      simp only [mem_parameters_template, mem_embedded_template, exists_substitute_template_iff]
      refine ⟨fun scalar => ⟨fun key mem => ?_, scalar⟩, And.right⟩
      obtain ⟨s, hs⟩ := scalar key mem
      exact ⟨_, hs⟩
  | object type => exact iff_of_true ⟨_, rfl⟩ ⟨nofun, nofun⟩

end Substitution

end Value

namespace Container

variable {c : Container} {v : Value} {key : ParameterKey}

/-- A lookup calls for another one, with the key that it is about added to the trail. -/
def Calls (c : Container) (inner outer : List ParameterKey × ParameterKey) : Prop :=
  outer.2 ∉ outer.1 ∧ c.Reads inner.2 outer.2 ∧ inner.1 = outer.1 ++ [outer.2]

/-- Lookups nest to a finite depth only, in cyclic parameters as well. -/
theorem wellFounded_calls (c : Container) : WellFounded c.Calls := by
  refine Subrelation.wf ?_ (measure fun call => unvisited c.parameters.keys call.1).wf
  rintro ⟨trail, inner⟩ ⟨pending, outer⟩ ⟨new, ⟨v, found, -⟩, rfl⟩
  exact unvisited_append_lt (Std.ExtTreeMap.mem_keys.mpr (mem_parameters_of_found found)) new

/-- A key that a value refers to, directly or through the values of parameters. -/
def Reaches (c : Container) (v : Value) (key : ParameterKey) : Prop :=
  ∃ start ∈ v.parameters, ReflTransGen c.Reads key start

/-- A key that goes into a string of a value, or of a parameter that the value reaches. -/
def Embeds (c : Container) (v : Value) (key : ParameterKey) : Prop :=
  key ∈ v.embedded ∨ ∃ other stored, c.Reaches v other ∧ c.parameters[other]? = some stored ∧ key ∈ stored.embedded

/-- What makes a value resolve. -/
structure Resolvable (c : Container) (v : Value) : Prop where
  defined : ∀ key, c.Reaches v key → key ∈ c.parameters
  acyclic : ∀ key, c.Reaches v key → ¬ TransGen c.Reads key key
  scalar : ∀ key, c.Embeds v key → ∃ s, c.resolve (.parameter key) = .ok (.scalar s)

theorem not_transGen_of_acc (acc : Acc c.Reads key) : ¬ TransGen c.Reads key key := by
  induction acc with
  | intro key _ ih =>
      intro cycle
      obtain ⟨other, reaches, reads⟩ := TransGen.tail'_iff.mp cycle
      exact ih other reads (TransGen.head' reads reaches)

theorem Reaches.of_mem (mem : key ∈ v.parameters) : c.Reaches v key := ⟨key, mem, ReflTransGen.refl⟩

theorem Reaches.read {other : ParameterKey} (reaches : c.Reaches v key) (reads : c.Reads other key) :
    c.Reaches v other := by
  obtain ⟨start, mem, path⟩ := reaches
  exact ⟨start, mem, ReflTransGen.head reads path⟩

/-- What a resolved value reaches resolves by itself. -/
theorem Reaches.exists_lookup {r : Value} (reaches : c.Reaches v key) (hok : c.resolve v = .ok r) :
    ∃ value, c.lookup [] key = .ok value := by
  obtain ⟨start, mem, path⟩ := reaches
  induction path using ReflTransGen.head_induction_on with
  | refl => exact (Value.exists_substitute_iff.mp ⟨r, hok⟩).1 start mem
  | head reads _ ih =>
      obtain ⟨value, hvalue⟩ := ih
      obtain ⟨stored, found, hread⟩ := reads
      exact (Value.exists_substitute_iff.mp ⟨value, substitute_of_lookup found hvalue⟩).1 _ hread

theorem resolvable_of_resolve {r : Value} (hok : c.resolve v = .ok r) : c.Resolvable v where
  defined key reaches := by
    obtain ⟨value, hvalue⟩ := reaches.exists_lookup hok
    exact mem_parameters_of_lookup hvalue
  acyclic key reaches := by
    obtain ⟨value, hvalue⟩ := reaches.exists_lookup hok
    exact not_transGen_of_acc (acc_reads_of_lookup hvalue)
  scalar key embeds := by
    rcases embeds with mem | ⟨other, stored, reaches, found, mem⟩
    · exact (Value.exists_substitute_iff.mp ⟨r, hok⟩).2 key mem
    · obtain ⟨value, hvalue⟩ := reaches.exists_lookup hok
      exact (Value.exists_substitute_iff.mp ⟨value, substitute_of_lookup found hvalue⟩).2 key mem

/-- A lookup below others succeeds as long as all of them lead to its key. -/
theorem Resolvable.exists_lookup (resolvable : c.Resolvable v) {pending : List ParameterKey}
    (reaches : c.Reaches v key) (led : ∀ other ∈ pending, TransGen c.Reads key other) :
    ∃ value, c.lookup pending key = .ok value := by
  induction pending, key using lookup.induct c with
  | case1 pending key mem => exact absurd (led key mem) (resolvable.acyclic key reaches)
  | case2 pending key new found =>
      have hdefined := Std.ExtTreeMap.mem_iff_isSome_getElem?.mp (resolvable.defined key reaches)
      rw [found] at hdefined
      cases hdefined
  | case3 pending key new stored found ih =>
      rw [lookup_eq_substitute new found]
      have inner : ∀ other ∈ stored.parameters, ∃ value, c.lookup (pending ++ [key]) other = .ok value := by
        intro other mem
        have reads : c.Reads other key := ⟨stored, found, mem⟩
        refine ih other (reaches.read reads) fun outer houter => ?_
        rcases List.mem_append.mp houter with hpending | hkey
        · exact TransGen.head reads (led outer hpending)
        · obtain rfl := List.mem_singleton.mp hkey
          exact TransGen.single reads
      refine Value.exists_substitute_iff.mpr ⟨inner, fun other mem => ?_⟩
      -- what is found below others is what is found on its own, which is scalar
      obtain ⟨s, hs⟩ := resolvable.scalar other (Or.inr ⟨key, stored, reaches, found, mem⟩)
      obtain ⟨value, hvalue⟩ := inner other (Value.mem_parameters_of_mem_embedded mem)
      have hsame : c.lookup [] other = .ok value := lookup_of_subset (List.nil_subset _) hvalue
      have hresolve : c.lookup [] other = .ok (.scalar s) := hs
      rw [hsame] at hresolve
      exact ⟨s, hvalue.trans hresolve⟩

theorem exists_resolve_iff : (∃ r, c.resolve v = .ok r) ↔ c.Resolvable v := by
  constructor
  · rintro ⟨r, hok⟩
    exact resolvable_of_resolve hok
  · intro resolvable
    refine Value.exists_substitute_iff.mpr ⟨fun key mem => ?_, fun key mem => ?_⟩
    · exact resolvable.exists_lookup (Reaches.of_mem mem) nofun
    · exact resolvable.scalar key (Or.inl mem)

/-- Lookups end, whatever the parameters refer to. A value resolves exactly when all keys that it reaches are
defined and lead back to themselves nowhere, and each key that goes into a string resolves to a scalar. All
parameters resolve when each of them does, and to what each of them resolves to. -/
theorem resolve_complete (c : Container) :
    WellFounded c.Calls ∧
    (∀ v, (∃ r, c.resolve v = .ok r) ↔ c.Resolvable v) ∧
    ((∃ resolved, c.resolveAll = .ok resolved) ↔ ∀ key ∈ c.parameters, c.Resolvable (.parameter key)) ∧
    ∀ resolved, c.resolveAll = .ok resolved → resolved.map (·.1) = c.parameters.keys ∧
      ∀ entry ∈ resolved, c.resolve (.parameter entry.1) = .ok entry.2 := by
  refine ⟨wellFounded_calls c, fun v => exists_resolve_iff, ⟨?_, ?_⟩, ?_⟩
  · rintro ⟨resolved, hresolve⟩ key mem
    obtain ⟨r, -, hlookup⟩ := exists_lookup_of_resolveAll hresolve mem
    exact resolvable_of_resolve hlookup
  · intro resolvable
    have each : ∀ key ∈ c.parameters.keys, ∃ entry : ParameterKey × Value,
        entry.1 = key ∧ c.lookup [] key = .ok entry.2 := by
      intro key mem
      obtain ⟨r, hlookup⟩ := exists_resolve_iff.mpr (resolvable key (Std.ExtTreeMap.mem_keys.mp mem))
      exact ⟨(key, r), rfl, hlookup⟩
    obtain ⟨resolved, hall⟩ := exists_forall₂ each
    exact ⟨resolved, resolveAll_eq_ok_iff.mpr hall⟩
  · intro resolved hresolve
    refine ⟨?_, fun entry mem => lookup_of_mem_resolveAll hresolve mem⟩
    have same : List.Forall₂ (· = ·) (resolved.map (·.1)) c.parameters.keys := by
      refine List.forall₂_map_left_iff.mpr ((resolveAll_eq_ok_iff.mp hresolve).flip.imp ?_)
      exact fun entry key both => both.1
    rwa [List.forall₂_eq_eq_eq] at same

end Container

end ServiceContainer

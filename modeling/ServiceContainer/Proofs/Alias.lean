import Mathlib.Logic.Relation
import ServiceContainer.Proofs.Container
import ServiceContainer.Proofs.Result

/-!
# Chains of aliases

From an id that is an alias there is one way on, to its target. Either this comes to an id that is no alias, or
it goes round for ever, and then it comes back to an id that it has been at.
-/

namespace ServiceContainer.Container

open Relation (ReflTransGen TransGen)

variable {c : Container} {id target last : ServiceId} {seen : List ServiceId}

/-- The alias at the first id has the second for its target. -/
def Leads (c : Container) (id target : ServiceId) : Prop := c.entries[id]? = some (.alias target)

/-- Where a chain of aliases comes to: an id that is no alias, be it known or not. -/
def EndsAt (c : Container) (id last : ServiceId) : Prop :=
  ReflTransGen c.Leads id last ∧ ∀ target, ¬ c.Leads last target

theorem Leads.unique {other : ServiceId} (leads : c.Leads id target) (leads' : c.Leads id other) : target = other := by
  have heq := leads.symm.trans leads'
  cases heq
  rfl

theorem not_leads_empty : ¬ empty.Leads id target := nofun

theorem leads_setDefinition {a : ServiceId} {d : Definition} :
    (c.setDefinition a d).Leads id target ↔ a ≠ id ∧ c.Leads id target := by
  rw [Leads, Leads, setDefinition, getElem?_setEntry]
  split <;> simp [*]

theorem leads_setAlias {a b : ServiceId} :
    (c.setAlias a b).Leads id target ↔ a = id ∧ b = target ∨ a ≠ id ∧ c.Leads id target := by
  rw [Leads, Leads, setAlias, getElem?_setEntry]
  split <;> simp [*]

theorem EndsAt.of_not_leads (hend : ∀ target, ¬ c.Leads id target) : c.EndsAt id id := ⟨.refl, hend⟩

theorem EndsAt.head (leads : c.Leads id target) (ends : c.EndsAt target last) : c.EndsAt id last :=
  ⟨ReflTransGen.head leads ends.1, ends.2⟩

theorem EndsAt.tail (ends : c.EndsAt id last) (leads : c.Leads id target) : c.EndsAt target last := by
  obtain ⟨path, hend⟩ := ends
  rcases ReflTransGen.cases_head path with rfl | ⟨next, leads', path⟩
  · exact absurd leads (hend target)
  · obtain rfl := leads.unique leads'
    exact ⟨path, hend⟩

/-- A chain that ends does not go round. -/
theorem EndsAt.not_transGen (ends : c.EndsAt id last) : ¬ TransGen c.Leads id id := by
  obtain ⟨path, hend⟩ := ends
  induction path using ReflTransGen.head_induction_on with
  | refl =>
      intro cycle
      obtain ⟨target, leads, -⟩ := TransGen.head'_iff.mp cycle
      exact hend target leads
  | head leads _ ih =>
      intro cycle
      obtain ⟨target, leads', back⟩ := TransGen.head'_iff.mp cycle
      obtain rfl := leads.unique leads'
      exact ih (TransGen.tail' back leads)

theorem followAlias_of_leads (new : id ∉ seen) (leads : c.Leads id target) :
    c.followAlias seen id = c.followAlias (seen ++ [id]) target := by
  rw [followAlias, if_neg new]
  split
  · rename_i other found
    rw [leads.unique found]
  · rename_i hnone
    exact absurd leads (hnone target)

theorem followAlias_of_not_leads (new : id ∉ seen) (hend : ∀ target, ¬ c.Leads id target) :
    c.followAlias seen id = .ok id := by
  rw [followAlias, if_neg new]
  split
  · rename_i target found
    exact absurd found (hend target)
  · rfl

theorem endsAt_of_followAlias (hfollow : c.followAlias seen id = .ok last) : c.EndsAt id last := by
  induction seen, id using followAlias.induct c with
  | case1 seen id mem =>
      rw [followAlias, if_pos mem] at hfollow
      cases hfollow
  | case2 seen id new target leads ih =>
      rw [followAlias_of_leads new leads] at hfollow
      exact EndsAt.head leads (ih hfollow)
  | case3 seen id new hend =>
      rw [followAlias_of_not_leads new hend] at hfollow
      cases hfollow
      exact EndsAt.of_not_leads hend

/-- What leads to an id leads past it. -/
theorem transGen_leads_append (led : ∀ other ∈ seen, TransGen c.Leads other id) (leads : c.Leads id target) :
    ∀ other ∈ seen ++ [id], TransGen c.Leads other target := by
  intro other mem
  rcases List.mem_append.mp mem with hseen | hid
  · exact TransGen.tail (led other hseen) leads
  · obtain rfl := List.mem_singleton.mp hid
    exact TransGen.single leads

/-- What has been seen on the way to an id is not met again behind it. -/
theorem EndsAt.followAlias (ends : c.EndsAt id last) (led : ∀ other ∈ seen, TransGen c.Leads other id) :
    c.followAlias seen id = .ok last := by
  induction seen, id using followAlias.induct c with
  | case1 seen id mem => exact absurd (led id mem) ends.not_transGen
  | case2 seen id new target leads ih =>
      rw [followAlias_of_leads new leads]
      exact ih (ends.tail leads) (transGen_leads_append led leads)
  | case3 seen id new hend =>
      rw [followAlias_of_not_leads new hend]
      rcases ReflTransGen.cases_head ends.1 with rfl | ⟨target, leads, -⟩
      · rfl
      · exact absurd leads (hend target)

/-- When no chain goes round, every chain ends. -/
theorem exists_endsAt (acyclic : ∀ id, ¬ TransGen c.Leads id id) (id : ServiceId) : ∃ last, c.EndsAt id last := by
  have behind : ∀ (seen : List ServiceId) (id : ServiceId), (∀ other ∈ seen, TransGen c.Leads other id) →
      ∃ last, c.EndsAt id last := by
    intro seen id led
    induction seen, id using followAlias.induct c with
    | case1 seen id mem => exact absurd (led id mem) (acyclic id)
    | case2 seen id new target leads ih =>
        obtain ⟨last, ends⟩ := ih (transGen_leads_append led leads)
        exact ⟨last, ends.head leads⟩
    | case3 seen id new hend => exact ⟨id, EndsAt.of_not_leads hend⟩
  exact behind [] id nofun

theorem resolveAlias_eq_ok_iff : c.resolveAlias id = .ok last ↔ c.EndsAt id last :=
  ⟨endsAt_of_followAlias, fun ends => ends.followAlias nofun⟩

theorem mem_aliases {entry : ServiceId × ServiceId} : entry ∈ c.aliases ↔ c.Leads entry.1 entry.2 := by
  obtain ⟨id, target⟩ := entry
  rw [aliases, List.mem_filterMap, Leads]
  constructor
  · rintro ⟨⟨other, entry⟩, mem, heq⟩
    rcases entry with d | target
    · cases heq
    · cases heq
      exact Std.ExtTreeMap.mem_toList_iff_getElem?_eq_some.mp mem
  · intro found
    exact ⟨(id, .alias target), Std.ExtTreeMap.mem_toList_iff_getElem?_eq_some.mpr found, rfl⟩

theorem failsOnly_followAlias (seen : List ServiceId) (id : ServiceId) :
    FailsOnly (∃ chain, · = .cyclicAlias chain) (c.followAlias seen id) := by
  induction seen, id using followAlias.induct c with
  | case1 seen id mem =>
      rw [followAlias, if_pos mem]
      exact .error ⟨_, rfl⟩
  | case2 seen id new target leads ih =>
      rw [followAlias_of_leads new leads]
      exact ih
  | case3 seen id new hend =>
      rw [followAlias_of_not_leads new hend]
      exact .ok id

theorem failsOnly_checkAliases : FailsOnly (∃ chain, · = .cyclicAlias chain) c.checkAliases :=
  .forM fun entry _ => (failsOnly_followAlias [] entry.1).bind fun _ => .ok ()

/-- Checking the aliases is following every id to its end. -/
theorem checkAliases_eq_ok_iff : c.checkAliases = .ok () ↔ ∀ id, ∃ last, c.EndsAt id last := by
  rw [checkAliases, forM_eq_ok_iff]
  constructor
  · intro each id
    by_cases leads : ∃ target, c.Leads id target
    · obtain ⟨target, leads⟩ := leads
      obtain ⟨last, hlast, -⟩ := bind_eq_ok_iff.mp (each (id, target) (mem_aliases.mpr leads))
      exact ⟨last, resolveAlias_eq_ok_iff.mp hlast⟩
    · exact ⟨id, EndsAt.of_not_leads (not_exists.mp leads)⟩
  · rintro ends ⟨id, target⟩ -
    obtain ⟨last, hlast⟩ := ends id
    exact bind_eq_ok_iff.mpr ⟨last, resolveAlias_eq_ok_iff.mpr hlast, rfl⟩

end ServiceContainer.Container

import Mathlib.Data.List.Nodup
import Mathlib.Data.String.Basic
import Mathlib.Logic.Relation
import ServiceContainer.ReferenceGraph.Cycle

/-!
# References of a graph

What `addService` and `addReference` record, whatever the order of the calls: a graph is well formed after
every sequence of them, and it holds exactly the references that were added.
-/

namespace ServiceContainer.ReferenceGraph

/-- `source` needs `target` before it can be built. -/
def Refers (g : ReferenceGraph) (source target : ServiceId) : Prop := (source, target) ∈ g.references

/-- One call that extends a graph. -/
inductive Step where
  | service (id : ServiceId)
  | reference (source target : ServiceId)

def apply (g : ReferenceGraph) : Step → ReferenceGraph
  | .service id => g.addService id
  | .reference source target => g.addReference source target

/-- The graph that a sequence of calls leaves, starting from the empty one. -/
def ofSteps (steps : List Step) : ReferenceGraph := steps.foldl apply empty

structure WellFormed (g : ReferenceGraph) : Prop where
  services_nodup : g.services.Nodup
  references_nodup : g.references.Nodup
  source_mem : ∀ {source target}, g.Refers source target → source ∈ g.services
  target_mem : ∀ {source target}, g.Refers source target → target ∈ g.services

section AddService

variable {g : ReferenceGraph} {id : ServiceId}

theorem mem_services_addService {other : ServiceId} :
    other ∈ (g.addService id).services ↔ other ∈ g.services ∨ other = id := by
  unfold addService
  split
  · constructor
    · exact Or.inl
    · rintro (mem | rfl) <;> assumption
  · simp

theorem refers_addService {source target : ServiceId} :
    (g.addService id).Refers source target ↔ g.Refers source target := by
  unfold addService Refers
  split <;> rfl

theorem WellFormed.addService (wf : g.WellFormed) : (g.addService id).WellFormed where
  services_nodup := by
    unfold ReferenceGraph.addService
    split
    · exact wf.services_nodup
    · rw [← List.concat_eq_append]
      exact wf.services_nodup.concat ‹_›
  references_nodup := by
    unfold ReferenceGraph.addService
    split <;> exact wf.references_nodup
  source_mem refers :=
    mem_services_addService.mpr (Or.inl (wf.source_mem (refers_addService.mp refers)))
  target_mem refers :=
    mem_services_addService.mpr (Or.inl (wf.target_mem (refers_addService.mp refers)))

end AddService

section AddReference

variable {g : ReferenceGraph} {source target : ServiceId}

theorem services_addReference :
    (g.addReference source target).services = ((g.addService source).addService target).services := by
  simp only [addReference]
  split <;> rfl

theorem refers_addReference {a b : ServiceId} :
    (g.addReference source target).Refers a b ↔ g.Refers a b ∨ (a, b) = (source, target) := by
  have same : ((g.addService source).addService target).Refers a b ↔ g.Refers a b := by
    rw [refers_addService, refers_addService]
  rw [← same]
  simp only [addReference, Refers]
  split
  · constructor
    · exact Or.inl
    · rintro (mem | heq)
      · exact mem
      · rwa [heq]
  · simp

theorem WellFormed.addReference (wf : g.WellFormed) : (g.addReference source target).WellFormed where
  services_nodup := by
    rw [services_addReference]
    exact wf.addService.addService.services_nodup
  references_nodup := by
    have nodup : ((g.addService source).addService target).references.Nodup :=
      wf.addService.addService.references_nodup
    simp only [ReferenceGraph.addReference]
    split
    · exact nodup
    · rw [← List.concat_eq_append]
      exact nodup.concat ‹_›
  source_mem refers := by
    rw [services_addReference, mem_services_addService, mem_services_addService]
    rcases refers_addReference.mp refers with old | new
    · exact Or.inl (Or.inl (wf.source_mem old))
    · exact Or.inl (Or.inr (congrArg Prod.fst new))
  target_mem refers := by
    rw [services_addReference, mem_services_addService, mem_services_addService]
    rcases refers_addReference.mp refers with old | new
    · exact Or.inl (Or.inl (wf.target_mem old))
    · exact Or.inr (congrArg Prod.snd new)

end AddReference

theorem WellFormed.empty : ReferenceGraph.empty.WellFormed where
  services_nodup := List.nodup_nil
  references_nodup := List.nodup_nil
  source_mem := nofun
  target_mem := nofun

theorem WellFormed.apply {g : ReferenceGraph} (wf : g.WellFormed) (step : Step) :
    (g.apply step).WellFormed := by
  cases step with
  | service id => exact wf.addService
  | reference source target => exact wf.addReference

theorem refers_apply {g : ReferenceGraph} {step : Step} {a b : ServiceId} :
    (g.apply step).Refers a b ↔ g.Refers a b ∨ step = .reference a b := by
  cases step with
  | service id => simp [ReferenceGraph.apply, refers_addService]
  | reference source target =>
      simp only [ReferenceGraph.apply, refers_addReference, Prod.mk.injEq, Step.reference.injEq]
      tauto

theorem WellFormed.foldl_apply (steps : List Step) :
    ∀ {g : ReferenceGraph}, g.WellFormed → (steps.foldl ReferenceGraph.apply g).WellFormed := by
  induction steps with
  | nil => exact id
  | cons step steps ih => exact fun wf => ih (wf.apply step)

theorem wellFormed_ofSteps (steps : List Step) : (ofSteps steps).WellFormed :=
  WellFormed.empty.foldl_apply steps

theorem refers_foldl_apply {steps : List Step} {a b : ServiceId} :
    ∀ {g : ReferenceGraph}, (steps.foldl ReferenceGraph.apply g).Refers a b ↔
      g.Refers a b ∨ .reference a b ∈ steps := by
  induction steps with
  | nil => simp
  | cons step steps ih =>
      intro g
      rw [List.foldl_cons, ih, refers_apply, List.mem_cons]
      tauto

theorem refers_ofSteps {steps : List Step} {a b : ServiceId} :
    (ofSteps steps).Refers a b ↔ .reference a b ∈ steps := by
  unfold ofSteps
  rw [refers_foldl_apply]
  simp [Refers, ReferenceGraph.empty]

theorem mem_successors {g : ReferenceGraph} {a b : ServiceId} : b ∈ g.successors a ↔ g.Refers a b := by
  simp only [successors, List.mem_filterMap, Refers]
  constructor
  · rintro ⟨⟨source, target⟩, mem, hit⟩
    by_cases heq : source = a
    · rw [if_pos heq] at hit
      cases hit
      exact heq ▸ mem
    · rw [if_neg heq] at hit
      cases hit
  · exact fun mem => ⟨(a, b), mem, by simp⟩

@[simp]
theorem mem_referencesOf {g : ReferenceGraph} {a b : ServiceId} :
    b ∈ g.referencesOf a ↔ g.Refers a b := by
  rw [referencesOf, List.mem_mergeSort, mem_successors]

theorem WellFormed.successors_nodup {g : ReferenceGraph} (wf : g.WellFormed) (id : ServiceId) :
    (g.successors id).Nodup := by
  refine List.Nodup.filterMap (fun a b target hit other => ?_) wf.references_nodup
  simp only [Option.mem_def] at hit other
  split at hit <;> split at other <;> simp_all [Prod.ext_iff]

theorem pairwise_mergeSort_le (ids : List ServiceId) : (ids.mergeSort (· ≤ ·)).Pairwise (· ≤ ·) := by
  have sorted : (ids.mergeSort (· ≤ ·)).Pairwise fun a b => decide (a ≤ b) = true := by
    refine List.pairwise_mergeSort ?_ ?_ ids
    · intro a b c hab hbc
      rw [decide_eq_true_eq] at hab hbc ⊢
      exact hab.trans hbc
    · intro a b
      simpa using le_total a b
  simpa using sorted

theorem WellFormed.referencesOf_pairwise_lt {g : ReferenceGraph} (wf : g.WellFormed) (id : ServiceId) :
    (g.referencesOf id).Pairwise (· < ·) := by
  have nodup : (g.referencesOf id).Nodup :=
    (List.mergeSort_perm _ _).nodup_iff.mpr (wf.successors_nodup id)
  exact (pairwise_mergeSort_le _).imp₂ (fun _ _ => lt_of_le_of_ne) nodup

end ServiceContainer.ReferenceGraph

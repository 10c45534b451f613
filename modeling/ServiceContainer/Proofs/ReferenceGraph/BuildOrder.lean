import Mathlib.Data.Set.Insert
import ServiceContainer.Proofs.ReferenceGraph.Check
import ServiceContainer.Proofs.Result
import ServiceContainer.ReferenceGraph.BuildOrder

/-!
# The build order

A walk that has come to a service and not left it yet has come from it to everything above it on the stack of
visits. Without cycles a service that is referred to from above is therefore never one of those, so it has
been left before. `Covered` says that of the visits that are left to do, and every step of the walk keeps it.
-/

namespace ServiceContainer.ReferenceGraph

open Relation (TransGen)

variable {g : ReferenceGraph} {unseen : List ServiceId} {visits : List Visit}

def Visit.id : Visit → ServiceId
  | .enter id | .leave id => id

/-- Each service of a list refers only to services in `built` and to services before it. -/
def DependenciesFirst (g : ReferenceGraph) (built : Set ServiceId) : List ServiceId → Prop
  | [] => True
  | id :: ids => (∀ target, g.Refers id target → target ∈ built) ∧ g.DependenciesFirst (insert id built) ids

/-- By the time a service is left, all that it refers to has been built or come to. -/
def Covered (g : ReferenceGraph) (built : Set ServiceId) : List Visit → Prop
  | [] => True
  | .enter id :: visits => g.Covered (insert id built) visits
  | .leave id :: visits => (∀ target, g.Refers id target → target ∈ built) ∧ g.Covered (insert id built) visits

/-- Whatever stands above a service that is still to be left can be reached from it. -/
def Nested (g : ReferenceGraph) (visits : List Visit) : Prop :=
  visits.Pairwise fun above below => ∀ id, below = .leave id → TransGen g.Refers id above.id

/-- Each service is still to be come to, still to be left, or built. -/
def Known (g : ReferenceGraph) (unseen : List ServiceId) (visits : List Visit) (built : Set ServiceId) : Prop :=
  ∀ id ∈ g.services, id ∈ unseen ∨ .leave id ∈ visits ∨ id ∈ built

/-! ### What is left, and how often -/

theorem mem_walk_of_leave {id : ServiceId} (mem : .leave id ∈ visits) : id ∈ g.walk unseen visits := by
  fun_induction walk g unseen visits with
  | case1 => cases mem
  | case2 unseen other visits ih =>
      rcases List.mem_cons.mp mem with heq | mem
      · cases heq
        exact List.mem_cons_self
      · exact List.mem_cons_of_mem _ (ih mem)
  | case3 unseen other visits hother ih =>
      refine ih (List.mem_append_right _ (List.mem_cons_of_mem _ ?_))
      exact (List.mem_cons.mp mem).resolve_left nofun
  | case4 unseen other visits hother ih => exact ih ((List.mem_cons.mp mem).resolve_left nofun)

theorem mem_walk_of_enter {id : ServiceId} (mem : .enter id ∈ visits) (hunseen : id ∈ unseen) :
    id ∈ g.walk unseen visits := by
  fun_induction walk g unseen visits with
  | case1 => cases mem
  | case2 unseen other visits ih =>
      exact List.mem_cons_of_mem _ (ih ((List.mem_cons.mp mem).resolve_left nofun) hunseen)
  | case3 unseen other visits hother ih =>
      by_cases heq : id = other
      · subst heq
        exact mem_walk_of_leave (List.mem_append_right _ List.mem_cons_self)
      · have hlater : .enter id ∈ visits := by
          refine (List.mem_cons.mp mem).resolve_left fun hvisit => heq ?_
          exact Visit.enter.inj hvisit
        refine ih (List.mem_append_right _ (List.mem_cons_of_mem _ hlater)) ?_
        exact (List.mem_erase_of_ne heq).mpr hunseen
  | case4 unseen other visits hother ih =>
      refine ih ((List.mem_cons.mp mem).resolve_left fun hvisit => hother ?_) hunseen
      rwa [← Visit.enter.inj hvisit]

theorem unseen_or_leave_of_mem_walk {id : ServiceId} (mem : id ∈ g.walk unseen visits) :
    id ∈ unseen ∨ .leave id ∈ visits := by
  fun_induction walk g unseen visits with
  | case1 => cases mem
  | case2 unseen other visits ih =>
      rcases List.mem_cons.mp mem with rfl | mem
      · exact Or.inr List.mem_cons_self
      · exact (ih mem).imp_right (List.mem_cons_of_mem _)
  | case3 unseen other visits hother ih =>
      rcases ih mem with hunseen | hleave
      · exact Or.inl (List.mem_of_mem_erase hunseen)
      · rcases List.mem_append.mp hleave with hentered | hleave
        · obtain ⟨target, -, heq⟩ := List.mem_map.mp hentered
          cases heq
        · rcases List.mem_cons.mp hleave with heq | hleave
          · cases heq
            exact Or.inl hother
          · exact Or.inr (List.mem_cons_of_mem _ hleave)
  | case4 unseen other visits hother ih => exact (ih mem).imp_right (List.mem_cons_of_mem _)

/-! ### Visits that are nested -/

theorem Nested.tail {visit : Visit} (nested : g.Nested (visit :: visits)) : g.Nested visits :=
  (List.pairwise_cons.mp nested).2

theorem Nested.reaches {visit : Visit} {id : ServiceId} (nested : g.Nested (visit :: visits))
    (mem : .leave id ∈ visits) : TransGen g.Refers id visit.id :=
  (List.pairwise_cons.mp nested).1 _ mem id rfl

theorem nested_map_enter (ids : List ServiceId) : g.Nested (ids.map .enter) := by
  refine List.pairwise_map.mpr (List.pairwise_of_forall fun above below id heq => ?_)
  cases heq

/-- Coming to a service puts all that it refers to on top of it. -/
theorem Nested.enter {id : ServiceId} (nested : g.Nested (.enter id :: visits)) :
    g.Nested ((g.successors id).map .enter ++ .leave id :: visits) := by
  refine List.pairwise_append.mpr ⟨nested_map_enter _, ?_, ?_⟩
  · refine List.pairwise_cons.mpr ⟨fun below mem other heq => ?_, nested.tail⟩
    subst heq
    exact nested.reaches mem
  · intro above habove below hbelow other heq
    obtain ⟨target, htarget, rfl⟩ := List.mem_map.mp habove
    have refers : g.Refers id target := mem_successors.mp htarget
    subst heq
    rcases List.mem_cons.mp hbelow with hself | mem
    · cases hself
      exact TransGen.single refers
    · exact (nested.reaches mem).tail refers

/-! ### Visits that are covered -/

theorem Covered.mono {built built' : Set ServiceId} (sub : built ⊆ built') (covered : g.Covered built visits) :
    g.Covered built' visits := by
  induction visits generalizing built built' with
  | nil => trivial
  | cons visit visits ih =>
      cases visit with
      | enter id => exact ih (Set.insert_subset_insert sub) covered
      | leave id =>
          exact ⟨fun target refers => sub (covered.1 target refers),
            ih (Set.insert_subset_insert sub) covered.2⟩

/-- A service that has been come to and is still to be left is referred to from nowhere above. -/
theorem Covered.of_insert {built : Set ServiceId} {id : ServiceId} (acyclic : ¬ g.OnCycle id)
    (nested : g.Nested visits) (mem : .leave id ∈ visits) (covered : g.Covered (insert id built) visits) :
    g.Covered built visits := by
  induction visits generalizing built with
  | nil => cases mem
  | cons visit visits ih =>
      cases visit with
      | enter other =>
          have hmem : .leave id ∈ visits := (List.mem_cons.mp mem).resolve_left nofun
          refine ih nested.tail hmem ?_
          rwa [Set.insert_comm]
      | leave other =>
          have hbuilt : ∀ target, g.Refers other target → target ∈ built := by
            intro target refers
            refine (Set.mem_insert_iff.mp (covered.1 target refers)).resolve_left ?_
            rintro rfl
            rcases List.mem_cons.mp mem with heq | mem
            · cases heq
              exact acyclic (TransGen.single refers)
            · exact acyclic ((nested.reaches mem).tail refers)
          refine ⟨hbuilt, ?_⟩
          by_cases heq : id = other
          · subst heq
            simpa using covered.2
          · have hmem : .leave id ∈ visits := by
              refine (List.mem_cons.mp mem).resolve_left fun hvisit => heq ?_
              exact Visit.leave.inj hvisit
            refine ih nested.tail hmem ?_
            rw [Set.insert_comm]
            exact covered.2

theorem covered_map_enter_append {built : Set ServiceId} {ids : List ServiceId} :
    g.Covered built (ids.map .enter ++ visits) ↔ g.Covered ({id | id ∈ ids} ∪ built) visits := by
  induction ids generalizing built with
  | nil => simp
  | cons id ids ih =>
      have heq : {a | a ∈ ids} ∪ insert id built = {a | a ∈ id :: ids} ∪ built := by
        ext a
        simp only [Set.mem_union, Set.mem_ofPred_eq, Set.mem_insert_iff, List.mem_cons]
        tauto
      rw [List.map_cons, List.cons_append, Covered, ih, heq]

theorem covered_map_enter (built : Set ServiceId) (ids : List ServiceId) :
    g.Covered built (ids.map .enter) := by
  rw [← List.append_nil (ids.map Visit.enter), covered_map_enter_append]
  trivial

theorem Covered.enter {built : Set ServiceId} {id : ServiceId} (covered : g.Covered built (.enter id :: visits)) :
    g.Covered built ((g.successors id).map .enter ++ .leave id :: visits) := by
  rw [covered_map_enter_append]
  refine ⟨fun target refers => Or.inl (mem_successors.mpr refers), ?_⟩
  exact Covered.mono (Set.insert_subset_insert Set.subset_union_right) covered

/-! ### Services that are known -/

theorem Known.leave {built : Set ServiceId} {id : ServiceId} (known : g.Known unseen (.leave id :: visits) built) :
    g.Known unseen visits (insert id built) := by
  intro other hother
  rcases known other hother with hunseen | hleave | hbuilt
  · exact Or.inl hunseen
  · rcases List.mem_cons.mp hleave with heq | hleave
    · cases heq
      exact Or.inr (Or.inr (Set.mem_insert id built))
    · exact Or.inr (Or.inl hleave)
  · exact Or.inr (Or.inr (Set.mem_insert_of_mem id hbuilt))

theorem Known.skip {built : Set ServiceId} {id : ServiceId} (known : g.Known unseen (.enter id :: visits) built) :
    g.Known unseen visits built := by
  have hlater : ∀ other, .leave other ∈ .enter id :: visits → .leave other ∈ visits :=
    fun other mem => (List.mem_cons.mp mem).resolve_left nofun
  exact fun other hother => (known other hother).imp_right (Or.imp_left (hlater other))

theorem Known.enter {built : Set ServiceId} {id : ServiceId} (known : g.Known unseen (.enter id :: visits) built) :
    g.Known (unseen.erase id) ((g.successors id).map .enter ++ .leave id :: visits) built := by
  intro other hother
  by_cases heq : other = id
  · subst heq
    exact Or.inr (Or.inl (List.mem_append_right _ List.mem_cons_self))
  · rcases known.skip other hother with hunseen | hleave | hbuilt
    · exact Or.inl ((List.mem_erase_of_ne heq).mpr hunseen)
    · exact Or.inr (Or.inl (List.mem_append_right _ (List.mem_cons_of_mem _ hleave)))
    · exact Or.inr (Or.inr hbuilt)

/-! ### The walk of an acyclic graph -/

section Acyclic

variable (acyclic : ∀ id, ¬ g.OnCycle id)

include acyclic

theorem nodup_walk (nested : g.Nested visits) (hunseen : unseen.Nodup)
    (apart : ∀ id, .leave id ∈ visits → id ∉ unseen) : (g.walk unseen visits).Nodup := by
  fun_induction walk g unseen visits with
  | case1 => exact List.nodup_nil
  | case2 unseen id visits ih =>
      refine List.nodup_cons.mpr ⟨fun mem => ?_, ?_⟩
      · rcases unseen_or_leave_of_mem_walk mem with hid | hleave
        · exact apart id List.mem_cons_self hid
        · exact acyclic id (nested.reaches hleave)
      · exact ih nested.tail hunseen fun other mem => apart other (List.mem_cons_of_mem _ mem)
  | case3 unseen id visits hid ih =>
      refine ih nested.enter (hunseen.erase id) fun other mem => ?_
      rcases List.mem_append.mp mem with hentered | hleave
      · obtain ⟨target, -, heq⟩ := List.mem_map.mp hentered
        cases heq
      · rcases List.mem_cons.mp hleave with heq | hleave
        · cases heq
          exact hunseen.not_mem_erase
        · exact fun hother => apart other (List.mem_cons_of_mem _ hleave) (List.mem_of_mem_erase hother)
  | case4 unseen id visits hid ih =>
      exact ih nested.tail hunseen fun other mem => apart other (List.mem_cons_of_mem _ mem)

/-- The walk leaves services behind all that they refer to. -/
theorem WellFormed.dependenciesFirst_walk (wf : g.WellFormed) {built : Set ServiceId}
    (nested : g.Nested visits) (covered : g.Covered built visits)
    (inside : ∀ id, .enter id ∈ visits → id ∈ g.services) (known : g.Known unseen visits built) :
    g.DependenciesFirst built (g.walk unseen visits) := by
  fun_induction walk g unseen visits generalizing built with
  | case1 => trivial
  | case2 unseen id visits ih =>
      refine ⟨covered.1, ih nested.tail covered.2 (fun other mem => ?_) known.leave⟩
      exact inside other (List.mem_cons_of_mem _ mem)
  | case3 unseen id visits hid ih =>
      refine ih nested.enter covered.enter (fun other mem => ?_) known.enter
      rcases List.mem_append.mp mem with hentered | hlater
      · obtain ⟨target, htarget, heq⟩ := List.mem_map.mp hentered
        cases heq
        exact wf.target_mem (mem_successors.mp htarget)
      · have hlater : .enter other ∈ visits := (List.mem_cons.mp hlater).resolve_left nofun
        exact inside other (List.mem_cons_of_mem _ hlater)
  | case4 unseen id visits hid ih =>
      refine ih nested.tail ?_ (fun other mem => inside other (List.mem_cons_of_mem _ mem)) known.skip
      -- A service that was seen before is built, or it is left later; then nothing before that needs it.
      rcases known.skip id (inside id List.mem_cons_self) with hunseen | hleave | hbuilt
      · exact absurd hunseen hid
      · exact Covered.of_insert (acyclic id) nested.tail hleave covered
      · rwa [Covered, Set.insert_eq_of_mem hbuilt] at covered

end Acyclic

/-! ### Orders with dependencies first -/

theorem misplaced?_eq_none_iff {built : Std.ExtTreeSet ServiceId} {ids : List ServiceId} :
    g.misplaced? built ids = none ↔ g.DependenciesFirst {id | id ∈ built} ids := by
  induction ids generalizing built with
  | nil => exact iff_of_true rfl trivial
  | cons id ids ih =>
      have heq : {a | a ∈ built.insert id} = insert id {a | a ∈ built} := by
        ext a
        simp [Std.ExtTreeSet.mem_insert, eq_comm (a := a)]
      have hall : (g.successors id).all (· ∈ built) = true ↔ ∀ target, g.Refers id target → target ∈ built := by
        simp [mem_successors]
      rw [misplaced?, DependenciesFirst, ← heq, ← ih]
      split
      · exact (and_iff_right (hall.mp ‹_›)).symm
      · exact iff_of_false nofun fun both => ‹¬ _› (hall.mpr both.1)

/-- `first` stands before `second` in a list without repetitions. -/
def Before (first second : ServiceId) (ids : List ServiceId) : Prop := [first, second].Sublist ids

theorem DependenciesFirst.before {built : Set ServiceId} {ids : List ServiceId} {source target : ServiceId}
    (order : g.DependenciesFirst built ids) (mem : source ∈ ids) (refers : g.Refers source target) :
    target ∈ built ∨ Before target source ids := by
  induction ids generalizing built with
  | nil => cases mem
  | cons id ids ih =>
      by_cases heq : source = id
      · subst heq
        exact Or.inl (order.1 target refers)
      · have hlater : source ∈ ids := (List.mem_cons.mp mem).resolve_left heq
        rcases ih order.2 hlater with hbuilt | hbefore
        · rcases Set.mem_insert_iff.mp hbuilt with rfl | hbuilt
          · exact Or.inr ((List.singleton_sublist.mpr hlater).cons_cons target)
          · exact Or.inl hbuilt
        · exact Or.inr (hbefore.cons id)

/-! ### Building everything -/

/-- A list of all services of a graph, each once and behind all that it refers to. -/
structure IsBuildOrder (g : ReferenceGraph) (order : List ServiceId) : Prop where
  nodup : order.Nodup
  mem_iff : ∀ id, id ∈ order ↔ id ∈ g.services
  before : ∀ {source target}, g.Refers source target → Before target source order

theorem WellFormed.dependenciesFirst_leaveOrder (wf : g.WellFormed) (acyclic : ∀ id, ¬ g.OnCycle id) :
    g.DependenciesFirst ∅ (g.walk g.services (g.services.map .enter)) := by
  refine wf.dependenciesFirst_walk acyclic (nested_map_enter _) (covered_map_enter _ _) ?_ ?_
  · intro id mem
    obtain ⟨service, hservice, heq⟩ := List.mem_map.mp mem
    cases heq
    exact hservice
  · exact fun id hid => Or.inl hid

theorem WellFormed.isBuildOrder_walk (wf : g.WellFormed) (acyclic : ∀ id, ¬ g.OnCycle id) :
    g.IsBuildOrder (g.walk g.services (g.services.map .enter)) := by
  have noLeave : ∀ id, .leave id ∉ g.services.map Visit.enter := by
    intro id mem
    obtain ⟨service, -, heq⟩ := List.mem_map.mp mem
    cases heq
  have mem_iff : ∀ id, id ∈ g.walk g.services (g.services.map .enter) ↔ id ∈ g.services := by
    intro id
    constructor
    · exact fun mem => (unseen_or_leave_of_mem_walk mem).resolve_right (noLeave id)
    · exact fun mem => mem_walk_of_enter (List.mem_map_of_mem mem) mem
  refine ⟨?_, mem_iff, fun {source target} refers => ?_⟩
  · exact nodup_walk acyclic (nested_map_enter _) wf.services_nodup fun id mem => absurd mem (noLeave id)
  · have hsource := (mem_iff source).mpr (wf.source_mem refers)
    exact ((wf.dependenciesFirst_leaveOrder acyclic).before hsource refers).resolve_left id

theorem WellFormed.leaveOrder_eq_ok (wf : g.WellFormed) (acyclic : ∀ id, ¬ g.OnCycle id) :
    g.leaveOrder = .ok (g.walk g.services (g.services.map .enter)) := by
  have placed : g.misplaced? ∅ (g.walk g.services (g.services.map .enter)) = none := by
    rw [misplaced?_eq_none_iff]
    simpa using wf.dependenciesFirst_leaveOrder acyclic
  rw [leaveOrder, placed]
  rfl

theorem WellFormed.buildOrder_eq (wf : g.WellFormed) :
    g.buildOrder = g.check.map fun _ => g.walk g.services (g.services.map .enter) := by
  unfold buildOrder
  cases hcheck : g.check with
  | error failure => rfl
  | ok _ =>
      rw [wf.leaveOrder_eq_ok (wf.check_eq_ok_iff.mp hcheck)]
      rfl

/-- The services that a call mentions. -/
def Step.services : Step → List ServiceId
  | .service id => [id]
  | .reference source target => [source, target]

theorem mem_services_apply {step : Step} {id : ServiceId} :
    id ∈ (g.apply step).services ↔ id ∈ g.services ∨ id ∈ step.services := by
  cases step with
  | service other => simp [apply, Step.services, mem_services_addService]
  | reference source target =>
      simp [apply, Step.services, services_addReference, mem_services_addService, or_assoc]

theorem mem_services_foldl_apply {steps : List Step} {id : ServiceId} :
    ∀ {g : ReferenceGraph}, id ∈ (steps.foldl apply g).services ↔
      id ∈ g.services ∨ ∃ step ∈ steps, id ∈ step.services := by
  induction steps with
  | nil => simp
  | cons step steps ih =>
      intro g
      rw [List.foldl_cons, ih, mem_services_apply, List.exists_mem_cons_iff, or_assoc]

theorem mem_services_ofSteps {steps : List Step} {id : ServiceId} :
    id ∈ (ofSteps steps).services ↔ ∃ step ∈ steps, id ∈ step.services := by
  unfold ofSteps
  rw [mem_services_foldl_apply]
  simp [empty]

/-- A build order is given exactly when the check passes, and the failure is that of the check otherwise.
It has every service that was ever added once and nothing else, and each reference leads back in it. -/
theorem buildOrder_complete (steps : List Step) :
    ((∃ order, (ofSteps steps).buildOrder = .ok order) ↔ (ofSteps steps).check = .ok ()) ∧
    (∀ failure, (ofSteps steps).buildOrder = .error failure ↔ (ofSteps steps).check = .error failure) ∧
    ∀ order, (ofSteps steps).buildOrder = .ok order →
      order.Nodup ∧ (∀ id, id ∈ order ↔ ∃ step ∈ steps, id ∈ step.services) ∧
      ∀ source target, .reference source target ∈ steps → Before target source order := by
  have wf := wellFormed_ofSteps steps
  rw [wf.buildOrder_eq]
  refine ⟨?_, ?_, ?_⟩
  · cases (ofSteps steps).check <;> simp [Except.map]
  · cases (ofSteps steps).check <;> simp [Except.map]
  · intro order hok
    obtain ⟨_, hcheck, rfl⟩ := map_eq_ok_iff.mp hok
    have complete := wf.isBuildOrder_walk (wf.check_eq_ok_iff.mp hcheck)
    refine ⟨complete.nodup, fun id => ?_, fun source target mem => ?_⟩
    · rw [complete.mem_iff, mem_services_ofSteps]
    · exact complete.before (refers_ofSteps.mpr mem)

/-- Two ways from `a` to `d`, one reference of them added twice, and a service that nothing refers to. -/
def diamond : List Step :=
  [.service "e", .reference "a" "b", .reference "b" "d", .reference "a" "c", .reference "c" "d", .reference "a" "b"]

theorem buildOrder_diamond : ∃ order, (ofSteps diamond).buildOrder = .ok order ∧ order.Nodup ∧
    (∀ id, id ∈ order ↔ ∃ step ∈ diamond, id ∈ step.services) ∧
    ∀ source target, .reference source target ∈ diamond → Before target source order := by
  have ascending : ∀ source target, (ofSteps diamond).Refers source target → source < target := by
    intro source target refers
    have mem := refers_ofSteps.mp refers
    simp only [diamond, List.mem_cons, Step.reference.injEq, List.not_mem_nil, or_false, reduceCtorEq, false_or] at mem
    rcases mem with ⟨rfl, rfl⟩ | ⟨rfl, rfl⟩ | ⟨rfl, rfl⟩ | ⟨rfl, rfl⟩ | ⟨rfl, rfl⟩ <;> decide
  have acyclic : ∀ id, ¬ (ofSteps diamond).OnCycle id := by
    intro id cycle
    have hlt := TransGen.mono ascending id id cycle
    rw [Relation.transGen_eq_self] at hlt
    exact lt_irrefl id hlt
  obtain ⟨succeeds, -, complete⟩ := buildOrder_complete diamond
  obtain ⟨order, hok⟩ := succeeds.mpr ((wellFormed_ofSteps diamond).check_eq_ok_iff.mpr acyclic)
  exact ⟨order, hok, complete order hok⟩

end ServiceContainer.ReferenceGraph

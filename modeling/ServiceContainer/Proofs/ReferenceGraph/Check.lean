import Mathlib.Order.Bounds.Basic
import ServiceContainer.Proofs.ReferenceGraph.CycleSearch

/-!
# The cycle that a check reports

A check fails exactly for graphs in which some service needs itself, directly or not. What it reports is
determined by the references alone: it starts at the smallest service on any cycle, no cycle through that
service is shorter, and none of the same length comes before it in dictionary order.
-/

namespace ServiceContainer.ReferenceGraph

open Std (ExtTreeMap ExtTreeSet)

/-- The service needs itself, directly or not. -/
def OnCycle (g : ReferenceGraph) (id : ServiceId) : Prop := Relation.TransGen g.Refers id id

/-- A path along references that starts at a service and ends there again. -/
def CycleAt (g : ReferenceGraph) (id : ServiceId) (path : List ServiceId) : Prop :=
  ∃ middle, path = id :: (middle ++ [id]) ∧ path.IsChain g.Refers

/-- The cycle that stands for all cycles of a graph. Ids compare by code points, which is the order of
their bytes in UTF-8. -/
structure CanonicalCycle (g : ReferenceGraph) (path : List ServiceId) : Prop where
  two_le_length : 2 ≤ path.length
  exists_start : ∃ start, IsLeast {id | g.OnCycle id} start ∧ g.CycleAt start path ∧
    ∀ other, g.CycleAt start other →
      path.length ≤ other.length ∧ (other.length = path.length → path ≤ other)

section Cycles

variable {g : ReferenceGraph} {id : ServiceId}

theorem onCycle_iff_exists_cycleAt : g.OnCycle id ↔ ∃ path, g.CycleAt id path := by
  constructor
  · intro onCycle
    obtain ⟨next, refers, reaches⟩ := Relation.TransGen.head'_iff.mp onCycle
    obtain ⟨rest, chain, last⟩ := List.exists_isChain_cons_of_relationReflTransGen reaches
    have split : next :: rest = (next :: rest).dropLast ++ [id] := by
      rw [← last, List.dropLast_append_getLast]
    refine ⟨id :: (next :: rest), (next :: rest).dropLast, ?_, chain.cons_cons refers⟩
    rw [← split]
  · rintro ⟨_, middle, rfl, chain⟩
    cases middle with
    | nil => exact Relation.TransGen.single (List.isChain_cons_cons.mp chain).1
    | cons next rest =>
        obtain ⟨refers, chain⟩ := List.isChain_cons_cons.mp chain
        refine Relation.TransGen.head' refers ?_
        exact List.relationReflTransGen_of_exists_isChain_cons (rest ++ [id]) chain (by simp)

theorem CycleAt.exists_notMem {path : List ServiceId} (cycle : g.CycleAt id path) :
    ∃ middle, id ∉ middle ∧ g.CycleAt id (id :: (middle ++ [id])) ∧
      rank (id :: (middle ++ [id])) ≤ rank path := by
  obtain ⟨middle, rfl, chain⟩ := cycle
  rcases forall_or_exists_last (p := (· ≠ id)) middle with away | ⟨front, a, back, rfl, ha, hback⟩
  · exact ⟨middle, fun mem => away id mem rfl, ⟨middle, rfl, chain⟩, le_rfl⟩
  · obtain rfl : a = id := not_not.mp ha
    refine ⟨back, fun mem => hback _ mem rfl, ⟨back, rfl, ?_⟩, ?_⟩
    · have suffix : a :: (front ++ a :: back ++ [a]) = (a :: front) ++ (a :: (back ++ [a])) := by simp
      rw [suffix] at chain
      exact chain.right_of_append
    · refine (rank_lt_of_length_lt ?_).le
      simp only [List.length_append, List.length_cons, List.length_nil]
      omega

theorem WellFormed.mem_services_of_isChain (wf : g.WellFormed) {a : ServiceId} {rest : List ServiceId}
    (chain : (a :: rest).IsChain g.Refers) : ∀ b ∈ rest, b ∈ g.services := by
  induction rest generalizing a with
  | nil => exact nofun
  | cons c rest ih =>
      obtain ⟨refers, chain⟩ := List.isChain_cons_cons.mp chain
      exact List.forall_mem_cons.mpr ⟨wf.target_mem refers, ih chain⟩

end Cycles

def searchFrom (g : ReferenceGraph) (start : ServiceId) : Option (List ServiceId) :=
  searchCycle g.referencesOf start ((ExtTreeSet.ofList g.services).erase start) [(start, [])]

theorem inOrder_singleton (start : ServiceId) : InOrder [(start, [])] where
  ascending := List.pairwise_singleton _ _
  origin_lt := by
    simp only [List.mem_singleton]
    rintro _ rfl _ rfl
    exact rank_lt_of_length_lt (by simp [walked])

section SearchFrom

variable {g : ReferenceGraph}

theorem WellFormed.searchFrom_first (wf : g.WellFormed) (start : ServiceId) :
    First (g.CycleAt start) (g.searchFrom start) := by
  have refers_iff : (fun a b => b ∈ g.referencesOf a) = g.Refers := by
    funext a b
    exact propext mem_referencesOf
  refine (searchCycle_first wf.referencesOf_pairwise_lt (inOrder_singleton start)).of_reduced ?_ ?_
  · rintro _ ⟨entry, mem, rest, -, chain, rfl⟩
    obtain rfl := List.mem_singleton.mp mem
    rw [refers_iff] at chain
    exact ⟨rest, by simp [walked], by simpa [walked] using chain⟩
  · intro path cycle
    obtain ⟨middle, hstart, ⟨_, -, chain⟩, hle⟩ := cycle.exists_notMem
    refine ⟨_, ⟨(start, []), List.mem_singleton_self _, middle, ?_, ?_, rfl⟩, ?_⟩
    · intro a ha
      have hservice : a ∈ g.services := wf.mem_services_of_isChain chain a (by simp [ha])
      have hne : start ≠ a := by
        rintro rfl
        exact hstart ha
      simp [ExtTreeSet.mem_erase, hne, hservice]
    · rw [refers_iff]
      exact chain
    · simpa [walked] using hle

theorem WellFormed.searchFrom_eq_none_iff (wf : g.WellFormed) {start : ServiceId} :
    g.searchFrom start = none ↔ ¬ g.OnCycle start := by
  have first := wf.searchFrom_first start
  rw [onCycle_iff_exists_cycleAt, not_exists]
  cases found : g.searchFrom start with
  | none =>
      rw [found] at first
      exact iff_of_true rfl first
  | some path =>
      rw [found] at first
      exact iff_of_false (by simp) fun none => none path first.1

theorem WellFormed.getD_ofList_referencesOf (wf : g.WellFormed) (id : ServiceId) :
    (ExtTreeMap.ofList (g.services.map fun id => (id, g.referencesOf id))).getD id [] =
      g.referencesOf id := by
  by_cases mem : id ∈ g.services
  · refine ExtTreeMap.getD_ofList_of_mem Std.ReflCmp.compare_self ?_ (List.mem_map_of_mem mem)
    refine List.pairwise_map.mpr (wf.services_nodup.imp fun hne => ?_)
    rwa [Std.compare_eq_iff_eq]
  · rw [ExtTreeMap.getD_ofList_of_contains_eq_false (by simpa using mem)]
    symm
    refine List.eq_nil_iff_forall_not_mem.mpr fun target hmem => mem ?_
    exact wf.source_mem (mem_referencesOf.mp hmem)

theorem WellFormed.cycle?_eq (wf : g.WellFormed) :
    g.cycle? = g.sortedServices.findSome? g.searchFrom := by
  unfold cycle? searchFrom
  simp only [wf.getD_ofList_referencesOf]

theorem WellFormed.cycle?_eq_none_iff (wf : g.WellFormed) : g.cycle? = none ↔ ∀ id, ¬ g.OnCycle id := by
  rw [wf.cycle?_eq, List.findSome?_eq_none_iff]
  constructor
  · intro none id onCycle
    obtain ⟨next, -, refers⟩ := Relation.TransGen.tail'_iff.mp onCycle
    refine wf.searchFrom_eq_none_iff.mp (none id ?_) onCycle
    exact List.mem_mergeSort.mpr (wf.target_mem refers)
  · exact fun acyclic id _ => wf.searchFrom_eq_none_iff.mpr (acyclic id)

theorem WellFormed.canonicalCycle_of_cycle? (wf : g.WellFormed) {path : List ServiceId}
    (found : g.cycle? = some path) : g.CanonicalCycle path := by
  rw [wf.cycle?_eq, List.findSome?_eq_some_iff] at found
  obtain ⟨smaller, start, larger, split, hsearch, hnone⟩ := found
  have first := wf.searchFrom_first start
  rw [hsearch] at first
  obtain ⟨cycle, hfirst⟩ := first
  refine ⟨?_, start, ⟨?_, ?_⟩, cycle, ?_⟩
  · obtain ⟨middle, rfl, -⟩ := cycle
    simp
  · exact onCycle_iff_exists_cycleAt.mpr ⟨path, cycle⟩
  · intro id onCycle
    obtain ⟨next, -, refers⟩ := Relation.TransGen.tail'_iff.mp onCycle
    have mem : id ∈ g.sortedServices := List.mem_mergeSort.mpr (wf.target_mem refers)
    have ascending : (smaller ++ start :: larger).Pairwise (· ≤ ·) := by
      rw [← split]
      exact pairwise_mergeSort_le g.services
    rw [split, List.mem_append, List.mem_cons] at mem
    rcases mem with before | rfl | after
    · exact absurd onCycle (wf.searchFrom_eq_none_iff.mp (hnone id before))
    · exact le_rfl
    · exact List.rel_of_pairwise_cons (List.pairwise_append.mp ascending).2.1 after
  · intro other hother
    rcases rank_le_iff.mp (hfirst other hother) with hlt | ⟨hlength, hle⟩
    · exact ⟨hlt.le, fun heq => absurd heq hlt.ne'⟩
    · exact ⟨hlength.le, fun _ => hle⟩

end SearchFrom

/-- There is one canonical cycle at most, and it depends on nothing but the references. -/
theorem CanonicalCycle.eq {g h : ReferenceGraph} (same : g.Refers = h.Refers) {p q : List ServiceId}
    (hp : g.CanonicalCycle p) (hq : h.CanonicalCycle q) : p = q := by
  obtain ⟨-, start, hstart, cycle, hfirst⟩ := hp
  obtain ⟨-, start', hstart', cycle', hfirst'⟩ := hq
  simp only [OnCycle, CycleAt, same] at hstart cycle hfirst
  obtain rfl : start = start' := hstart.unique hstart'
  have hlength : p.length = q.length := le_antisymm (hfirst q cycle').1 (hfirst' p cycle).1
  exact le_antisymm ((hfirst q cycle').2 hlength.symm) ((hfirst' p cycle).2 hlength)

section Check

variable {g : ReferenceGraph}

theorem check_eq_ok_iff_cycle? : g.check = .ok () ↔ g.cycle? = none := by
  unfold check
  cases g.cycle? <;> simp

theorem WellFormed.check_eq_ok_iff (wf : g.WellFormed) : g.check = .ok () ↔ ∀ id, ¬ g.OnCycle id := by
  rw [check_eq_ok_iff_cycle?, wf.cycle?_eq_none_iff]

theorem check_eq_error_iff {failure : Failure} :
    g.check = .error failure ↔ ∃ path, g.cycle? = some path ∧ failure = .circularReference path := by
  unfold check
  cases g.cycle? <;> simp [eq_comm]

theorem WellFormed.check_congr {h : ReferenceGraph} (wf : g.WellFormed) (wf' : h.WellFormed)
    (same : g.Refers = h.Refers) : g.check = h.check := by
  have hnone : g.cycle? = none ↔ h.cycle? = none := by
    rw [wf.cycle?_eq_none_iff, wf'.cycle?_eq_none_iff]
    simp only [OnCycle, same]
  have heq : g.cycle? = h.cycle? := by
    cases hg : g.cycle? with
    | none => exact (hnone.mp hg).symm
    | some p =>
        cases hh : h.cycle? with
        | none => exact absurd (hnone.mpr hh) (by simp [hg])
        | some q =>
            rw [(wf.canonicalCycle_of_cycle? hg).eq same (wf'.canonicalCycle_of_cycle? hh)]
  unfold check
  rw [heq]

end Check

/-- A check decides whether any service needs itself and reports the canonical cycle, whatever calls the
graph was built by and in whichever order. The search for a cycle through a service that is on one never
comes back without it. -/
theorem check_canonical (steps : List Step) :
    ((ofSteps steps).check = .ok () ↔ ∀ id, ¬ (ofSteps steps).OnCycle id) ∧
    (∀ failure, (ofSteps steps).check = .error failure →
      ∃ path, failure = .circularReference path ∧ (ofSteps steps).CanonicalCycle path) ∧
    (∀ others, (∀ a b, Step.reference a b ∈ steps ↔ Step.reference a b ∈ others) →
      (ofSteps steps).check = (ofSteps others).check) ∧
    ∀ id, (ofSteps steps).OnCycle id →
      ∃ path, (ofSteps steps).searchFrom id = some path ∧ 2 ≤ path.length := by
  have wf := wellFormed_ofSteps steps
  refine ⟨wf.check_eq_ok_iff, ?_, ?_, ?_⟩
  · intro failure failed
    obtain ⟨path, found, rfl⟩ := check_eq_error_iff.mp failed
    exact ⟨path, rfl, wf.canonicalCycle_of_cycle? found⟩
  · intro others same
    refine wf.check_congr (wellFormed_ofSteps others) ?_
    funext a b
    exact propext (by rw [refers_ofSteps, refers_ofSteps, same])
  · intro id onCycle
    have first := wf.searchFrom_first id
    cases found : (ofSteps steps).searchFrom id with
    | none => exact absurd onCycle (wf.searchFrom_eq_none_iff.mp found)
    | some path =>
        rw [found] at first
        obtain ⟨middle, rfl, -⟩ := first.1
        exact ⟨_, rfl, by simp⟩

end ServiceContainer.ReferenceGraph

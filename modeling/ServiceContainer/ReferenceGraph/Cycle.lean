import ServiceContainer.ReferenceGraph
import Std.Data.ExtTreeSet

/-!
Cycles of references. Of all services that can reach themselves the smallest is reported, with the shortest
way round that starts at it; among equally short ways the one through the smallest ids.
-/

namespace ServiceContainer.ReferenceGraph

open Std (ExtTreeMap ExtTreeSet)

/-- Takes from `unseen` those services of a list that are in it. Gives them in order, each once, with what is
left. -/
def discover (unseen : ExtTreeSet ServiceId) : List ServiceId → List ServiceId × ExtTreeSet ServiceId
  | [] => ([], unseen)
  | id :: ids =>
    if id ∈ unseen then
      let (found, others) := discover (unseen.erase id) ids
      (id :: found, others)
    else discover unseen ids

theorem size_erase_add_one {ids : ExtTreeSet ServiceId} {id : ServiceId} (mem : id ∈ ids) :
    (ids.erase id).size + 1 = ids.size := by
  have nonempty : ids.size ≠ 0 := by
    intro zero
    rw [← ExtTreeSet.eq_empty_iff_size_eq_zero] at zero
    simp [zero] at mem
  rw [ExtTreeSet.size_erase, if_pos (ExtTreeSet.mem_iff_contains.mp mem)]
  omega

theorem size_discover (unseen : ExtTreeSet ServiceId) (ids : List ServiceId) :
    (discover unseen ids).2.size + (discover unseen ids).1.length = unseen.size := by
  fun_induction discover unseen ids with
  | case1 => simp
  | case2 unseen id ids mem found others split ih =>
    have := size_erase_add_one mem
    simp only [split] at ih
    simp only [List.length_cons]
    omega
  | case3 => assumption

/-- Breadth-first search for a reference back to `start`. The queue holds paths from `start`, last service
first, and `unseen` the services that no path has come to; `targets` gives what a service refers to, in code
point order. -/
def searchCycle (targets : ServiceId → List ServiceId) (start : ServiceId) (unseen : ExtTreeSet ServiceId) :
    List (ServiceId × List ServiceId) → Option (List ServiceId)
  | [] => none
  | (id, before) :: queue =>
    if start ∈ targets id then some ((start :: id :: before).reverse)
    else
      match _found : discover unseen (targets id) with
      | (next, others) => searchCycle targets start others (queue ++ next.map (·, id :: before))
termination_by queue => unseen.size + queue.length
decreasing_by
  have size := size_discover unseen (targets id)
  simp only [_found] at size
  simp only [List.length_append, List.length_map, List.length_cons]
  omega

/-- The shortest cycle through the smallest service that is on one. -/
def cycle? (g : ReferenceGraph) : Option (List ServiceId) :=
  let all : ExtTreeSet ServiceId := .ofList g.services
  let targets : ExtTreeMap ServiceId (List ServiceId) := .ofList (g.services.map fun id => (id, g.referencesOf id))
  g.sortedServices.findSome? fun start =>
    searchCycle (fun id => targets.getD id []) start (all.erase start) [(start, [])]

/-- Fails if some service needs itself, directly or not. -/
def check (g : ReferenceGraph) : Except Failure Unit :=
  g.cycle?.elim (.ok ()) fun path => .error (.circularReference path)

end ServiceContainer.ReferenceGraph

import ServiceContainer.ReferenceGraph.Cycle

/-!
A build order: every service behind all that it refers to.
-/

namespace ServiceContainer.ReferenceGraph

open Std (ExtTreeSet)

/-- One step of the depth-first walk: come to a service, or leave it when all it refers to is built. -/
inductive Visit where
  | enter (id : ServiceId)
  | leave (id : ServiceId)

/-- Works off the visits, and gives the services in the order in which they are left. -/
def walk (g : ReferenceGraph) (unseen : List ServiceId) : List Visit → List ServiceId
  | [] => []
  | .leave id :: visits => id :: g.walk unseen visits
  | .enter id :: visits =>
    if id ∈ unseen then
      g.walk (unseen.erase id) ((g.successors id).map .enter ++ .leave id :: visits)
    else g.walk unseen visits
termination_by visits => (unseen.length, visits.length)
decreasing_by
  · exact Prod.Lex.right _ (by simp)
  · apply Prod.Lex.left
    have := List.length_pos_of_mem ‹id ∈ unseen›
    rw [List.length_erase_of_mem ‹id ∈ unseen›]
    omega
  · exact Prod.Lex.right _ (by simp)

/-- The first service in a list that refers to one neither built nor listed before it. -/
def misplaced? (g : ReferenceGraph) (built : ExtTreeSet ServiceId) : List ServiceId → Option ServiceId
  | [] => none
  | id :: ids =>
    if (g.successors id).all (· ∈ built) then g.misplaced? (built.insert id) ids else some id

/-- The services in the order in which a walk from each of them in turn leaves them. A walk around a cycle
leaves some service before one that it refers to, and gives that service instead. -/
def leaveOrder (g : ReferenceGraph) : Except ServiceId (List ServiceId) :=
  let order := g.walk g.services (g.services.map .enter)
  (g.misplaced? ∅ order).elim (.ok order) .error

/-- The shortest cycle through a service; the service alone if it is on none. -/
def cycleFrom (g : ReferenceGraph) (start : ServiceId) : List ServiceId :=
  let unseen : ExtTreeSet ServiceId := .ofList g.services
  (searchCycle g.referencesOf start (unseen.erase start) [(start, [])]).getD [start]

def buildOrder (g : ReferenceGraph) : Except Failure (List ServiceId) := do
  g.check
  g.leaveOrder.mapError fun id => .circularReference (g.cycleFrom id)

end ServiceContainer.ReferenceGraph

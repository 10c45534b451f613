import ServiceContainer.Container

/-!
Which services need which others before they can be built, and in what order everything can be built.
-/

namespace ServiceContainer

/-- Services in the order in which they came up, and references between them in the order in which they were
recorded. -/
structure ReferenceGraph where
  services : List ServiceId
  references : List (ServiceId × ServiceId)

namespace ReferenceGraph

def empty : ReferenceGraph := ⟨[], []⟩

def addService (g : ReferenceGraph) (id : ServiceId) : ReferenceGraph :=
  if id ∈ g.services then g else { g with services := g.services ++ [id] }

/-- Records that `source` needs `target`; recording it again changes nothing. -/
def addReference (g : ReferenceGraph) (source target : ServiceId) : ReferenceGraph :=
  let g := (g.addService source).addService target
  if (source, target) ∈ g.references then g
  else { g with references := g.references ++ [(source, target)] }

def addEntry (g : ReferenceGraph) (id : ServiceId) : Entry → ReferenceGraph
  | .alias target => (g.addService id).addReference id target
  | .definition d => d.constructorServices.foldl (·.addReference id ·) (g.addService id)

/-- Definitions need what their constructors need, and aliases their targets. -/
def ofContainer (c : Container) : ReferenceGraph :=
  c.entries.toList.foldl (fun g (id, entry) => g.addEntry id entry) empty

def successors (g : ReferenceGraph) (id : ServiceId) : List ServiceId :=
  g.references.filterMap fun (source, target) => if source = id then some target else none

def sortedServices (g : ReferenceGraph) : List ServiceId := g.services.mergeSort (· ≤ ·)

def referencesOf (g : ReferenceGraph) (id : ServiceId) : List ServiceId := (g.successors id).mergeSort (· ≤ ·)

end ReferenceGraph

end ServiceContainer

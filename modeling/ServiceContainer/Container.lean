import ServiceContainer.Definition
import ServiceContainer.Failure
import Std.Data.ExtTreeMap

/-!
The container being configured: what each id stands for, and the parameters. Ids and parameter keys are kept
in code point order, and the last thing written under either is what it holds.
-/

namespace ServiceContainer

open Std (ExtTreeMap)

/-- How many places are not on the trail yet, where links are followed and no place is come to twice. -/
def unvisited {α : Type} [DecidableEq α] (places trail : List α) : Nat :=
  (places.filter (· ∉ trail)).length

theorem unvisited_append_lt {α : Type} [DecidableEq α] {places trail : List α} {a : α}
    (mem : a ∈ places) (new : a ∉ trail) : unvisited places (trail ++ [a]) < unvisited places trail := by
  have filtered : places.filter (· ∉ trail ++ [a]) = (places.filter (· ∉ trail)).filter (· ≠ a) := by
    rw [List.filter_filter]
    congr 1
    funext b
    simp [and_comm]
  unfold unvisited
  rw [filtered, List.length_filter_lt_length_iff_exists]
  exact ⟨a, by simp [mem, new], by simp⟩

inductive Entry where
  | definition (d : Definition)
  /-- Another id that is used in place of this one. -/
  | alias (target : ServiceId)

structure Container where
  entries : ExtTreeMap ServiceId Entry
  parameters : ExtTreeMap ParameterKey Value

namespace Container

def empty : Container := ⟨∅, ∅⟩

def setEntry (c : Container) (id : ServiceId) (entry : Entry) : Container :=
  { c with entries := c.entries.insert id entry }

def setDefinition (c : Container) (id : ServiceId) (d : Definition) : Container :=
  c.setEntry id (.definition d)

def setAlias (c : Container) (id target : ServiceId) : Container := c.setEntry id (.alias target)

def remove (c : Container) (id : ServiceId) : Container := { c with entries := c.entries.erase id }

def definition? (c : Container) (id : ServiceId) : Option Definition :=
  match c.entries[id]? with
  | some (.definition d) => some d
  | _ => none

def alias? (c : Container) (id : ServiceId) : Option ServiceId :=
  match c.entries[id]? with
  | some (.alias target) => some target
  | _ => none

def definition (c : Container) (id : ServiceId) : Except Failure Definition :=
  (c.definition? id).elim (.error (.notFound .definition id)) .ok

def aliasTarget (c : Container) (id : ServiceId) : Except Failure ServiceId :=
  (c.alias? id).elim (.error (.notFound .alias id)) .ok

def modifyDefinition (c : Container) (id : ServiceId) (f : Definition → Definition) :
    Except Failure Container :=
  (c.definition id).map fun d => c.setDefinition id (f d)

def ids (c : Container) : List ServiceId := c.entries.keys

def definitions (c : Container) : List (ServiceId × Definition) :=
  c.entries.toList.filterMap fun
    | (id, .definition d) => some (id, d)
    | (_, .alias _) => none

def aliases (c : Container) : List (ServiceId × ServiceId) :=
  c.entries.toList.filterMap fun
    | (_, .definition _) => none
    | (id, .alias target) => some (id, target)

def aliasesOf (c : Container) (id : ServiceId) : List (ServiceId × ServiceId) :=
  c.aliases.filter fun (_, target) => target = id

def setParameter (c : Container) (name : String) (value : Value) : Container :=
  { c with parameters := c.parameters.insert (.ofName name) value }

def addParameters (c : Container) (parameters : List (String × Value)) : Container :=
  parameters.foldl (fun c (name, value) => c.setParameter name value) c

def hasParameter (c : Container) (name : String) : Bool := c.parameters.contains (.ofName name)

def parameter (c : Container) (name : String) : Except Failure Value :=
  c.parameters[ParameterKey.ofName name]?.elim (.error (.notFound .parameter name)) .ok

def merge (c other : Container) : Container :=
  ⟨c.entries ∪ other.entries, c.parameters ∪ other.parameters⟩

/-- Follows aliases from `id` to an id that is none, having come through the ids in `seen`. -/
def followAlias (c : Container) (seen : List ServiceId) (id : ServiceId) : Except Failure ServiceId :=
  if id ∈ seen then .error (.cyclicAlias (seen ++ [id]))
  else
    match _found : c.entries[id]? with
    | some (.alias target) => c.followAlias (seen ++ [id]) target
    | _ => .ok id
termination_by unvisited c.entries.keys seen
decreasing_by
  apply unvisited_append_lt _ ‹_›
  rw [ExtTreeMap.mem_keys, ExtTreeMap.mem_iff_isSome_getElem?, _found]
  rfl

/-- The id that an id stands for in the end; unknown ids stand for themselves. -/
def resolveAlias (c : Container) (id : ServiceId) : Except Failure ServiceId := c.followAlias [] id

/-- Fails for the first alias that leads back to itself. -/
def checkAliases (c : Container) : Except Failure Unit :=
  c.aliases.forM fun (id, _) => do let _ ← c.resolveAlias id

def findDefinition (c : Container) (id : ServiceId) : Except Failure Definition := do
  c.definition (← c.resolveAlias id)

end Container

end ServiceContainer

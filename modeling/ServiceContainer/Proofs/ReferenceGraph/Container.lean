import ServiceContainer.Proofs.ReferenceGraph.Reference

/-!
# The graph of a container

The graph of a container is the outcome of a sequence of calls, so it is well formed, and it refers from
each entry to what has to be there before the entry can be constructed.
-/

namespace ServiceContainer

/-- What has to be there before an entry can be constructed. -/
def Entry.constructorServices : Entry → List ServiceId
  | .alias target => [target]
  | .definition d => d.constructorServices

namespace ReferenceGraph

def stepsOf (id : ServiceId) (entry : Entry) : List Step :=
  .service id :: entry.constructorServices.map (.reference id)

theorem foldl_addReference (id : ServiceId) (targets : List ServiceId) (g : ReferenceGraph) :
    targets.foldl (·.addReference id ·) g = (targets.map (Step.reference id)).foldl apply g := by
  rw [List.foldl_map]
  rfl

theorem addEntry_eq_foldl_apply (g : ReferenceGraph) (id : ServiceId) (entry : Entry) :
    g.addEntry id entry = (stepsOf id entry).foldl apply g := by
  rcases entry with d | target
  · exact foldl_addReference id d.constructorServices (g.addService id)
  · rfl

theorem foldl_addEntry (entries : List (ServiceId × Entry)) (g : ReferenceGraph) :
    entries.foldl (fun g (id, entry) => g.addEntry id entry) g =
      (entries.flatMap fun (id, entry) => stepsOf id entry).foldl apply g := by
  induction entries generalizing g with
  | nil => rfl
  | cons entry entries ih =>
      rw [List.foldl_cons, List.flatMap_cons, List.foldl_append, ← addEntry_eq_foldl_apply]
      exact ih _

theorem ofContainer_eq_ofSteps (c : Container) :
    ofContainer c = ofSteps (c.entries.toList.flatMap fun (id, entry) => stepsOf id entry) :=
  foldl_addEntry c.entries.toList empty

theorem wellFormed_ofContainer (c : Container) : (ofContainer c).WellFormed := by
  rw [ofContainer_eq_ofSteps]
  exact wellFormed_ofSteps _

theorem refers_ofContainer {c : Container} {a b : ServiceId} :
    (ofContainer c).Refers a b ↔ ∃ entry, c.entries[a]? = some entry ∧ b ∈ entry.constructorServices := by
  rw [ofContainer_eq_ofSteps, refers_ofSteps, List.mem_flatMap]
  constructor
  · rintro ⟨⟨id, entry⟩, mem, step⟩
    obtain ⟨target, hb, heq⟩ :
        ∃ target ∈ entry.constructorServices, Step.reference id target = .reference a b := by
      simpa [stepsOf] using step
    cases heq
    exact ⟨entry, Std.ExtTreeMap.mem_toList_iff_getElem?_eq_some.mp mem, hb⟩
  · rintro ⟨entry, found, mem⟩
    refine ⟨(a, entry), Std.ExtTreeMap.mem_toList_iff_getElem?_eq_some.mpr found, ?_⟩
    exact List.mem_cons_of_mem _ (List.mem_map_of_mem mem)

end ReferenceGraph

end ServiceContainer

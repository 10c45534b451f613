import ServiceContainer.Container

/-!
# What a container holds

The last thing written under an id or a parameter key is what is found there, and nothing else changes.
-/

namespace ServiceContainer.Container

variable {c : Container}

theorem getElem?_setEntry (id : ServiceId) (entry : Entry) (a : ServiceId) :
    (c.setEntry id entry).entries[a]? = if id = a then some entry else c.entries[a]? := by
  simp only [setEntry, Std.ExtTreeMap.getElem?_insert, Std.compare_eq_iff_eq]

theorem getElem?_setParameter (name : String) (value : Value) (key : ParameterKey) :
    (c.setParameter name value).parameters[key]? =
      if ParameterKey.ofName name = key then some value else c.parameters[key]? := by
  simp only [setParameter, Std.ExtTreeMap.getElem?_insert, Std.compare_eq_iff_eq]

theorem mem_entries_of_found {id : ServiceId} {entry : Entry} (found : c.entries[id]? = some entry) :
    id ∈ c.entries := by
  rw [Std.ExtTreeMap.mem_iff_isSome_getElem?, found]
  rfl

theorem definition?_eq_some_iff {id : ServiceId} {d : Definition} :
    c.definition? id = some d ↔ c.entries[id]? = some (.definition d) := by
  unfold definition?
  split
  · rename_i d' found
    rw [found, Option.some_inj, Option.some_inj, Entry.definition.injEq]
  · rename_i other
    exact iff_of_false nofun fun found => other d found

theorem alias?_eq_some_iff {id target : ServiceId} :
    c.alias? id = some target ↔ c.entries[id]? = some (.alias target) := by
  unfold alias?
  split
  · rename_i target' found
    rw [found, Option.some_inj, Option.some_inj, Entry.alias.injEq]
  · rename_i other
    exact iff_of_false nofun fun found => other target found

theorem mem_definitions {id : ServiceId} {d : Definition} :
    (id, d) ∈ c.definitions ↔ c.entries[id]? = some (.definition d) := by
  rw [definitions, List.mem_filterMap]
  constructor
  · rintro ⟨⟨a, entry⟩, mem, heq⟩
    cases entry with
    | definition d' =>
        cases heq
        exact Std.ExtTreeMap.mem_toList_iff_getElem?_eq_some.mp mem
    | «alias» target => cases heq
  · intro found
    exact ⟨(id, .definition d), Std.ExtTreeMap.mem_toList_iff_getElem?_eq_some.mpr found, rfl⟩

end ServiceContainer.Container

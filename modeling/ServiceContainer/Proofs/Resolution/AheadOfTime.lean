import ServiceContainer.Proofs.Container
import ServiceContainer.Proofs.Resolution.Resolved

/-!
# Parameters resolved ahead of time

When all parameters resolve, each of them can be set to what it resolves to. A lookup then finds in one step
what it came to before, so that every value resolves, or fails to, as it did.
-/

namespace ServiceContainer.Container

variable {c : Container}

/-! ### Setting parameters -/

/-- The container in which the given parameters have the given values. -/
def withValues (c : Container) (values : List (ParameterKey × Value)) : Container :=
  c.addParameters (values.map fun (key, value) => (key.text, value))

section WithValues

variable {values : List (ParameterKey × Value)} {key : ParameterKey} {v : Value}

theorem withValues_cons (entry : ParameterKey × Value) (values : List (ParameterKey × Value)) :
    c.withValues (entry :: values) = (c.setParameter entry.1.text entry.2).withValues values := rfl

theorem entries_withValues (values : List (ParameterKey × Value)) : (c.withValues values).entries = c.entries := by
  induction values generalizing c with
  | nil => rfl
  | cons entry values ih =>
      rw [withValues_cons, ih]
      rfl

theorem getElem?_withValues_of_notMem (other : key ∉ values.map (·.1)) :
    (c.withValues values).parameters[key]? = c.parameters[key]? := by
  induction values generalizing c with
  | nil => rfl
  | cons entry values ih =>
      rw [List.map_cons, List.mem_cons, not_or] at other
      rw [withValues_cons, ih other.2, getElem?_setParameter, ParameterKey.ofName_text, if_neg (Ne.symm other.1)]

theorem getElem?_withValues_of_mem (unique : ∀ other, (key, other) ∈ values → other = v) (mem : (key, v) ∈ values) :
    (c.withValues values).parameters[key]? = some v := by
  induction values generalizing c with
  | nil => cases mem
  | cons entry values ih =>
      rw [withValues_cons]
      by_cases later : (key, v) ∈ values
      · exact ih (fun other hother => unique other (List.mem_cons_of_mem entry hother)) later
      · obtain rfl : (key, v) = entry := (List.mem_cons.mp mem).resolve_right later
        have last : key ∉ values.map (·.1) := by
          intro hkey
          obtain ⟨⟨_, other⟩, hother, rfl⟩ := List.mem_map.mp hkey
          rw [unique other (List.mem_cons_of_mem _ hother)] at hother
          exact later hother
        rw [getElem?_withValues_of_notMem last, getElem?_setParameter, ParameterKey.ofName_text, if_pos rfl]

end WithValues

/-! ### Setting parameters to what they resolve to -/

section Resolved

variable {resolved : List (ParameterKey × Value)} {key : ParameterKey} {v : Value}

theorem mem_keys_of_resolveAll (hresolve : c.resolveAll = .ok resolved) :
    key ∈ resolved.map (·.1) ↔ key ∈ c.parameters := by
  constructor
  · intro mem
    obtain ⟨entry, hentry, rfl⟩ := List.mem_map.mp mem
    exact mem_parameters_of_lookup (lookup_of_mem_resolveAll hresolve hentry)
  · intro mem
    obtain ⟨r, hentry, -⟩ := exists_lookup_of_resolveAll hresolve mem
    exact List.mem_map_of_mem hentry

theorem found_withValues (hresolve : c.resolveAll = .ok resolved) :
    (c.withValues resolved).parameters[key]? = some v ↔ (key, v) ∈ resolved := by
  have unique : ∀ {v}, (key, v) ∈ resolved → ∀ other, (key, other) ∈ resolved → other = v := by
    intro v mem other hother
    have hlookup := lookup_of_mem_resolveAll hresolve mem
    rw [lookup_of_mem_resolveAll hresolve hother] at hlookup
    exact Except.ok.inj hlookup
  constructor
  · intro found
    have mem : key ∈ resolved.map (·.1) := by
      by_contra other
      rw [getElem?_withValues_of_notMem other] at found
      exact other ((mem_keys_of_resolveAll hresolve).mpr (mem_parameters_of_found found))
    obtain ⟨⟨_, r⟩, hentry, rfl⟩ := List.mem_map.mp mem
    rw [getElem?_withValues_of_mem (unique hentry) hentry] at found
    rwa [← Option.some.inj found]
  · exact fun mem => getElem?_withValues_of_mem (unique mem) mem

/-- What is stored now is resolved, so looking it up does not depend on other parameters. -/
theorem lookup_withValues (hresolve : c.resolveAll = .ok resolved) (key : ParameterKey) :
    (c.withValues resolved).lookup [] key = c.lookup [] key := by
  by_cases mem : key ∈ c.parameters
  · obtain ⟨r, hentry, hlookup⟩ := exists_lookup_of_resolveAll hresolve mem
    rw [lookup_eq_substitute List.not_mem_nil ((found_withValues hresolve).mpr hentry), hlookup]
    exact (resolved_of_lookup hlookup).substitute_eq
  · have other : key ∉ resolved.map (·.1) := fun hkey => mem ((mem_keys_of_resolveAll hresolve).mp hkey)
    have unset : c.parameters[key]? = none := Std.ExtTreeMap.getElem?_eq_none mem
    rw [lookup_of_not_found List.not_mem_nil unset, lookup_of_not_found List.not_mem_nil]
    rw [getElem?_withValues_of_notMem other, unset]

end Resolved

/-- A container whose parameters are set to what they resolve to holds just those values besides its entries, and
each value and each definition resolves in it to what it resolved to before, or fails in the same way. -/
theorem resolve_withValues (c : Container) (resolved : List (ParameterKey × Value))
    (hresolve : c.resolveAll = .ok resolved) :
    (c.withValues resolved).entries = c.entries ∧
    (∀ key v, (c.withValues resolved).parameters[key]? = some v ↔ (key, v) ∈ resolved) ∧
    (∀ v, (c.withValues resolved).resolve v = c.resolve v) ∧
    ∀ d, (c.withValues resolved).resolveDefinition d = c.resolveDefinition d := by
  have same : (c.withValues resolved).lookup [] = c.lookup [] := funext (lookup_withValues hresolve)
  refine ⟨entries_withValues resolved, fun key v => found_withValues hresolve, fun v => ?_, fun d => ?_⟩
  · rw [resolve, resolve, same]
  · rw [resolveDefinition, resolveDefinition, same]

/-! ### A chain of parameters -/

/-- A directory below a root, and a list that names the directory. -/
def withDirectories : Container :=
  empty.addParameters
    [("Root", .text "/srv"), ("tmp", .template [.parameter (.ofName "root"), .literal "/tmp"]),
      ("dirs", .list [(.index 0, .parameter (.ofName "tmp"))])]

theorem lookup_root {pending : List ParameterKey} (new : .ofName "root" ∉ pending) :
    withDirectories.lookup pending (.ofName "root") = .ok (.text "/srv") := by
  have found : withDirectories.parameters[ParameterKey.ofName "root"]? = some (.text "/srv") := rfl
  rw [lookup_eq_substitute new found]
  rfl

theorem lookup_tmp {pending : List ParameterKey} (new : .ofName "tmp" ∉ pending)
    (root : .ofName "root" ∉ pending) :
    withDirectories.lookup pending (.ofName "tmp") = .ok (.text "/srv/tmp") := by
  have found : withDirectories.parameters[ParameterKey.ofName "tmp"]? =
      some (.template [.parameter (.ofName "root"), .literal "/tmp"]) := rfl
  have hroot : withDirectories.lookup (pending ++ [.ofName "tmp"]) (.ofName "root") = .ok (.text "/srv") :=
    lookup_root (by simpa [root] using (by decide : ParameterKey.ofName "root" ≠ .ofName "tmp"))
  rw [lookup_eq_substitute new found, Value.substitute_template_eq_ok_iff]
  refine ⟨["/srv", "/tmp"], rfl, ?_⟩
  exact .cons (Segment.interpolate_eq_ok_iff.mpr ⟨_, hroot, rfl⟩) (.cons rfl .nil)

theorem lookup_dirs :
    withDirectories.lookup [] (.ofName "dirs") = .ok (.list [(.index 0, .text "/srv/tmp")]) := by
  have found : withDirectories.parameters[ParameterKey.ofName "dirs"]? =
      some (.list [(.index 0, .parameter (.ofName "tmp"))]) := rfl
  have hdir : withDirectories.lookup [.ofName "dirs"] (.ofName "tmp") = .ok (.text "/srv/tmp") :=
    lookup_tmp (by decide) (by decide)
  rw [lookup_eq_substitute List.not_mem_nil found, Value.substitute_list_eq_ok_iff]
  exact ⟨_, rfl, .cons ⟨rfl, hdir⟩ .nil⟩

def directories : List (ParameterKey × Value) :=
  [(.ofName "dirs", .list [(.index 0, .text "/srv/tmp")]), (.ofName "root", .text "/srv"),
    (.ofName "tmp", .text "/srv/tmp")]

theorem resolve_withDirectories :
    withDirectories.resolveAll = .ok directories ∧
      (∀ v, (withDirectories.withValues directories).resolve v = withDirectories.resolve v) ∧
      ∀ d, (withDirectories.withValues directories).resolveDefinition d = withDirectories.resolveDefinition d := by
  have hresolve : withDirectories.resolveAll = .ok directories := by
    have keys : withDirectories.parameters.keys = [.ofName "dirs", .ofName "root", .ofName "tmp"] := by
      decide +kernel
    rw [resolveAll_eq_ok_iff, keys]
    exact .cons ⟨rfl, lookup_dirs⟩ (.cons ⟨rfl, lookup_root List.not_mem_nil⟩
      (.cons ⟨rfl, lookup_tmp List.not_mem_nil List.not_mem_nil⟩ .nil))
  exact ⟨hresolve, (resolve_withValues withDirectories directories hresolve).2.2⟩

end ServiceContainer.Container

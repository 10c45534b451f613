import ServiceContainer.Proofs.Result
import ServiceContainer.Proofs.Value
import ServiceContainer.Resolution

/-!
# Resolution of parameters

Substitution reads the parameters that a value refers to and nothing else, and it succeeds only when each of
them is found. What is found does not depend on the parameters that were already being resolved.
-/

namespace ServiceContainer

variable {find find' : ParameterKey → Except Failure Value}

theorem Segment.interpolate_congr {segment : Segment ParameterKey}
    (agree : ∀ key, segment = .parameter key → find key = find' key) :
    segment.interpolate find = segment.interpolate find' := by
  cases segment with
  | literal s => rfl
  | parameter key => rw [interpolate, interpolate, agree key rfl]

theorem Segment.interpolate_eq_ok_iff {key : ParameterKey} {text : String} :
    (Segment.parameter key).interpolate find = .ok text ↔
      ∃ s, find key = .ok (.scalar s) ∧ s.interpolated = text := by
  rw [interpolate]
  split
  · simp_all
  · simp_all
  · simp_all

namespace Value

theorem substituteItems_eq_mapM (items : List (Key × Value)) :
    substitute.substituteItems find items =
      items.mapM fun entry => (entry.2.substitute find).map (entry.1, ·) := by
  induction items with
  | nil => rfl
  | cons entry items ih =>
      obtain ⟨key, item⟩ := entry
      rw [substitute.substituteItems, List.mapM_cons, ih]
      cases item.substitute find <;> rfl

theorem substitute_list_eq_ok_iff {items : List (Key × Value)} {r : Value} :
    (list items).substitute find = .ok r ↔
      ∃ resolved, r = list resolved ∧
        List.Forall₂ (fun entry r => entry.1 = r.1 ∧ entry.2.substitute find = .ok r.2) items resolved := by
  have hentry : ∀ (entry r : Key × Value), (entry.2.substitute find).map (entry.1, ·) = .ok r ↔
      entry.1 = r.1 ∧ entry.2.substitute find = .ok r.2 := by
    intro entry r
    rw [map_eq_ok_iff]
    constructor
    · rintro ⟨item, hitem, rfl⟩
      exact ⟨rfl, hitem⟩
    · rintro ⟨hkey, hitem⟩
      exact ⟨r.2, hitem, Prod.ext hkey rfl⟩
  rw [substitute, substituteItems_eq_mapM, map_eq_ok_iff]
  simp only [mapM_eq_ok_iff, hentry]
  constructor
  · rintro ⟨resolved, hall, rfl⟩
    exact ⟨resolved, rfl, hall⟩
  · rintro ⟨resolved, rfl, hall⟩
    exact ⟨resolved, hall, rfl⟩

theorem substitute_template_eq_ok_iff {segments : List (Segment ParameterKey)} {r : Value} :
    (template segments).substitute find = .ok r ↔
      ∃ texts, r = text (String.join texts) ∧
        List.Forall₂ (fun segment text => segment.interpolate find = .ok text) segments texts := by
  rw [substitute, map_eq_ok_iff]
  simp only [mapM_eq_ok_iff]
  constructor
  · rintro ⟨texts, hall, rfl⟩
    exact ⟨texts, rfl, hall⟩
  · rintro ⟨texts, rfl, hall⟩
    exact ⟨texts, hall, rfl⟩

theorem substitute_congr {v : Value} (agree : ∀ key ∈ v.parameters, find key = find' key) :
    v.substitute find = v.substitute find' := by
  induction v with
  | scalar s => rfl
  | list items ih =>
      rw [parameters_list] at agree
      rw [substitute, substitute, substituteItems_eq_mapM, substituteItems_eq_mapM]
      refine congrArg _ (mapM_congr fun entry mem => ?_)
      rw [ih entry mem fun key hkey => agree key (List.mem_flatMap.mpr ⟨entry, mem, hkey⟩)]
  | service id => rfl
  | parameter key => exact agree key (List.mem_singleton_self key)
  | template segments =>
      rw [substitute, substitute]
      refine congrArg _ (mapM_congr fun segment mem => ?_)
      refine Segment.interpolate_congr fun key hkey => agree key ?_
      rw [mem_parameters_template, ← hkey]
      exact mem
  | object type => rfl

theorem exists_find_of_substitute {v r : Value} (hsubstitute : v.substitute find = .ok r)
    {key : ParameterKey} (mem : key ∈ v.parameters) : ∃ value, find key = .ok value := by
  induction v generalizing r with
  | scalar s => cases mem
  | list items ih =>
      rw [parameters_list, List.mem_flatMap] at mem
      obtain ⟨entry, hentry, hkey⟩ := mem
      obtain ⟨resolved, -, hall⟩ := substitute_list_eq_ok_iff.mp hsubstitute
      obtain ⟨r', -, -, hitem⟩ := exists_of_forall₂ hall hentry
      exact ih entry hentry hitem hkey
  | service id => cases mem
  | parameter key' =>
      obtain rfl := List.mem_singleton.mp mem
      exact ⟨r, hsubstitute⟩
  | template segments =>
      rw [mem_parameters_template] at mem
      obtain ⟨texts, -, hall⟩ := substitute_template_eq_ok_iff.mp hsubstitute
      obtain ⟨text, -, htext⟩ := exists_of_forall₂ hall mem
      obtain ⟨s, hfind, -⟩ := Segment.interpolate_eq_ok_iff.mp htext
      exact ⟨.scalar s, hfind⟩
  | object type => cases mem

theorem substitute_mono {v r : Value}
    (mono : ∀ {key value}, find key = .ok value → find' key = .ok value)
    (hsubstitute : v.substitute find = .ok r) : v.substitute find' = .ok r := by
  rw [← hsubstitute]
  refine (substitute_congr fun key mem => ?_).symm
  obtain ⟨value, hvalue⟩ := exists_find_of_substitute hsubstitute mem
  rw [hvalue, mono hvalue]

end Value

namespace Container

variable {c : Container}

theorem lookup_eq_substitute {pending : List ParameterKey} {key : ParameterKey} {v : Value}
    (new : key ∉ pending) (found : c.parameters[key]? = some v) :
    c.lookup pending key = v.substitute (c.lookup (pending ++ [key])) := by
  rw [lookup, if_neg new]
  split
  · simp_all
  · simp_all

theorem lookup_of_not_found {pending : List ParameterKey} {key : ParameterKey} (new : key ∉ pending)
    (unset : c.parameters[key]? = none) : c.lookup pending key = .error (.notFound .parameter key.text) := by
  rw [lookup, if_neg new]
  split
  · rfl
  · simp_all

theorem lookup_eq_ok {pending : List ParameterKey} {key : ParameterKey} {r : Value}
    (hlookup : c.lookup pending key = .ok r) :
    key ∉ pending ∧ ∃ v, c.parameters[key]? = some v ∧
      v.substitute (c.lookup (pending ++ [key])) = .ok r := by
  by_cases new : key ∈ pending
  · rw [lookup, if_pos new] at hlookup
    cases hlookup
  · refine ⟨new, ?_⟩
    cases found : c.parameters[key]? with
    | none =>
        rw [lookup, if_neg new] at hlookup
        split at hlookup
        · cases hlookup
        · simp_all
    | some v =>
        rw [lookup_eq_substitute new found] at hlookup
        exact ⟨v, rfl, hlookup⟩

theorem lookup_of_subset {pending pending' : List ParameterKey} {key : ParameterKey} {r : Value}
    (sub : pending' ⊆ pending) (hlookup : c.lookup pending key = .ok r) :
    c.lookup pending' key = .ok r := by
  induction pending, key using lookup.induct c generalizing pending' r with
  | case1 pending key mem => exact absurd mem (lookup_eq_ok hlookup).1
  | case2 pending key new found =>
      obtain ⟨-, v, found', -⟩ := lookup_eq_ok hlookup
      rw [found] at found'
      cases found'
  | case3 pending key new v found ih =>
      have new' : key ∉ pending' := fun mem => new (sub mem)
      have sub' : pending' ++ [key] ⊆ pending ++ [key] :=
        List.append_subset.mpr ⟨List.subset_append_of_subset_left _ sub, List.subset_append_right _ _⟩
      rw [lookup_eq_substitute new found] at hlookup
      rw [lookup_eq_substitute new' found]
      exact Value.substitute_mono (fun hvalue => ih _ sub' hvalue) hlookup

theorem substitute_of_lookup {key : ParameterKey} {v r : Value} (found : c.parameters[key]? = some v)
    (hlookup : c.lookup [] key = .ok r) : v.substitute (c.lookup []) = .ok r := by
  rw [lookup_eq_substitute List.not_mem_nil found] at hlookup
  exact Value.substitute_mono (fun hvalue => lookup_of_subset (List.nil_subset _) hvalue) hlookup

theorem mem_parameters_of_found {key : ParameterKey} {v : Value} (found : c.parameters[key]? = some v) :
    key ∈ c.parameters := by
  rw [Std.ExtTreeMap.mem_iff_isSome_getElem?, found]
  rfl

theorem mem_parameters_of_lookup {pending : List ParameterKey} {key : ParameterKey} {r : Value}
    (hlookup : c.lookup pending key = .ok r) : key ∈ c.parameters := by
  obtain ⟨-, v, found, -⟩ := lookup_eq_ok hlookup
  exact mem_parameters_of_found found

def Reads (c : Container) (other key : ParameterKey) : Prop :=
  ∃ v, c.parameters[key]? = some v ∧ other ∈ v.parameters

theorem acc_reads_of_lookup {pending : List ParameterKey} {key : ParameterKey} {r : Value}
    (hlookup : c.lookup pending key = .ok r) : Acc c.Reads key := by
  induction pending, key using lookup.induct c generalizing r with
  | case1 pending key mem => exact absurd mem (lookup_eq_ok hlookup).1
  | case2 pending key new found =>
      obtain ⟨-, v, found', -⟩ := lookup_eq_ok hlookup
      rw [found] at found'
      cases found'
  | case3 pending key new v found ih =>
      rw [lookup_eq_substitute new found] at hlookup
      refine Acc.intro key ?_
      rintro other ⟨v', found', mem⟩
      cases found.symm.trans found'
      obtain ⟨value, hvalue⟩ := Value.exists_find_of_substitute hlookup mem
      exact ih other hvalue

section ResolveAll

variable {resolved : List (ParameterKey × Value)}

theorem resolveAll_eq_ok_iff :
    c.resolveAll = .ok resolved ↔
      List.Forall₂ (fun key entry => entry.1 = key ∧ c.lookup [] key = .ok entry.2)
        c.parameters.keys resolved := by
  have hentry : ∀ (key : ParameterKey) (entry : ParameterKey × Value),
      (do return (key, ← c.lookup [] key) : Except Failure (ParameterKey × Value)) = .ok entry ↔
        entry.1 = key ∧ c.lookup [] key = .ok entry.2 := by
    intro key entry
    rw [bind_eq_ok_iff]
    constructor
    · rintro ⟨value, hvalue, heq⟩
      cases heq
      exact ⟨rfl, hvalue⟩
    · rintro ⟨rfl, hvalue⟩
      exact ⟨entry.2, hvalue, rfl⟩
  rw [resolveAll, mapM_eq_ok_iff]
  simp only [hentry]

theorem exists_lookup_of_resolveAll (hresolve : c.resolveAll = .ok resolved) {key : ParameterKey}
    (mem : key ∈ c.parameters) : ∃ r, (key, r) ∈ resolved ∧ c.lookup [] key = .ok r := by
  obtain ⟨⟨key', r⟩, hmem, rfl, hlookup⟩ :=
    exists_of_forall₂ (resolveAll_eq_ok_iff.mp hresolve) (Std.ExtTreeMap.mem_keys.mpr mem)
  exact ⟨r, hmem, hlookup⟩

theorem lookup_of_mem_resolveAll (hresolve : c.resolveAll = .ok resolved) {key : ParameterKey}
    {r : Value} (mem : (key, r) ∈ resolved) : c.lookup [] key = .ok r := by
  obtain ⟨key', -, rfl, hlookup⟩ := exists_of_forall₂ (resolveAll_eq_ok_iff.mp hresolve).flip mem
  exact hlookup

/-- When all parameters resolve, following their references comes to an end. -/
theorem wellFounded_reads (hresolve : c.resolveAll = .ok resolved) : WellFounded c.Reads := by
  refine ⟨fun key => ?_⟩
  by_cases mem : key ∈ c.parameters
  · obtain ⟨r, -, hlookup⟩ := exists_lookup_of_resolveAll hresolve mem
    exact acc_reads_of_lookup hlookup
  · refine Acc.intro key ?_
    rintro other ⟨v, found, -⟩
    exact absurd (mem_parameters_of_found found) mem

end ResolveAll

end Container

end ServiceContainer

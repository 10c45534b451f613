import Mathlib.Data.List.Nodup
import ServiceContainer.Value

/-!
# Array literals

An array has each key once. Of several entries with one key the last one counts, at the place of the first, and
a string key that is written like an integer is that integer.
-/

namespace ServiceContainer.Php

variable {α : Type}

def arrayKey : Key → Key
  | .index n => .index n
  | .name s => .ofName s

/-- The entries of the array that a literal with the given entries evaluates to. -/
def arrayOf : List (Key × α) → List (Key × α)
  | [] => []
  | (k, a) :: entries =>
    let array := arrayOf entries
    (arrayKey k, (array.lookup (arrayKey k)).getD a) :: array.filter (·.1 ≠ arrayKey k)

/-- Keys with which an array literal has just the entries that are written. -/
structure KeysKept (keys : List Key) : Prop where
  nodup : keys.Nodup
  arrayKey_eq : ∀ k ∈ keys, arrayKey k = k

theorem arrayKey_arrayKey (k : Key) : arrayKey (arrayKey k) = arrayKey k := by
  cases k with
  | index n => rfl
  | name s =>
      cases hs : Key.ofName s with
      | index n => rw [arrayKey, hs, arrayKey]
      | name t =>
          have hst : t = s := by
            unfold Key.ofName at hs
            split at hs
            · split at hs
              · cases hs
              · exact (Key.name.inj hs).symm
            · exact (Key.name.inj hs).symm
          rw [arrayKey, hs, arrayKey, hst, hs, hst]

theorem keysKept_arrayOf (entries : List (Key × α)) : KeysKept ((arrayOf entries).map (·.1)) := by
  induction entries with
  | nil => exact ⟨List.nodup_nil, nofun⟩
  | cons entry entries ih =>
      obtain ⟨k, a⟩ := entry
      have sub : (((arrayOf entries).filter (·.1 ≠ arrayKey k)).map (·.1)).Sublist
          ((arrayOf entries).map (·.1)) := List.filter_sublist.map _
      refine ⟨List.nodup_cons.mpr ⟨?_, ih.nodup.sublist sub⟩, List.forall_mem_cons.mpr ⟨?_, ?_⟩⟩
      · simp
      · exact arrayKey_arrayKey k
      · exact fun k' mem => ih.arrayKey_eq k' (sub.subset mem)

theorem arrayOf_of_keysKept {entries : List (Key × α)} (kept : KeysKept (entries.map (·.1))) :
    arrayOf entries = entries := by
  induction entries with
  | nil => rfl
  | cons entry entries ih =>
      obtain ⟨k, a⟩ := entry
      obtain ⟨hnew, hnodup⟩ := List.nodup_cons.mp kept.nodup
      obtain ⟨hk, hkeys⟩ := List.forall_mem_cons.mp kept.arrayKey_eq
      have away : ∀ entry ∈ entries, entry.1 ≠ k := by
        rintro entry mem rfl
        exact hnew (List.mem_map.mpr ⟨entry, mem, rfl⟩)
      have hlookup : entries.lookup k = none := by
        rw [List.lookup_eq_none_iff]
        intro entry mem
        simpa using Ne.symm (away entry mem)
      have hfilter : entries.filter (·.1 ≠ k) = entries := by
        rw [List.filter_eq_self]
        intro entry mem
        simpa using away entry mem
      simp only at hk
      rw [arrayOf, ih ⟨hnodup, hkeys⟩, hk, hlookup, hfilter, Option.getD_none]

end ServiceContainer.Php

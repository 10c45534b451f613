import ServiceContainer.Expression

/-!
# The structure of documents

Trees are built from others only as maps, in which one key may stand more than once.
-/

namespace ServiceContainer

namespace Tree

@[elab_as_elim, induction_eliminator]
theorem induction {P : Tree → Prop} (scalar : ∀ s, P (.scalar s))
    (map : ∀ entries, (∀ entry ∈ entries, P entry.2) → P (.map entries)) (object : ∀ tag, P (.object tag))
    (tree : Tree) : P tree := by
  refine @Tree.rec P (fun entries => ∀ entry ∈ entries, P entry.2) (fun entry => P entry.2)
    scalar map object ?_ ?_ ?_ tree
  · exact nofun
  · exact fun entry entries hentry hentries => List.forall_mem_cons.mpr ⟨hentry, hentries⟩
  · exact fun key tree htree => htree

/-- The first entry of a map under a name. -/
def First (entries : List (Key × Tree)) (name : String) (tree : Tree) : Prop :=
  ∃ front back, entries = front ++ (.name name, tree) :: back ∧ ∀ entry ∈ front, entry.1 ≠ .name name

/-- The last entry of a map under a name. -/
def Last (entries : List (Key × Tree)) (name : String) (tree : Tree) : Prop :=
  ∃ front back, entries = front ++ (.name name, tree) :: back ∧ ∀ entry ∈ back, entry.1 ≠ .name name

theorem find?_map_eq_some_iff {entries : List (Key × Tree)} {name : String} {tree : Tree} :
    (Tree.map entries).find? name = some tree ↔ First entries name tree := by
  rw [find?, List.lookup_eq_some_iff, First]
  simp only [bne_iff_ne, ne_comm]

theorem exists_last_or (entries : List (Key × Tree)) (name : String) :
    (∃ tree, Last entries name tree) ∨ ∀ entry ∈ entries, entry.1 ≠ .name name := by
  induction entries with
  | nil => exact .inr nofun
  | cons entry entries ih =>
      obtain ⟨key, tree⟩ := entry
      rcases ih with ⟨last, front, back, rfl, hback⟩ | hnone
      · exact .inl ⟨last, (key, tree) :: front, back, rfl, hback⟩
      · by_cases hkey : key = .name name
        · subst hkey
          exact .inl ⟨tree, [], entries, rfl, hnone⟩
        · exact .inr (List.forall_mem_cons.mpr ⟨hkey, hnone⟩)

end Tree

theorem Value.ofTree_map (entries : List (Key × Tree)) :
    ofTree (.map entries) = .list (entries.map fun entry => (entry.1, ofTree entry.2)) := by
  rw [ofTree]
  congr 1
  induction entries with
  | nil => rfl
  | cons entry entries ih => rw [ofTree.ofEntries, ih, List.map_cons]

end ServiceContainer

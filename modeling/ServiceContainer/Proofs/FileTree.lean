import ServiceContainer.FileTree
import ServiceContainer.Proofs.Result

/-!
# What writing a file changes

Writing puts a file where there was none, or replaces one. Nothing else in the tree changes, and whatever a path
led to before, it leads there still; so what was written is what reading the same path gives.
-/

namespace ServiceContainer.FileTree

variable {tree left : FileTree} {place other : Place} {node : FileNode} {path : Path} {text : String}

/-- All that there is in a tree is there in the other one, and directories are directories there. -/
structure Within (tree left : FileTree) : Prop where
  directory : ∀ {place}, tree.node? place = some .directory → left.node? place = some .directory
  isSome : ∀ {place}, (tree.node? place).isSome → (left.node? place).isSome

theorem requireDirectory_eq_ok_iff : tree.requireDirectory place = .ok () ↔ tree.node? place = some .directory := by
  rw [requireDirectory]
  split <;> simp_all

theorem Within.enter (within : Within tree left) {step : String} {next : Place}
    (hok : tree.enter place step = .ok next) : left.enter place step = .ok next := by
  obtain ⟨_, hdirectory, hnext⟩ := bind_eq_ok_iff.mp hok
  have hdirectory' := requireDirectory_eq_ok_iff.mpr (within.directory (requireDirectory_eq_ok_iff.mp hdirectory))
  refine bind_eq_ok_iff.mpr ⟨(), hdirectory', ?_⟩
  split at hnext
  · rwa [if_pos ‹_›]
  rw [if_neg ‹_›]
  split at hnext
  · rwa [if_pos ‹_›]
  rw [if_neg ‹_›]
  split at hnext
  · rwa [if_pos (within.isSome ‹_›)]
  · cases hnext

end ServiceContainer.FileTree

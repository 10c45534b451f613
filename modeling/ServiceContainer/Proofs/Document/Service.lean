import ServiceContainer.Document.Service
import ServiceContainer.Proofs.Result

/-!
# The fields of a service

A definition is read field by field, and each field by itself.
-/

namespace ServiceContainer.Definition

variable {id : ServiceId} {tree : Tree}

section Field

variable {α : Type} {field : String} {default a : α} {read : Tree → Except Failure α}

theorem readField_of_none (hfind : tree.find? field = none) : readField tree field default read = .ok default := by
  rw [readField, hfind, Option.elim_none]

theorem readField_of_some {value : Tree} (hfind : tree.find? field = some value) :
    readField tree field default read = read value := by
  rw [readField, hfind, Option.elim_some]

theorem of_readField_eq_ok (hread : readField tree field default read = .ok a) :
    a = default ∨ ∃ value, tree.find? field = some value ∧ read value = .ok a := by
  cases hfind : tree.find? field with
  | none =>
      rw [readField_of_none hfind] at hread
      exact .inl (Except.ok.inj hread).symm
  | some value =>
      rw [readField_of_some hfind] at hread
      exact .inr ⟨value, rfl, hread⟩

theorem exists_readField_eq_ok_iff :
    (∃ a, readField tree field default read = .ok a) ↔
      ∀ value, tree.find? field = some value → ∃ a, read value = .ok a := by
  cases hfind : tree.find? field with
  | none => exact iff_of_true ⟨default, readField_of_none hfind⟩ nofun
  | some value =>
      rw [readField_of_some hfind]
      constructor
      · rintro hread _ ⟨⟩
        exact hread
      · intro hread
        exact hread value rfl

end Field

/-- The one field that must be given. -/
def readClass (id : ServiceId) (tree : Tree) : Except Failure Value :=
  match tree.find? "class" with
  | none | some (.scalar .null) => .error (.missingClass id)
  | some className => .ok (.ofTree className)

theorem readClass_of_find? {className : Tree} (hfind : tree.find? "class" = some className)
    (hne : className ≠ .scalar .null) : readClass id tree = .ok (.ofTree className) := by
  unfold readClass
  rw [hfind]
  split
  · contradiction
  · rename_i heq
    exact absurd (Option.some.inj heq) hne
  · rename_i other _ heq
    rw [Option.some.inj heq]

theorem readClass_of_forall_null
    (hnull : ∀ className, tree.find? "class" = some className → className = .scalar .null) :
    readClass id tree = .error (.missingClass id) := by
  unfold readClass
  cases hfind : tree.find? "class" with
  | none => rfl
  | some className => rw [hnull className hfind]

theorem ofTree_eq_bind :
    ofTree id tree = readClass id tree >>= fun className => do
      let shared ← readField tree "shared" true (readShared id)
      let factory ← readField tree "constructor" none fun t => (readText id "constructor" t).map some
      let file := (tree.find? "file").map Value.ofTree
      let arguments ← readField tree "arguments" [] (readArguments id "arguments")
      let configurator ← readField tree "configurator" none fun t => (readConfigurator id t).map some
      let calls ← readField tree "calls" [] (readCalls id)
      return { className, shared, factory, file, arguments, configurator, calls } := by
  unfold ofTree readClass
  cases tree.find? "class" with
  | none => rfl
  | some className =>
      cases className with
      | scalar s => cases s <;> rfl
      | map entries => rfl
      | object tag => rfl

theorem ofTree_eq_ok_iff {d : Definition} :
    ofTree id tree = .ok d ↔
      readClass id tree = .ok d.className ∧
      readField tree "shared" true (readShared id) = .ok d.shared ∧
      readField tree "constructor" none (fun t => (readText id "constructor" t).map some) = .ok d.factory ∧
      (tree.find? "file").map Value.ofTree = d.file ∧
      readField tree "arguments" [] (readArguments id "arguments") = .ok d.arguments ∧
      readField tree "configurator" none (fun t => (readConfigurator id t).map some) = .ok d.configurator ∧
      readField tree "calls" [] (readCalls id) = .ok d.calls := by
  rw [ofTree_eq_bind]
  simp only [bind_eq_ok_iff]
  constructor
  · rintro ⟨className, hclass, shared, hshared, factory, hfactory, arguments, harguments, configurator,
      hconfigurator, calls, hcalls, heq⟩
    cases heq
    exact ⟨hclass, hshared, hfactory, rfl, harguments, hconfigurator, hcalls⟩
  · rintro ⟨hclass, hshared, hfactory, hfile, harguments, hconfigurator, hcalls⟩
    refine ⟨_, hclass, _, hshared, _, hfactory, _, harguments, _, hconfigurator, _, hcalls, ?_⟩
    rw [hfile]
    rfl

end ServiceContainer.Definition

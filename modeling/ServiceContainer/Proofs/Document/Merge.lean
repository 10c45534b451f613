import ServiceContainer.Compilation
import ServiceContainer.Proofs.Result

/-!
# Documents one after the other

What a document adds does not depend on what the container holds already, and writing into a container is
writing into an empty one that is merged with it afterwards. So reading documents one after the other is
reading each into a container of its own and merging these in the same order.
-/

namespace ServiceContainer.Container

variable (c d : Container) {mode : Mode}

/-! ### Merging and writing -/

theorem merge_empty : c.merge empty = c := by
  have union_empty : ∀ {κ ν : Type} {cmp : κ → κ → Ordering} [Std.TransCmp cmp] [Std.LawfulEqCmp cmp]
      (entries : Std.ExtTreeMap κ ν cmp), entries ∪ ∅ = entries := by
    intro κ ν cmp _ _ entries
    refine Std.ExtTreeMap.ext_getElem? fun k => ?_
    rw [Std.ExtTreeMap.getElem?_union, Std.ExtTreeMap.getElem?_empty, Option.none_or]
  rw [merge, empty, union_empty, union_empty]

theorem merge_setEntry (id : ServiceId) (entry : Entry) :
    c.merge (d.setEntry id entry) = (c.merge d).setEntry id entry := by
  unfold merge setEntry
  rw [Std.ExtTreeMap.union_insert_right_eq_insert_union (p := ⟨id, entry⟩)]

theorem merge_setParameter (name : String) (v : Value) :
    c.merge (d.setParameter name v) = (c.merge d).setParameter name v := by
  unfold merge setParameter
  rw [Std.ExtTreeMap.union_insert_right_eq_insert_union (p := ⟨ParameterKey.ofName name, v⟩)]

/-! ### Merging and reading -/

theorem merge_foldl_addParameter (parameters : List (Key × Tree)) :
    parameters.foldl addParameter (c.merge d) = c.merge (parameters.foldl addParameter d) := by
  refine List.foldl_hom c.merge ?_
  rintro d ⟨key, tree⟩
  exact (merge_setParameter c d key.text (.ofTree tree)).symm

theorem addService_merge (service : Key × Tree) :
    (c.merge d).addService service = (d.addService service).map c.merge := by
  obtain ⟨key, tree⟩ := service
  simp only [addService]
  by_cases hid : key.text = ""
  · rw [if_pos hid, if_pos hid]
    rfl
  · rw [if_neg hid, if_neg hid]
    cases Entry.ofTree key.text tree with
    | error failure => rfl
    | ok entry => exact congrArg Except.ok (merge_setEntry c d key.text entry).symm

theorem addDocument_merge (tree : Tree) :
    (c.merge d).addDocument mode tree = (d.addDocument mode tree).map c.merge := by
  unfold addDocument
  cases Document.ofTree mode tree with
  | error failure => rfl
  | ok doc =>
      calc (doc.services.getD []).foldlM addService ((doc.parameters.getD []).foldl addParameter (c.merge d))
        _ = (doc.services.getD []).foldlM addService (c.merge ((doc.parameters.getD []).foldl addParameter d)) := by
            rw [merge_foldl_addParameter]
        _ = ((doc.services.getD []).foldlM addService ((doc.parameters.getD []).foldl addParameter d)).map c.merge :=
            foldlM_map_comm (addService_merge c)

theorem addDocument_eq_map_merge (tree : Tree) :
    c.addDocument mode tree = (empty.addDocument mode tree).map c.merge := by
  have hmerge : (c.merge empty).addDocument mode tree = _ := addDocument_merge c empty tree
  rwa [merge_empty] at hmerge

theorem foldlM_addDocument (trees : List Tree) :
    trees.foldlM (addDocument mode) c = (trees.mapM (empty.addDocument mode)).map (List.foldl merge c) := by
  induction trees generalizing c with
  | nil => rfl
  | cons tree trees ih =>
      rw [List.foldlM_cons, List.mapM_cons, addDocument_eq_map_merge]
      cases empty.addDocument mode tree with
      | error failure => rfl
      | ok part =>
          calc trees.foldlM (addDocument mode) (c.merge part)
            _ = (trees.mapM (empty.addDocument mode)).map (List.foldl merge (c.merge part)) := ih (c.merge part)
            _ = ((trees.mapM (empty.addDocument mode)).map (part :: ·)).map (List.foldl merge c) := by
                cases trees.mapM (empty.addDocument mode) <;> rfl

/-- Reading documents into one container fails as the first of them does that cannot be read by itself, and
otherwise gives the containers of the single documents merged in order; a document read into a container is
the document by itself merged into it. -/
theorem ofDocuments_merge (mode : Mode) (trees : List Tree) :
    (∀ failure, ofDocuments mode trees = .error failure ↔
      ∃ front tree back, trees = front ++ tree :: back ∧
        (∀ other ∈ front, ∃ part, empty.addDocument mode other = .ok part) ∧
        empty.addDocument mode tree = .error failure) ∧
    (∀ c, ofDocuments mode trees = .ok c ↔
      ∃ parts, List.Forall₂ (fun tree part => empty.addDocument mode tree = .ok part) trees parts ∧
        parts.foldl merge empty = c) ∧
    ∀ c tree, addDocument mode c tree = (empty.addDocument mode tree).map c.merge := by
  have hread : ofDocuments mode trees =
      (trees.mapM (empty.addDocument mode)).map (List.foldl merge empty) := foldlM_addDocument empty trees
  rw [hread]
  refine ⟨fun failure => ?_, fun c => ?_, fun c tree => addDocument_eq_map_merge c tree⟩
  · rw [map_eq_error_iff, mapM_eq_error_iff]
  · rw [map_eq_ok_iff]
    simp only [mapM_eq_ok_iff]

end ServiceContainer.Container

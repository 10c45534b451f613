import ServiceContainer.Proofs.Container
import ServiceContainer.Proofs.Document.Acceptance
import ServiceContainer.Proofs.Key

/-!
# What a document registers

Each service of a document stands in the container under the text of its key, and each parameter under the name
that the text of its key is. An entry is overridden only by a later one of the same section that has the same text
for a key, or, among parameters, a text that is the same name.
-/

namespace ServiceContainer

namespace Document

variable {mode : Mode} {doc doc' : Document} {sections : List (Key × Tree)}

/-- A section that was read is one of the document, or there was nothing to read. -/
def ReadFrom (sections : List (Key × Tree)) (doc : Document) : Prop :=
  (doc.services.getD [] = [] ∨ (.name "services", .map (doc.services.getD [])) ∈ sections) ∧
    (doc.parameters.getD [] = [] ∨ (.name "parameters", .map (doc.parameters.getD [])) ∈ sections)

theorem sectionEntries_eq_ok {name : String} {tree : Tree} {entries : List (Key × Tree)}
    (hread : sectionEntries name tree = .ok entries) : entries = [] ∨ tree = .map entries := by
  unfold sectionEntries at hread
  split at hread
  · exact .inr (congrArg Tree.map (Except.ok.inj hread))
  · exact .inl (Except.ok.inj hread).symm
  · cases hread

theorem ReadFrom.addSection (before : ReadFrom sections doc) {entry : Key × Tree} (mem : entry ∈ sections)
    (hadd : addSection mode doc entry = .ok doc') : ReadFrom sections doc' := by
  obtain ⟨services, parameters⟩ := before
  unfold Document.addSection at hadd
  split at hadd
  · split at hadd
    · cases hadd
    · obtain ⟨entries, hentries, rfl⟩ := map_eq_ok_iff.mp hadd
      refine ⟨services, (sectionEntries_eq_ok hentries).imp_right ?_⟩
      rintro rfl
      exact mem
  · obtain ⟨entries, hentries, rfl⟩ := map_eq_ok_iff.mp hadd
    refine ⟨(sectionEntries_eq_ok hentries).imp_right ?_, parameters⟩
    rintro rfl
    exact mem
  · cases hadd

theorem readFrom_of_ofTree (hread : ofTree mode (.map sections) = .ok doc) : ReadFrom sections doc :=
  of_foldlM_eq_ok (P := ReadFrom sections) hread ⟨.inl rfl, .inl rfl⟩
    fun _ _ mem _ before hadd => before.addSection mem hadd

end Document

namespace Container

variable {mode : Mode} {c c' : Container} {key : Key} {tree : Tree} {id : ServiceId}
  {services parameters front back : List (Key × Tree)}

/-! ### Services -/

theorem addService_eq_ok_iff :
    c.addService (key, tree) = .ok c' ↔
      key.text ≠ "" ∧ ∃ entry, Entry.ofTree key.text tree = .ok entry ∧ c.setEntry key.text entry = c' := by
  rw [addService]
  split
  · rename_i hempty
    exact iff_of_false (fun added => by cases added) fun registered => registered.1 hempty
  · rename_i nonempty
    rw [map_eq_ok_iff]
    exact (and_iff_right nonempty).symm

theorem parameters_addServices (hfold : services.foldlM addService c = .ok c') : c'.parameters = c.parameters := by
  refine of_foldlM_eq_ok (P := fun later => later.parameters = c.parameters) hfold rfl ?_
  rintro before ⟨key, tree⟩ - after kept hadd
  obtain ⟨-, entry, -, rfl⟩ := addService_eq_ok_iff.mp hadd
  exact kept

/-- An id that is the text of no key keeps what it holds. -/
theorem getElem?_addServices_of_forall_ne (hfold : services.foldlM addService c = .ok c')
    (hne : ∀ service ∈ services, service.1.text ≠ id) : c'.entries[id]? = c.entries[id]? := by
  refine of_foldlM_eq_ok (P := fun later => later.entries[id]? = c.entries[id]?) hfold rfl ?_
  rintro before ⟨key, tree⟩ mem after kept hadd
  obtain ⟨-, entry, -, rfl⟩ := addService_eq_ok_iff.mp hadd
  rw [getElem?_setEntry, if_neg (hne (key, tree) mem)]
  exact kept

/-- The last service under a text is what the container holds there. -/
theorem exists_entry_of_addServices (hfold : (front ++ (key, tree) :: back).foldlM addService c = .ok c')
    (hback : ∀ service ∈ back, service.1.text ≠ key.text) :
    ∃ entry, Entry.ofTree key.text tree = .ok entry ∧ c'.entries[key.text]? = some entry := by
  rw [List.foldlM_append, bind_eq_ok_iff] at hfold
  obtain ⟨before, -, hfold⟩ := hfold
  rw [List.foldlM_cons, bind_eq_ok_iff] at hfold
  obtain ⟨added, hadd, hfold⟩ := hfold
  obtain ⟨-, entry, hentry, rfl⟩ := addService_eq_ok_iff.mp hadd
  refine ⟨entry, hentry, ?_⟩
  rw [getElem?_addServices_of_forall_ne hfold hback, getElem?_setEntry, if_pos rfl]

theorem mem_entries_addServices (hfold : services.foldlM addService c = .ok c') :
    id ∈ c'.entries ↔ id ∈ c.entries ∨ id ∈ services.map fun service => service.1.text := by
  induction services generalizing c with
  | nil =>
      cases hfold
      simp
  | cons service services ih =>
      obtain ⟨key, tree⟩ := service
      rw [List.foldlM_cons, bind_eq_ok_iff] at hfold
      obtain ⟨added, hadd, hfold⟩ := hfold
      obtain ⟨-, entry, -, rfl⟩ := addService_eq_ok_iff.mp hadd
      rw [ih hfold, setEntry, Std.ExtTreeMap.mem_insert, Std.compare_eq_iff_eq, List.map_cons, List.mem_cons,
        eq_comm (a := id), or_assoc, or_left_comm]

/-! ### Parameters -/

theorem entries_addParameters (parameters : List (Key × Tree)) (c : Container) :
    (parameters.foldl addParameter c).entries = c.entries := by
  induction parameters generalizing c with
  | nil => rfl
  | cons parameter parameters ih => exact ih _

theorem getElem?_addParameters_of_forall_ne {name : ParameterKey}
    (hne : ∀ parameter ∈ parameters, ParameterKey.ofName parameter.1.text ≠ name) :
    (parameters.foldl addParameter c).parameters[name]? = c.parameters[name]? := by
  induction parameters generalizing c with
  | nil => rfl
  | cons parameter parameters ih =>
      obtain ⟨hfirst, hrest⟩ := List.forall_mem_cons.mp hne
      rw [List.foldl_cons, ih hrest]
      exact (getElem?_setParameter _ _ _).trans (if_neg hfirst)

/-- The last parameter with a name is what the container holds under it. -/
theorem getElem?_addParameters
    (hback : ∀ parameter ∈ back, ParameterKey.ofName parameter.1.text ≠ .ofName key.text) :
    ((front ++ (key, tree) :: back).foldl addParameter c).parameters[ParameterKey.ofName key.text]? =
      some (.ofTree tree) := by
  rw [List.foldl_append, List.foldl_cons, getElem?_addParameters_of_forall_ne hback]
  exact (getElem?_setParameter _ _ _).trans (if_pos rfl)

/-! ### Documents -/

theorem addDocument_eq_ok_iff :
    c.addDocument mode tree = .ok c' ↔ ∃ doc, Document.ofTree mode tree = .ok doc ∧
      (doc.services.getD []).foldlM addService ((doc.parameters.getD []).foldl addParameter c) = .ok c' :=
  bind_eq_ok_iff

theorem mem_entries_addDocument {sections : List (Key × Tree)} (hadd : c.addDocument mode (.map sections) = .ok c')
    (last : Tree.Last sections "services" (.map services)) :
    id ∈ c'.entries ↔ id ∈ c.entries ∨ id ∈ services.map fun service => service.1.text := by
  obtain ⟨doc, hread, hfold⟩ := addDocument_eq_ok_iff.mp hadd
  have hservices : doc.services.getD [] = services := (Except.ok.inj (Document.services_of_last hread last)).symm
  rw [mem_entries_addServices hfold, entries_addParameters, hservices]

end Container

/-- A key that is read from a text prints as that text, so different texts are different keys and services get the
texts of their keys for ids. It is an index exactly when the text is the one way to write an integer of 64 bits, and
then that integer. -/
theorem Key.ofName_faithful :
    (∀ n, (ofName n).text = n) ∧ Function.Injective ofName ∧
    (∀ (mode : Mode) (c c' : Container) (sections : List (Key × Tree)) (services : List (String × Tree)),
      Tree.Last sections "services" (.map (services.map fun (n, tree) => (ofName n, tree))) →
      c.addDocument mode (.map sections) = .ok c' →
      ∀ id, id ∈ c'.entries ↔ id ∈ c.entries ∨ id ∈ services.map Prod.fst) ∧
    (∀ n, (∃ i, ofName n = .index i) ↔ ∃ k, SpellsInt n k ∧ -2 ^ 63 ≤ k ∧ k ≤ 2 ^ 63 - 1) ∧
    ∀ n i, ofName n = .index i ↔ SpellsInt n i.toInt := by
  refine ⟨text_ofName, ofName_injective, ?registered, ?index, fun n i => ofName_eq_index_iff⟩
  case registered =>
      intro mode c c' sections services last hadd id
      rw [Container.mem_entries_addDocument hadd last, List.map_map]
      have htexts : (services.map fun service => (ofName service.1).text) = services.map Prod.fst :=
        List.map_congr_left fun service _ => text_ofName service.1
      exact or_congr_right (iff_of_eq (congrArg (id ∈ ·) htexts))
  case index =>
      intro n
      constructor
      · rintro ⟨i, hindex⟩
        exact ⟨i.toInt, ofName_eq_index_iff.mp hindex, i.minValue_le_toInt, i.toInt_le⟩
      · rintro ⟨k, spells, hlow, hhigh⟩
        refine ⟨Int64.ofInt k, ofName_eq_index_iff.mpr ?_⟩
        rwa [Int64.toInt_ofInt_of_le hlow (by omega)]

end ServiceContainer

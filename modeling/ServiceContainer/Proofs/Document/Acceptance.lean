import ServiceContainer.Proofs.Document.Grammar

/-!
# Reading accepts the grammar

A container is read from a tree exactly when the tree is a document.
-/

namespace ServiceContainer

open ServiceContainer.Tree (First Last IsSection IsNamedEntry)

/-! ### Services -/

theorem isField_iff {key : Key} : Tree.IsField key ↔ key.name?.any (· ∈ serviceKeys) = true := by
  cases key with
  | index n => simp [Tree.IsField, Key.name?]
  | name name => simp [Tree.IsField, Key.name?, serviceKeys]

theorem checkServiceKeys_eq_ok_iff {id : ServiceId} {fields : List (Key × Tree)} :
    checkServiceKeys id fields = .ok () ↔ ∀ field ∈ fields, Tree.IsField field.1 := by
  unfold checkServiceKeys
  rw [forM_eq_ok_iff]
  refine forall₂_congr ?_
  rintro ⟨key, tree⟩ -
  dsimp only
  rw [isField_iff]
  split <;> simp [*]

theorem failsByDefect_checkServiceKeys (id : ServiceId) (fields : List (Key × Tree)) :
    FailsByDefect (checkServiceKeys id fields) := by
  refine .forM (fun (key, _) => ?_) fields
  dsimp only
  split
  · exact .ok _
  · exact .invalid _

namespace Definition

variable {id : ServiceId} {fields : List (Key × Tree)}

theorem exists_readClass_map_iff :
    (∃ className, readClass id (.map fields) = .ok className) ↔
      ∃ tree, First fields "class" tree ∧ tree ≠ .scalar .null := by
  simp only [← Tree.find?_map_eq_some_iff]
  constructor
  · rintro ⟨className, hread⟩
    by_contra hnone
    have hnull : ∀ tree, (Tree.map fields).find? "class" = some tree → tree = .scalar .null := by
      intro tree hfind
      by_contra hne
      exact hnone ⟨tree, hfind, hne⟩
    rw [readClass_of_forall_null hnull] at hread
    cases hread
  · rintro ⟨tree, hfind, hne⟩
    exact ⟨_, readClass_of_find? hfind hne⟩

theorem readClass_map_eq_error_iff {failure : Failure} :
    readClass id (.map fields) = .error failure ↔
      failure = .missingClass id ∧ ∀ tree, First fields "class" tree → tree = .scalar .null := by
  simp only [← Tree.find?_map_eq_some_iff]
  constructor
  · intro hread
    have hnull : ∀ tree, (Tree.map fields).find? "class" = some tree → tree = .scalar .null := by
      intro tree hfind
      by_contra hne
      rw [readClass_of_find? hfind hne] at hread
      cases hread
    rw [readClass_of_forall_null hnull] at hread
    exact ⟨(Except.error.inj hread).symm, hnull⟩
  · rintro ⟨rfl, hnull⟩
    exact readClass_of_forall_null hnull

theorem exists_readField_map_iff {α : Type} {field : String} {default : α} {read : Tree → Except Failure α}
    {p : Tree → Prop} (hread : ∀ value, (∃ a, read value = .ok a) ↔ p value) :
    (∃ a, readField (.map fields) field default read = .ok a) ↔ ∀ value, First fields field value → p value := by
  simp only [exists_readField_eq_ok_iff, Tree.find?_map_eq_some_iff, hread]

theorem exists_ofTree_map_iff (known : ∀ field ∈ fields, Tree.IsField field.1) :
    (∃ d, ofTree id (.map fields) = .ok d) ↔ Tree.IsService fields := by
  have hread : (∃ d, ofTree id (.map fields) = .ok d) ↔
      (∃ className, readClass id (.map fields) = .ok className) ∧
        (∃ shared, readField (.map fields) "shared" true (readShared id) = .ok shared) ∧
        (∃ factory, readField (.map fields) "constructor" none
          (fun t => (readText id "constructor" t).map some) = .ok factory) ∧
        (∃ arguments, readField (.map fields) "arguments" [] (readArguments id "arguments") = .ok arguments) ∧
        (∃ configurator, readField (.map fields) "configurator" none
          (fun t => (readConfigurator id t).map some) = .ok configurator) ∧
        ∃ calls, readField (.map fields) "calls" [] (readCalls id) = .ok calls := by
    rw [ofTree_eq_bind]
    exact exists_bind_eq_ok_iff_and fun _ _ => exists_bind_eq_ok_iff_and fun _ _ =>
      exists_bind_eq_ok_iff_and fun _ _ => exists_bind_eq_ok_iff_and fun _ _ =>
        exists_bind_eq_ok_iff_and fun _ _ => exists_bind_pure_eq_ok_iff
  rw [hread, exists_readClass_map_iff,
    exists_readField_map_iff fun _ => exists_readShared_iff,
    exists_readField_map_iff fun _ => exists_map_eq_ok_iff.trans (exists_congr fun _ => readText_eq_ok_iff),
    exists_readField_map_iff fun _ => exists_readArguments_iff,
    exists_readField_map_iff fun _ => exists_map_eq_ok_iff.trans exists_readConfigurator_iff,
    exists_readField_map_iff fun _ => exists_readCalls_iff]
  constructor
  · rintro ⟨className, shared, factory, arguments, configurator, calls⟩
    exact { known, className, shared, factory, arguments, configurator, calls }
  · rintro ⟨-, className, shared, factory, arguments, configurator, calls⟩
    exact ⟨className, shared, factory, arguments, configurator, calls⟩

theorem ofTree_map_of_forall_null (hnull : ∀ tree, First fields "class" tree → tree = .scalar .null) :
    ofTree id (.map fields) = .error (.missingClass id) := by
  rw [ofTree_eq_bind, bind_eq_error_iff]
  exact .inl (readClass_map_eq_error_iff.mpr ⟨rfl, hnull⟩)

/-- What a definition fails by, if not by a defect, is its class. -/
theorem of_ofTree_map_eq_error {failure : Failure} (failed : ofTree id (.map fields) = .error failure) :
    (failure = .missingClass id ∧ ∀ tree, First fields "class" tree → tree = .scalar .null) ∨
      ∃ defect, failure = .invalid defect := by
  rw [ofTree_eq_bind, bind_eq_error_iff] at failed
  rcases failed with failed | ⟨className, -, failed⟩
  · exact .inl (readClass_map_eq_error_iff.mp failed)
  · refine .inr (FailsByDefect.bind ?_ (fun shared => ?_) failure failed)
    · exact failsByDefect_readField (failsByDefect_readShared id)
    refine .bind ?_ fun factory => ?_
    · exact failsByDefect_readField fun t => (failsByDefect_readText id "constructor" t).map some
    refine .bind ?_ fun arguments => ?_
    · exact failsByDefect_readField (failsByDefect_readArguments id "arguments")
    refine .bind ?_ fun configurator => ?_
    · exact failsByDefect_readField fun t => (failsByDefect_readConfigurator id t).map some
    refine .bind ?_ fun calls => .ok _
    exact failsByDefect_readField (failsByDefect_readCalls id)

end Definition

namespace Entry

variable {id : ServiceId} {tree : Tree}

theorem exists_ofTree_iff : (∃ entry, ofTree id tree = .ok entry) ↔ tree.IsEntry := by
  unfold ofTree
  split
  · rename_i s
    split
    · rename_i c cs heq
      refine iff_of_true ⟨_, rfl⟩ ?_
      have hs : s = "@" ++ String.ofList (c :: cs) := by
        calc s
          _ = String.ofList (['@'] ++ c :: cs) := by rw [List.singleton_append, ← heq, String.ofList_toList]
          _ = "@" ++ String.ofList (c :: cs) := String.ofList_append
      rw [hs]
      refine .alias fun hempty => ?_
      rw [← String.toList_inj, String.toList_ofList] at hempty
      cases hempty
    · rename_i hne
      refine iff_of_false nofun ?_
      rintro (@⟨target, nonempty⟩ | _)
      cases hcs : target.toList with
      | nil => exact nonempty (String.toList_inj.mp hcs)
      | cons c cs => exact hne c cs (by rw [String.toList_append, hcs]; rfl)
  · rename_i fields
    simp only [exists_bind_eq_ok_iff]
    constructor
    · rintro ⟨_, known, d, hd, -⟩
      exact .service ((Definition.exists_ofTree_map_iff (checkServiceKeys_eq_ok_iff.mp known)).mp ⟨d, hd⟩)
    · rintro (_ | service)
      obtain ⟨d, hd⟩ := (Definition.exists_ofTree_map_iff service.known).mpr service
      exact ⟨(), checkServiceKeys_eq_ok_iff.mpr service.known, d, hd, _, rfl⟩
  · rename_i htext hmap
    refine iff_of_false nofun ?_
    rintro (_ | service)
    · exact htext _ rfl
    · exact hmap _ rfl

theorem ofTree_of_lacksClass (lacks : tree.LacksClass) : ofTree id tree = .error (.missingClass id) := by
  obtain ⟨known, hnull⟩ := lacks
  unfold ofTree
  rw [bind_eq_error_iff]
  refine .inr ⟨(), checkServiceKeys_eq_ok_iff.mpr known, ?_⟩
  rw [bind_eq_error_iff]
  exact .inl (Definition.ofTree_map_of_forall_null hnull)

theorem of_ofTree_eq_error {failure : Failure} (failed : ofTree id tree = .error failure) :
    (failure = .missingClass id ∧ tree.LacksClass) ∨ ∃ defect, failure = .invalid defect := by
  unfold ofTree at failed
  split at failed
  · split at failed
    · cases failed
    · cases failed
      exact .inr ⟨_, rfl⟩
  · rename_i fields
    rcases bind_eq_error_iff.mp failed with failed | ⟨_, known, failed⟩
    · exact .inr (failsByDefect_checkServiceKeys id fields failure failed)
    · rcases bind_eq_error_iff.mp failed with failed | ⟨d, -, failed⟩
      · rcases Definition.of_ofTree_map_eq_error failed with ⟨heq, hnull⟩ | defect
        · exact .inl ⟨heq, .map (checkServiceKeys_eq_ok_iff.mp known) hnull⟩
        · exact .inr defect
      · cases failed
  · cases failed
    exact .inr ⟨_, rfl⟩

end Entry

/-! ### Sections -/

namespace Document

variable {mode : Mode} {name : String} {tree : Tree} {doc : Document}

theorem exists_sectionEntries_iff : (∃ entries, sectionEntries name tree = .ok entries) ↔ tree.IsEntries := by
  unfold sectionEntries
  split
  · exact iff_of_true ⟨_, rfl⟩ (.map _)
  · exact iff_of_true ⟨_, rfl⟩ .null
  · rename_i hmap hnull
    refine iff_of_false nofun ?_
    rintro (_ | entries)
    · exact hnull rfl
    · exact hmap entries rfl

theorem failsByDefect_sectionEntries (name : String) (tree : Tree) : FailsByDefect (sectionEntries name tree) := by
  unfold sectionEntries
  split
  · exact .ok _
  · exact .ok _
  · exact .invalid _

theorem exists_addSection_iff {entry : Key × Tree} :
    (∃ doc', addSection mode doc entry = .ok doc') ↔ IsSection mode entry := by
  unfold addSection
  split
  · split
    · rename_i strict
      refine iff_of_false nofun ?_
      rintro ⟨hkey | ⟨-, hmode⟩, -⟩
      · simp at hkey
      · exact hmode strict
    · rename_i hmode
      rw [exists_map_eq_ok_iff, exists_sectionEntries_iff]
      exact ⟨fun entries => ⟨.inr ⟨rfl, hmode⟩, entries⟩, IsSection.entries⟩
  · rw [exists_map_eq_ok_iff, exists_sectionEntries_iff]
    exact ⟨fun entries => ⟨.inl rfl, entries⟩, IsSection.entries⟩
  · rename_i key tree hparameters hservices
    refine iff_of_false nofun ?_
    rintro ⟨rfl | ⟨rfl, -⟩, -⟩
    · exact hservices rfl
    · exact hparameters rfl

theorem failsByDefect_addSection (mode : Mode) (doc : Document) (entry : Key × Tree) :
    FailsByDefect (addSection mode doc entry) := by
  unfold addSection
  split
  · split
    · exact .invalid _
    · exact (failsByDefect_sectionEntries _ _).map _
  · exact (failsByDefect_sectionEntries _ _).map _
  · exact .invalid _

theorem exists_ofTree_map_iff {sections : List (Key × Tree)} :
    (∃ doc, ofTree mode (.map sections) = .ok doc) ↔ ∀ entry ∈ sections, IsSection mode entry :=
  exists_foldlM_eq_ok_iff fun _ _ => exists_addSection_iff

theorem failsByDefect_ofTree (mode : Mode) (tree : Tree) : FailsByDefect (ofTree mode tree) := by
  unfold ofTree
  split
  · exact .foldlM (failsByDefect_addSection mode) _ _
  · exact .invalid _

/-! ### The services of a document -/

theorem services_of_addSection {doc' : Document} (hadd : addSection mode doc (.name "services", tree) = .ok doc') :
    sectionEntries "services" tree = .ok (doc'.services.getD []) := by
  obtain ⟨entries, hentries, rfl⟩ := map_eq_ok_iff.mp hadd
  exact hentries

theorem services_of_addSection_of_ne {doc' : Document} {entry : Key × Tree} (hne : entry.1 ≠ .name "services")
    (hadd : addSection mode doc entry = .ok doc') : doc'.services = doc.services := by
  unfold addSection at hadd
  split at hadd
  · split at hadd
    · cases hadd
    · obtain ⟨entries, -, rfl⟩ := map_eq_ok_iff.mp hadd
      rfl
  · exact absurd rfl hne
  · cases hadd

theorem services_of_foldlM {sections : List (Key × Tree)} {doc' : Document}
    (hfold : sections.foldlM (addSection mode) doc = .ok doc') (hne : ∀ entry ∈ sections, entry.1 ≠ .name "services") :
    doc'.services = doc.services :=
  of_foldlM_eq_ok (P := fun later => later.services = doc.services) hfold rfl
    fun _ entry mem _ kept hadd => (services_of_addSection_of_ne (hne entry mem) hadd).trans kept

theorem services_of_last {sections : List (Key × Tree)} (hread : ofTree mode (.map sections) = .ok doc)
    (last : Last sections "services" tree) : sectionEntries "services" tree = .ok (doc.services.getD []) := by
  obtain ⟨front, back, rfl, hback⟩ := last
  rw [ofTree, List.foldlM_append, bind_eq_ok_iff] at hread
  obtain ⟨before, -, hread⟩ := hread
  rw [List.foldlM_cons, bind_eq_ok_iff] at hread
  obtain ⟨added, hadd, hback'⟩ := hread
  rw [services_of_foldlM hback' hback]
  exact services_of_addSection hadd

/-- Only the last section of services counts. -/
theorem last_services_iff {sections services : List (Key × Tree)} (hread : ofTree mode (.map sections) = .ok doc)
    (hne : services ≠ []) : Last sections "services" (.map services) ↔ doc.services.getD [] = services := by
  constructor
  · intro last
    exact (Except.ok.inj (services_of_last hread last)).symm
  · rintro rfl
    rcases Tree.exists_last_or sections "services" with ⟨tree, last⟩ | hnone
    · have hentries := services_of_last hread last
      unfold sectionEntries at hentries
      split at hentries
      · rwa [← Except.ok.inj hentries]
      · exact absurd (Except.ok.inj hentries).symm hne
      · cases hentries
    · rw [services_of_foldlM hread hnone] at hne
      exact absurd rfl hne

end Document

/-! ### Documents -/

namespace Container

variable {mode : Mode} {c : Container} {tree : Tree} {service : Key × Tree} {failure : Failure}

theorem exists_addService_iff : (∃ c', c.addService service = .ok c') ↔ IsNamedEntry service := by
  obtain ⟨key, tree⟩ := service
  simp only [addService, IsNamedEntry]
  split
  · rename_i hempty
    exact iff_of_false nofun fun named => named.1 hempty
  · rename_i nonempty
    rw [exists_map_eq_ok_iff, Entry.exists_ofTree_iff]
    exact (and_iff_right nonempty).symm

theorem exists_foldlM_addService_iff {services : List (Key × Tree)} :
    (∃ c', services.foldlM addService c = .ok c') ↔ ∀ service ∈ services, IsNamedEntry service :=
  exists_foldlM_eq_ok_iff fun _ _ => exists_addService_iff

theorem addService_of_lacksClass (nonempty : service.1.text ≠ "") (lacks : service.2.LacksClass) :
    c.addService service = .error (.missingClass service.1.text) := by
  rw [addService, if_neg nonempty, map_eq_error_iff]
  exact Entry.ofTree_of_lacksClass lacks

theorem of_addService_eq_error (failed : c.addService service = .error failure) :
    (failure = .missingClass service.1.text ∧ service.1.text ≠ "" ∧ service.2.LacksClass) ∨
      ∃ defect, failure = .invalid defect := by
  obtain ⟨key, tree⟩ := service
  simp only [addService] at failed
  split at failed
  · cases failed
    exact .inr ⟨_, rfl⟩
  · rename_i nonempty
    rcases Entry.of_ofTree_eq_error (map_eq_error_iff.mp failed) with ⟨heq, lacks⟩ | defect
    · exact .inl ⟨heq, nonempty, lacks⟩
    · exact .inr defect

theorem exists_addDocument_iff : (∃ c', c.addDocument mode tree = .ok c') ↔ tree.IsDocument mode := by
  unfold addDocument
  simp only [exists_bind_eq_ok_iff, exists_foldlM_addService_iff]
  constructor
  · rintro ⟨doc, hread, services⟩
    cases tree with
    | map sections =>
        refine .map (Document.exists_ofTree_map_iff.mp ⟨doc, hread⟩) fun entries last => ?_
        by_cases hne : entries = []
        · rw [hne]
          exact nofun
        · rwa [(Document.last_services_iff hread hne).mp last] at services
    | scalar s => cases hread
    | object tag => cases hread
  · rintro ⟨each, services⟩
    obtain ⟨doc, hread⟩ := Document.exists_ofTree_map_iff.mpr each
    refine ⟨doc, hread, ?_⟩
    by_cases hne : doc.services.getD [] = []
    · rw [hne]
      exact nofun
    · exact services _ ((Document.last_services_iff hread hne).mpr rfl)

/-- Of two sections of services the first is not looked into. -/
example : (empty.addDocument .strict (.map [(.name "services", .map [(.name "a", .scalar .null)]),
    (.name "services", .scalar .null)])).toBool = true := by
  decide

theorem addDocument_of_lacksClassAt {id : ServiceId} (lacks : tree.LacksClassAt mode id) :
    c.addDocument mode tree = .error (.missingClass id) := by
  obtain ⟨each, last, before, text, nonempty, lacks⟩ := lacks
  obtain ⟨doc, hread⟩ := Document.exists_ofTree_map_iff.mpr each
  have hservices := (Document.last_services_iff hread (by simp)).mp last
  unfold addDocument
  rw [bind_eq_error_iff]
  refine .inr ⟨doc, hread, ?_⟩
  rw [hservices, foldlM_eq_error_iff]
  obtain ⟨c', hbefore⟩ := exists_foldlM_addService_iff.mpr before
  subst text
  exact ⟨_, _, _, c', rfl, hbefore, addService_of_lacksClass nonempty lacks⟩

theorem of_addDocument_eq_error (failed : c.addDocument mode tree = .error failure) :
    (∃ id, failure = .missingClass id ∧ tree.LacksClassAt mode id) ∨ ∃ defect, failure = .invalid defect := by
  unfold addDocument at failed
  rcases bind_eq_error_iff.mp failed with failed | ⟨doc, hread, failed⟩
  · exact .inr (Document.failsByDefect_ofTree mode tree failure failed)
  · obtain ⟨front, service, back, c', hservices, hfront, failed⟩ := foldlM_eq_error_iff.mp failed
    rcases of_addService_eq_error failed with ⟨heq, nonempty, lacks⟩ | defect
    · cases tree with
      | map sections =>
          have last := (Document.last_services_iff hread (by simp)).mpr hservices
          refine .inl ⟨_, heq, .map (Document.exists_ofTree_map_iff.mp ⟨doc, hread⟩) last ?_ rfl nonempty lacks⟩
          exact exists_foldlM_addService_iff.mp ⟨c', hfront⟩
      | scalar s => cases hread
      | object tag => cases hread
    · exact .inr defect

/-- A container is read from a tree exactly when the tree is a document. Otherwise it fails by a class that is
missed at the first service that is no entry, or by a defect. -/
theorem addDocument_accepts (mode : Mode) (tree : Tree) :
    ((∃ c, empty.addDocument mode tree = .ok c) ↔ tree.IsDocument mode) ∧
    (∀ id, empty.addDocument mode tree = .error (.missingClass id) ↔ tree.LacksClassAt mode id) ∧
    ∀ failure, empty.addDocument mode tree = .error failure →
      (∃ id, failure = .missingClass id) ∨ ∃ defect, failure = .invalid defect := by
  refine ⟨exists_addDocument_iff, fun id => ⟨fun failed => ?_, addDocument_of_lacksClassAt⟩, fun failure failed => ?_⟩
  · rcases of_addDocument_eq_error failed with ⟨other, heq, lacks⟩ | ⟨defect, heq⟩
    · cases heq
      exact lacks
    · cases heq
  · rcases of_addDocument_eq_error failed with ⟨id, heq, -⟩ | defect
    · exact .inl ⟨id, heq⟩
    · exact .inr defect

end Container

end ServiceContainer

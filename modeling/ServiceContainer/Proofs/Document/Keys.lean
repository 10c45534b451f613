import Mathlib.Data.List.Nodup
import ServiceContainer.Proofs.Document.Notation
import ServiceContainer.Proofs.Document.Registration

/-!
# Keys that stay apart

Different names of an object in JSON are different keys. A mapping in YAML can write one integer as a number, as
text and, for zero and one, as a truth value, and these are one key; no other keys of YAML fall together. Where the
keys of a map differ, each entry of a section is registered as it stands.
-/

namespace ServiceContainer

/-! ### Parts of documents -/

namespace Json.Node

/-- What a node is made of at any depth, itself included. -/
inductive Part : Node → Node → Prop
  | whole (node : Node) : Part node node
  | item {items : List Node} {item part : Node} (mem : item ∈ items) (inside : Part item part) :
      Part (.array items) part
  | field {fields : List (String × Node)} {field : String × Node} {part : Node} (mem : field ∈ fields)
      (inside : Part field.2 part) : Part (.object fields) part

/-- The names of an object differ, and there is an index for each item of an array. -/
def KeysApart : Node → Prop
  | .array items => items.length ≤ 2 ^ 64
  | .object fields => (fields.map Prod.fst).Nodup
  | _ => True

theorem forall_part_array_iff {P : Node → Prop} {items : List Node} :
    (∀ part, Part (.array items) part → P part) ↔ P (.array items) ∧ ∀ item ∈ items, ∀ part, item.Part part → P part := by
  constructor
  · exact fun each => ⟨each _ (.whole _), fun item mem part inside => each part (.item mem inside)⟩
  · rintro ⟨whole, each⟩ part (_ | ⟨mem, inside⟩)
    · exact whole
    · exact each _ mem part inside

theorem forall_part_object_iff {P : Node → Prop} {fields : List (String × Node)} :
    (∀ part, Part (.object fields) part → P part) ↔
      P (.object fields) ∧ ∀ field ∈ fields, ∀ part, field.2.Part part → P part := by
  constructor
  · exact fun each => ⟨each _ (.whole _), fun field mem part inside => each part (.field mem inside)⟩
  · rintro ⟨whole, each⟩ part (_ | _ | ⟨mem, inside⟩)
    · exact whole
    · exact each _ mem part inside

end Json.Node

namespace Yaml.Node

/-- The ways to write an integer as a key. -/
inductive SpellsIndex (i : Int64) : Node → Prop
  | int {n : Whole} (value : n.value = i.toInt) : SpellsIndex i (.int n)
  | text {s : String} (spells : SpellsInt s i.toInt) : SpellsIndex i (.text s)
  | bool {b : Bool} (value : i = if b then 1 else 0) : SpellsIndex i (.bool b)

/-- What a node is made of at any depth, itself included, but not inside a key or a tagged node. -/
inductive Part : Node → Node → Prop
  | whole (node : Node) : Part node node
  | item {items : List Node} {item part : Node} (mem : item ∈ items) (inside : Part item part) :
      Part (.sequence items) part
  | value {entries : List (Node × Node)} {entry : Node × Node} {part : Node} (mem : entry ∈ entries)
      (inside : Part entry.2 part) : Part (.mapping entries) part

/-- The keys of a mapping differ and no two of them write one integer, and there is an index for each item of a
sequence. -/
def KeysApart : Node → Prop
  | .sequence items => items.length ≤ 2 ^ 64
  | .mapping entries =>
    (entries.map Prod.fst).Pairwise fun key key' => key ≠ key' ∧ ¬ ∃ i, key.SpellsIndex i ∧ key'.SpellsIndex i
  | _ => True

theorem forall_part_sequence_iff {P : Node → Prop} {items : List Node} :
    (∀ part, Part (.sequence items) part → P part) ↔
      P (.sequence items) ∧ ∀ item ∈ items, ∀ part, item.Part part → P part := by
  constructor
  · exact fun each => ⟨each _ (.whole _), fun item mem part inside => each part (.item mem inside)⟩
  · rintro ⟨whole, each⟩ part (_ | ⟨mem, inside⟩)
    · exact whole
    · exact each _ mem part inside

theorem forall_part_mapping_iff {P : Node → Prop} {entries : List (Node × Node)} :
    (∀ part, Part (.mapping entries) part → P part) ↔
      P (.mapping entries) ∧ ∀ entry ∈ entries, ∀ part, entry.2.Part part → P part := by
  constructor
  · exact fun each => ⟨each _ (.whole _), fun entry mem part inside => each part (.value mem inside)⟩
  · rintro ⟨whole, each⟩ part (_ | _ | ⟨mem, inside⟩)
    · exact whole
    · exact each _ mem part inside

end Yaml.Node

namespace Tree

/-- What a tree is made of at any depth, itself included. -/
inductive Part : Tree → Tree → Prop
  | whole (tree : Tree) : Part tree tree
  | value {entries : List (Key × Tree)} {entry : Key × Tree} {part : Tree} (mem : entry ∈ entries)
      (inside : Part entry.2 part) : Part (.map entries) part

/-- No two keys of a map have one text; so they are all the more different keys. -/
def KeysApart : Tree → Prop
  | .map entries => (entries.map fun entry => entry.1.text).Nodup
  | _ => True

theorem forall_part_map_iff {P : Tree → Prop} {entries : List (Key × Tree)} :
    (∀ part, Part (.map entries) part → P part) ↔
      P (.map entries) ∧ ∀ entry ∈ entries, ∀ part, entry.2.Part part → P part := by
  constructor
  · exact fun each => ⟨each _ (.whole _), fun entry mem part inside => each part (.value mem inside)⟩
  · rintro ⟨whole, each⟩ part (_ | ⟨mem, inside⟩)
    · exact whole
    · exact each _ mem part inside

theorem forall_part_scalar_iff {P : Tree → Prop} {s : Scalar} :
    (∀ part, Part (.scalar s) part → P part) ↔ P (.scalar s) := by
  constructor
  · exact fun each => each _ (.whole _)
  · rintro whole part ⟨⟩
    exact whole

end Tree

/-! ### Keys of lists -/

namespace Key

theorem text_index_inj {i j : Int64} : (index i).text = (index j).text ↔ i = j := by
  constructor
  · intro htext
    have hindex : ofName (index i).text = ofName (index j).text := congrArg ofName htext
    rw [text, text, ofName_toString, ofName_toString] at hindex
    exact Key.index.inj hindex
  · rintro rfl
    rfl

theorem ofNat_inj_of_lt {i j : Nat} (hi : i < 2 ^ 64) (hj : j < 2 ^ 64) (heq : Int64.ofNat i = Int64.ofNat j) :
    i = j := by
  have hbits := congrArg (fun n : Int64 => n.toBitVec.toNat) heq
  simp only [Int64.toBitVec_ofNat', BitVec.toNat_ofNat] at hbits
  rwa [Nat.mod_eq_of_lt hi, Nat.mod_eq_of_lt hj] at hbits

/-- Indices start over when there are no more of them. -/
theorem nodup_number_iff {α : Type} {items : List α} :
    ((number items).map fun entry => entry.1.text).Nodup ↔ items.length ≤ 2 ^ 64 := by
  have htexts : ((number items).map fun entry => entry.1.text) =
      (List.range items.length).map fun i => (index (Int64.ofNat i)).text := by
    rw [number, List.map_map, List.range_eq_range', ← List.zipIdx_map_snd 0 items, List.map_map]
    rfl
  rw [htexts, List.nodup_map_iff_inj_on List.nodup_range]
  simp only [text_index_inj, List.mem_range]
  constructor
  · intro inj
    by_contra hlong
    have hstart := inj (2 ^ 64) (by omega) 0 (by omega) rfl
    cases hstart
  · intro hshort i hi j hj heq
    exact ofNat_inj_of_lt (by omega) (by omega) heq

end Key

/-! ### Objects and arrays -/

theorem Tree.map_snd_number {α : Type} (items : List α) : (Key.number items).map Prod.snd = items := by
  rw [Key.number, List.map_map]
  exact List.zipIdx_map_fst 0 items

/-- A map of indices has apart keys as long as there are indices for its items. -/
theorem Tree.forall_part_sequence_iff {items : List Tree} :
    (∀ part, (sequence items).Part part → part.KeysApart) ↔
      items.length ≤ 2 ^ 64 ∧ ∀ item ∈ items, ∀ part, item.Part part → part.KeysApart := by
  rw [sequence, forall_part_map_iff]
  refine and_congr Key.nodup_number_iff ?_
  have hvalues := List.forall_mem_map (l := Key.number items) (f := Prod.snd)
    (P := fun item => ∀ part, item.Part part → part.KeysApart)
  rw [map_snd_number] at hvalues
  exact hvalues.symm

theorem Tree.keysApart_ofJson_iff (node : Json.Node) :
    (∀ part, (ofJson node).Part part → part.KeysApart) ↔ ∀ part, node.Part part → part.KeysApart := by
  induction node with
  | array items ih =>
      rw [ofJson_array, forall_part_sequence_iff, Json.Node.forall_part_array_iff, List.length_map,
        List.forall_mem_map]
      exact and_congr_right fun _ => forall₂_congr ih
  | object fields ih =>
      rw [ofJson_object, forall_part_map_iff, Json.Node.forall_part_object_iff, List.forall_mem_map]
      refine and_congr ?_ (forall₂_congr ih)
      have htexts : ((fields.map fun field => (Key.ofName field.1, ofJson field.2)).map fun entry => entry.1.text) =
          fields.map Prod.fst := by
        rw [List.map_map]
        exact List.map_congr_left fun field _ => Key.text_ofName field.1
      exact iff_of_eq (congrArg List.Nodup htexts)
  | _ => exact iff_of_true (fun part inside => by cases inside; trivial) fun part inside => by cases inside; trivial

/-! ### Mappings and sequences -/

namespace Key

variable {node other : Yaml.Node} {key key' : Key} {i : Int64}

theorem ofYaml_int_eq_index_iff {n : Whole} : ofYaml (.int n) = .ok (.index i) ↔ n.value = i.toInt := by
  have hmin : Int64.minValue.toInt = -2 ^ 63 := rfl
  have hmax : Int64.maxValue.toInt = 2 ^ 63 - 1 := rfl
  have hlow := n.inRange.1
  have hi := i.toInt_le
  rw [ofYaml, Whole.int64?]
  by_cases inRange : n.value ≤ Int64.maxValue.toInt
  · rw [if_pos inRange, Option.elim_some, Except.ok.injEq, Key.index.injEq, ← Int64.toInt_inj,
      Int64.toInt_ofInt_of_le (by omega) (by omega)]
  · rw [if_neg inRange, Option.elim_none]
    exact iff_of_false (fun same => by cases same) (by omega)

theorem ofYaml_eq_index_iff : ofYaml node = .ok (.index i) ↔ node.SpellsIndex i := by
  constructor
  · intro hread
    cases node with
    | text s => exact .text (ofName_eq_index_iff.mp (Except.ok.inj hread))
    | bool b => exact .bool (Key.index.inj (Except.ok.inj hread)).symm
    | int n => exact .int (ofYaml_int_eq_index_iff.mp hread)
    | _ => cases hread
  · intro spells
    cases spells with
    | text spells => exact congrArg Except.ok (ofName_eq_index_iff.mpr spells)
    | bool value => exact congrArg (fun i => Except.ok (Key.index i)) value.symm
    | int value => exact ofYaml_int_eq_index_iff.mpr value

theorem eq_text_of_ofYaml_eq_name {s : String} (hread : ofYaml node = .ok (.name s)) : node = .text s := by
  cases node with
  | text t => rw [eq_of_ofName_eq_name (Except.ok.inj hread)]
  | bool b => cases hread
  | int n =>
      rw [ofYaml] at hread
      cases hint : n.int64? with
      | some i =>
          rw [hint] at hread
          cases hread
      | none =>
          rw [hint] at hread
          cases hread
  | _ => cases hread

/-- Keys that are read are what their texts are read as. -/
theorem ofName_text_of_ofYaml (hread : ofYaml node = .ok key) : ofName key.text = key := by
  cases key with
  | index i => exact ofName_toString i
  | name s =>
      have htext := eq_text_of_ofYaml_eq_name hread
      subst htext
      exact Except.ok.inj hread

/-- Keys fall together when they are one key, or write one integer. -/
theorem text_eq_iff_of_ofYaml (hread : ofYaml node = .ok key) (hread' : ofYaml other = .ok key') :
    key.text = key'.text ↔ node = other ∨ ∃ i, node.SpellsIndex i ∧ other.SpellsIndex i := by
  constructor
  · intro htext
    have hkey : key = key' := by
      rw [← ofName_text_of_ofYaml hread, htext, ofName_text_of_ofYaml hread']
    subst hkey
    cases key with
    | index i => exact .inr ⟨i, ofYaml_eq_index_iff.mp hread, ofYaml_eq_index_iff.mp hread'⟩
    | name s => exact .inl ((eq_text_of_ofYaml_eq_name hread).trans (eq_text_of_ofYaml_eq_name hread').symm)
  · rintro (rfl | ⟨i, spells, spells'⟩)
    · rw [Except.ok.inj (hread.symm.trans hread')]
    · have hindex := hread.symm.trans (ofYaml_eq_index_iff.mpr spells)
      have hindex' := hread'.symm.trans (ofYaml_eq_index_iff.mpr spells')
      rw [Except.ok.inj hindex, Except.ok.inj hindex']

end Key

section Lists

variable {α β : Type} {R : α → β → Prop} {as : List α} {bs : List β}

theorem forall_mem_iff_of_forall₂ {P : α → Prop} {Q : β → Prop} (all : List.Forall₂ R as bs)
    (each : ∀ a ∈ as, ∀ b, R a b → (P a ↔ Q b)) : (∀ a ∈ as, P a) ↔ ∀ b ∈ bs, Q b := by
  induction all with
  | nil => exact iff_of_true (List.forall_mem_nil _) (List.forall_mem_nil _)
  | cons hab _ ih =>
      obtain ⟨hfirst, hrest⟩ := List.forall_mem_cons.mp each
      rw [List.forall_mem_cons, List.forall_mem_cons, hfirst _ hab, ih hrest]

theorem pairwise_iff_of_forall₂ {S : α → α → Prop} {T : β → β → Prop} (all : List.Forall₂ R as bs)
    (each : ∀ a b a' b', R a b → R a' b' → (S a a' ↔ T b b')) : as.Pairwise S ↔ bs.Pairwise T := by
  induction all with
  | nil => exact iff_of_true .nil .nil
  | cons hab all ih =>
      rw [List.pairwise_cons, List.pairwise_cons, ih,
        forall_mem_iff_of_forall₂ all fun a' _ b' hab' => each _ _ a' b' hab hab']

end Lists

namespace Tree

theorem ofYamlEntry_eq_ok_iff {entry : Yaml.Node × Yaml.Node} {read : Key × Tree} :
    ofYamlEntry entry = .ok read ↔ Key.ofYaml entry.1 = .ok read.1 ∧ ofYaml entry.2 = .ok read.2 := by
  obtain ⟨key, tree⟩ := read
  rw [ofYamlEntry, bind_eq_ok_iff]
  simp only [map_eq_ok_iff, Prod.mk.injEq]
  constructor
  · rintro ⟨key, hkey, tree, htree, rfl, rfl⟩
    exact ⟨hkey, htree⟩
  · rintro ⟨hkey, htree⟩
    exact ⟨key, hkey, tree, htree, rfl, rfl⟩

theorem keysApart_map_iff_of_forall₂ {entries : List (Yaml.Node × Yaml.Node)} {read : List (Key × Tree)}
    (all : List.Forall₂ (fun entry read => ofYamlEntry entry = .ok read) entries read) :
    KeysApart (.map read) ↔ Yaml.Node.KeysApart (.mapping entries) := by
  rw [KeysApart, Yaml.Node.KeysApart, List.Nodup, List.pairwise_map, List.pairwise_map]
  refine (pairwise_iff_of_forall₂ all ?_).symm
  intro entry read entry' read' hread hread'
  have htext := Key.text_eq_iff_of_ofYaml (ofYamlEntry_eq_ok_iff.mp hread).1 (ofYamlEntry_eq_ok_iff.mp hread').1
  rw [ne_eq, ← not_or, ne_eq, htext]

theorem keysApart_ofYaml_iff {node : Yaml.Node} {tree : Tree} (hread : ofYaml node = .ok tree) :
    (∀ part, tree.Part part → part.KeysApart) ↔ ∀ part, node.Part part → part.KeysApart := by
  induction node generalizing tree with
  | sequence items ih =>
      rw [ofYaml_sequence, map_eq_ok_iff] at hread
      obtain ⟨trees, hitems, rfl⟩ := hread
      have all := mapM_eq_ok_iff.mp hitems
      rw [forall_part_sequence_iff, Yaml.Node.forall_part_sequence_iff, ← all.length_eq]
      refine and_congr_right fun _ => (forall_mem_iff_of_forall₂ all ?_).symm
      exact fun item mem tree hitem => (ih item mem hitem).symm
  | mapping entries ih =>
      rw [ofYaml_mapping, map_eq_ok_iff] at hread
      obtain ⟨read, hentries, rfl⟩ := hread
      have all := mapM_eq_ok_iff.mp hentries
      rw [forall_part_map_iff, Yaml.Node.forall_part_mapping_iff]
      refine and_congr (keysApart_map_iff_of_forall₂ all) (forall_mem_iff_of_forall₂ all ?_).symm
      exact fun entry mem read hentry => ((ih entry mem).2 (ofYamlEntry_eq_ok_iff.mp hentry).2).symm
  | _ =>
      cases hread
      exact iff_of_true (fun part inside => by cases inside; trivial) fun part inside => by cases inside; trivial

end Tree

/-! ### Registration -/

theorem Tree.text_ne_of_keysApart {front back : List (Key × Tree)} {entry : Key × Tree}
    (apart : (Tree.map (front ++ entry :: back)).KeysApart) : ∀ other ∈ back, other.1.text ≠ entry.1.text := by
  rw [KeysApart, List.map_append, List.map_cons] at apart
  have fresh := (List.nodup_cons.mp (List.nodup_append.mp apart).2.1).1
  exact fun other hother htext => fresh (htext ▸ List.mem_map_of_mem hother)

namespace Container

variable {mode : Mode} {tree : Tree} {doc : Document} {c c' : Container} {services parameters : List (Key × Tree)}

theorem exists_entry_of_keysApart (apart : (Tree.map services).KeysApart)
    (hfold : services.foldlM addService c = .ok c') :
    ∀ service ∈ services, ∃ entry, Entry.ofTree service.1.text service.2 = .ok entry ∧
      c'.entries[service.1.text]? = some entry := by
  intro service mem
  obtain ⟨front, back, rfl⟩ := List.append_of_mem mem
  exact exists_entry_of_addServices hfold (Tree.text_ne_of_keysApart apart)

/-- A parameter keeps its value if no other one has its name but for the case of letters. -/
theorem getElem?_addParameters_of_keysApart (apart : (Tree.map parameters).KeysApart) {parameter : Key × Tree}
    (mem : parameter ∈ parameters)
    (alone : ∀ other ∈ parameters, ParameterKey.ofName other.1.text = .ofName parameter.1.text →
      other.1.text = parameter.1.text) :
    (parameters.foldl addParameter c).parameters[ParameterKey.ofName parameter.1.text]? =
      some (.ofTree parameter.2) := by
  obtain ⟨front, back, rfl⟩ := List.append_of_mem mem
  apply getElem?_addParameters
  intro other hother hname
  have htext := alone other (List.mem_append_right front (List.mem_cons_of_mem parameter hother)) hname
  exact Tree.text_ne_of_keysApart apart other hother htext

end Container

namespace Tree

/-- In a document that is read, both sections are apart when all maps of the document are. -/
theorem keysApart_sections {mode : Mode} {tree : Tree} {doc : Document} (hread : Document.ofTree mode tree = .ok doc)
    (apart : ∀ part, tree.Part part → part.KeysApart) :
    KeysApart (.map (doc.services.getD [])) ∧ KeysApart (.map (doc.parameters.getD [])) := by
  cases tree with
  | map sections =>
      obtain ⟨services, parameters⟩ := Document.readFrom_of_ofTree hread
      constructor
      · rcases services with hnil | mem
        · rw [hnil]
          exact List.nodup_nil
        · exact apart _ (.value mem (.whole _))
      · rcases parameters with hnil | mem
        · rw [hnil]
          exact List.nodup_nil
        · exact apart _ (.value mem (.whole _))
  | scalar s => cases hread
  | object tag => cases hread

/-- An object whose names differ is a map whose keys differ. Of a mapping, keys that differ fall together exactly
when they write one integer. A document without keys that fall together registers each service under the text of
its key, and each parameter that no other one equals but for the case of letters. -/
theorem keysApart_loaded :
    (∀ node : Json.Node,
      (∀ part, (ofJson node).Part part → part.KeysApart) ↔ ∀ part, node.Part part → part.KeysApart) ∧
    (∀ (node : Yaml.Node) (tree : Tree), ofYaml node = .ok tree →
      ((∀ part, tree.Part part → part.KeysApart) ↔ ∀ part, node.Part part → part.KeysApart)) ∧
    ∀ (mode : Mode) (tree : Tree) (doc : Document) (c c' : Container),
      (∀ part, tree.Part part → part.KeysApart) → Document.ofTree mode tree = .ok doc →
      c.addDocument mode tree = .ok c' →
      (∀ service ∈ doc.services.getD [], ∃ entry, Entry.ofTree service.1.text service.2 = .ok entry ∧
        c'.entries[service.1.text]? = some entry) ∧
      ∀ parameter ∈ doc.parameters.getD [],
        (∀ other ∈ doc.parameters.getD [], ParameterKey.ofName other.1.text = .ofName parameter.1.text →
          other.1.text = parameter.1.text) →
        c'.parameters[ParameterKey.ofName parameter.1.text]? = some (.ofTree parameter.2) := by
  refine ⟨keysApart_ofJson_iff, fun node tree hread => keysApart_ofYaml_iff hread, ?registered⟩
  intro mode tree doc c c' apart hread hadd
  obtain ⟨services, parameters⟩ := keysApart_sections hread apart
  obtain ⟨other, hother, hfold⟩ := Container.addDocument_eq_ok_iff.mp hadd
  cases hread.symm.trans hother
  refine ⟨Container.exists_entry_of_keysApart services hfold, ?_⟩
  intro parameter mem alone
  rw [Container.parameters_addServices hfold]
  exact Container.getElem?_addParameters_of_keysApart parameters mem alone

/-- An index and a name that writes the same number with more digits. -/
def hostDocument : Tree :=
  .map
    [(.name "parameters", .map
        [(.index 1, .scalar (.text "a")), (.name "01", .scalar (.text "b")), (.name "Host", .scalar (.text "%1%"))]),
      (.name "services", .map
        [(.index 1, .map [(.name "class", .scalar (.text "A"))]), (.name "mailer", .scalar (.text "@1"))])]

theorem keysApart_hostDocument :
    (∀ part, hostDocument.Part part → part.KeysApart) ∧
      ∃ doc c, Document.ofTree .withParameters hostDocument = .ok doc ∧
        Container.empty.addDocument .withParameters hostDocument = .ok c ∧
        (∃ entry, Entry.ofTree "1" (.map [(.name "class", .scalar (.text "A"))]) = .ok entry ∧
          c.entries["1"]? = some entry) ∧
        c.parameters[ParameterKey.ofName "Host"]? = some (.ofTree (.scalar (.text "%1%"))) := by
  have apart : ∀ part, hostDocument.Part part → part.KeysApart := by
    rw [hostDocument]
    simp only [forall_part_map_iff, forall_part_scalar_iff, List.forall_mem_cons, List.not_mem_nil, false_implies,
      implies_true, and_true, KeysApart]
    decide
  have isOk : (Container.empty.addDocument .withParameters hostDocument).toBool = true := by decide +kernel
  obtain ⟨c, hadd⟩ := exists_eq_ok_of_toBool isOk
  have hread : Document.ofTree .withParameters hostDocument = .ok ⟨some _, some _⟩ := rfl
  obtain ⟨services, parameters⟩ := keysApart_loaded.2.2 .withParameters hostDocument _ _ c apart hread hadd
  refine ⟨apart, _, c, hread, hadd, services _ List.mem_cons_self, parameters (.name "Host", _) ?_ ?_⟩
  · simp
  · decide

/-- The integer one, as a number and as text. -/
def oneTwice : Yaml.Node := .mapping [(.int ⟨1, by decide⟩, .text "a"), (.text "1", .text "b")]

theorem keys_collide_oneTwice :
    (∀ entries, oneTwice.Part (.mapping entries) → (entries.map Prod.fst).Nodup) ∧
      ∃ tree, ofYaml oneTwice = .ok tree ∧ ∃ entries, tree.Part (.map entries) ∧ ¬ (entries.map Prod.fst).Nodup := by
  have one : Key.ofName "1" = .index 1 := Key.ofName_toString 1
  constructor
  · rintro entries (_ | _ | ⟨mem, inside⟩)
    · simp
    · rcases List.mem_pair.mp mem with rfl | rfl <;> cases inside
  · refine ⟨.map [(.index 1, .scalar (.text "a")), (.index 1, .scalar (.text "b"))], ?_, _, .whole _, by simp⟩
    rw [oneTwice, ofYaml_mapping, List.mapM_cons, List.mapM_cons, List.mapM_nil]
    simp only [ofYamlEntry, Key.ofYaml, one]
    rfl

end Tree

end ServiceContainer

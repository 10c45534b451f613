import ServiceContainer.Json.Document
import ServiceContainer.Proofs.Result
import ServiceContainer.Yaml.Document

/-!
# Documents in both notations

Whatever can be written in JSON is the same tree in YAML. What YAML has besides is keys of all kinds and tagged
nodes: a document fails to be a tree exactly when a key in it, not inside a tagged node, can be no key of a tree.
-/

namespace ServiceContainer

/-! ### Integers -/

theorem Whole.toDouble_eq_ofNat {n : Whole} {u : UInt64} (hu : n.uint64? = some u) :
    n.toDouble = .ofNat u.toNat := by
  unfold uint64? at hu
  split at hu
  · rename_i hnonneg
    cases hu
    have hsize : (UInt64.size : Int) = 2 ^ 64 := rfl
    have hlt := n.inRange.2
    have habs : n.value.natAbs = n.value.toNat := by omega
    rw [toDouble, if_neg (by omega), habs, UInt64.toNat_ofNat', Nat.mod_eq_of_lt (by omega)]
  · cases hu

/-- JSON asks for an integer without a sign before it takes the nearest double, which makes no difference. -/
theorem Scalar.ofYaml_eq_ofJson (n : Whole) : Scalar.ofYaml n = .ofJson n := by
  unfold Scalar.ofYaml Scalar.ofJson
  cases n.int64? with
  | some i => rfl
  | none =>
      cases hu : n.uint64? with
      | some u => exact congrArg Scalar.float (Whole.toDouble_eq_ofNat hu)
      | none => rfl

/-! ### Nodes of both notations -/

namespace Json.Node

@[elab_as_elim, induction_eliminator]
theorem induction {P : Node → Prop} (null : P .null) (bool : ∀ b, P (.bool b)) (int : ∀ n, P (.int n))
    (float : ∀ x, P (.float x)) (text : ∀ s, P (.text s))
    (array : ∀ items, (∀ item ∈ items, P item) → P (.array items))
    (object : ∀ fields, (∀ field ∈ fields, P field.2) → P (.object fields)) (node : Node) : P node := by
  refine @Node.rec P (fun items => ∀ item ∈ items, P item) (fun fields => ∀ field ∈ fields, P field.2)
    (fun field => P field.2) null bool int float text array object ?_ ?_ ?_ ?_ ?_ node
  · exact nofun
  · exact fun item items hitem hitems => List.forall_mem_cons.mpr ⟨hitem, hitems⟩
  · exact nofun
  · exact fun field fields hfield hfields => List.forall_mem_cons.mpr ⟨hfield, hfields⟩
  · exact fun name value hvalue => hvalue

end Json.Node

namespace Yaml.Node

@[elab_as_elim, induction_eliminator]
theorem induction {P : Node → Prop} (null : P .null) (bool : ∀ b, P (.bool b)) (int : ∀ n, P (.int n))
    (float : ∀ x, P (.float x)) (text : ∀ s, P (.text s))
    (sequence : ∀ items, (∀ item ∈ items, P item) → P (.sequence items))
    (mapping : ∀ entries, (∀ entry ∈ entries, P entry.1 ∧ P entry.2) → P (.mapping entries))
    (tagged : ∀ tag content, P content → P (.tagged tag content)) (node : Node) : P node := by
  refine @Node.rec P (fun items => ∀ item ∈ items, P item) (fun entries => ∀ entry ∈ entries, P entry.1 ∧ P entry.2)
    (fun entry => P entry.1 ∧ P entry.2) null bool int float text sequence mapping tagged ?_ ?_ ?_ ?_ ?_ node
  · exact nofun
  · exact fun item items hitem hitems => List.forall_mem_cons.mpr ⟨hitem, hitems⟩
  · exact nofun
  · exact fun entry entries hentry hentries => List.forall_mem_cons.mpr ⟨hentry, hentries⟩
  · exact fun key value hkey hvalue => ⟨hkey, hvalue⟩

/-- The same shape: arrays are sequences, and objects are mappings with texts for keys. -/
def ofJson : Json.Node → Node
  | .null => .null
  | .bool b => .bool b
  | .int n => .int n
  | .float x => .float x
  | .text s => .text s
  | .array items => .sequence (ofItems items)
  | .object fields => .mapping (ofFields fields)
where
  ofItems : List Json.Node → List Node
    | [] => []
    | item :: items => ofJson item :: ofItems items
  ofFields : List (String × Json.Node) → List (Node × Node)
    | [] => []
    | (name, value) :: fields => (.text name, ofJson value) :: ofFields fields

theorem ofJson_array (items : List Json.Node) : ofJson (.array items) = .sequence (items.map ofJson) := by
  rw [ofJson]
  congr 1
  induction items with
  | nil => rfl
  | cons item items ih => rw [ofJson.ofItems, ih, List.map_cons]

theorem ofJson_object (fields : List (String × Json.Node)) :
    ofJson (.object fields) = .mapping (fields.map fun field => (.text field.1, ofJson field.2)) := by
  rw [ofJson]
  congr 1
  induction fields with
  | nil => rfl
  | cons field fields ih => rw [ofJson.ofFields, ih, List.map_cons]

end Yaml.Node

namespace Tree

theorem ofJson_array (items : List Json.Node) : ofJson (.array items) = .sequence (items.map ofJson) := by
  rw [ofJson]
  congr 1
  induction items with
  | nil => rfl
  | cons item items ih => rw [ofJson.ofItems, ih, List.map_cons]

theorem ofJson_object (fields : List (String × Json.Node)) :
    ofJson (.object fields) = .map (fields.map fun field => (.ofName field.1, ofJson field.2)) := by
  rw [ofJson]
  congr 1
  induction fields with
  | nil => rfl
  | cons field fields ih => rw [ofJson.ofFields, ih, List.map_cons]

/-- The key of an entry comes first. -/
def ofYamlEntry (entry : Yaml.Node × Yaml.Node) : Except Failure (Key × Tree) :=
  Key.ofYaml entry.1 >>= fun key => (ofYaml entry.2).map fun tree => (key, tree)

theorem ofYaml_sequence (items : List Yaml.Node) : ofYaml (.sequence items) = (items.mapM ofYaml).map .sequence := by
  rw [ofYaml]
  congr 1
  induction items with
  | nil => rfl
  | cons item items ih => rw [ofYaml.ofItems, ih, List.mapM_cons]

theorem ofYaml_mapping (entries : List (Yaml.Node × Yaml.Node)) :
    ofYaml (.mapping entries) = (entries.mapM ofYamlEntry).map .map := by
  rw [ofYaml]
  congr 1
  induction entries with
  | nil => rfl
  | cons entry entries ih =>
      rw [ofYaml.ofEntries, ih, List.mapM_cons, ofYamlEntry]
      cases Key.ofYaml entry.1 <;> cases ofYaml entry.2 <;> rfl

theorem ofYaml_ofJson (node : Json.Node) : ofYaml (.ofJson node) = .ok (.ofJson node) := by
  induction node with
  | null => rfl
  | bool b => rfl
  | int n => rw [Yaml.Node.ofJson, ofYaml, Scalar.ofYaml_eq_ofJson, ofJson]
  | float x => rfl
  | text s => rfl
  | array items ih =>
      have hitems : (items.map Yaml.Node.ofJson).mapM ofYaml = .ok (items.map ofJson) := by
        rw [mapM_eq_ok_iff, List.forall₂_map_left_iff, List.forall₂_map_right_iff]
        exact List.forall₂_same.mpr ih
      rw [Yaml.Node.ofJson_array, ofYaml_sequence, hitems, ofJson_array]
      rfl
  | object fields ih =>
      have hfields : (fields.map fun field => (Yaml.Node.text field.1, Yaml.Node.ofJson field.2)).mapM ofYamlEntry =
          .ok (fields.map fun field => (.ofName field.1, ofJson field.2)) := by
        rw [mapM_eq_ok_iff, List.forall₂_map_left_iff, List.forall₂_map_right_iff]
        refine List.forall₂_same.mpr fun field mem => ?_
        rw [ofYamlEntry, ih field mem]
        rfl
      rw [Yaml.Node.ofJson_object, ofYaml_mapping, hfields, ofJson_object]
      rfl

end Tree

/-! ### Keys that are no keys of a tree -/

namespace Yaml.Node

/-- Texts, booleans, and integers of 64 bits with a sign. -/
inductive IsKey : Node → Prop
  | text (s : String) : IsKey (.text s)
  | bool (b : Bool) : IsKey (.bool b)
  | int {n : Whole} (inRange : n.value ≤ Int64.maxValue.toInt) : IsKey (.int n)

/-- A key of some mapping, at any depth but not inside a tagged node. -/
inductive HasKey : Node → Node → Prop
  | here {entries : List (Node × Node)} {key value : Node} (mem : (key, value) ∈ entries) :
      HasKey (.mapping entries) key
  | inItem {items : List Node} {item key : Node} (mem : item ∈ items) (inside : HasKey item key) :
      HasKey (.sequence items) key
  | inKey {entries : List (Node × Node)} {entry : Node × Node} {key : Node} (mem : entry ∈ entries)
      (inside : HasKey entry.1 key) : HasKey (.mapping entries) key
  | inValue {entries : List (Node × Node)} {entry : Node × Node} {key : Node} (mem : entry ∈ entries)
      (inside : HasKey entry.2 key) : HasKey (.mapping entries) key

variable {node key : Node}

theorem IsKey.not_hasKey (isKey : node.IsKey) : ¬ node.HasKey key := by
  cases isKey <;> exact nofun

theorem forall_hasKey_sequence_iff {P : Node → Prop} {items : List Node} :
    (∀ key, HasKey (.sequence items) key → P key) ↔ ∀ item ∈ items, ∀ key, item.HasKey key → P key := by
  constructor
  · exact fun each item mem key inside => each key (.inItem mem inside)
  · rintro each key (_ | ⟨mem, inside⟩)
    exact each _ mem key inside

/-- Keys in a key need no look at them, as a key that has any can be no key of a tree itself. -/
theorem forall_hasKey_mapping_iff {entries : List (Node × Node)} :
    (∀ key, HasKey (.mapping entries) key → key.IsKey) ↔
      ∀ entry ∈ entries, entry.1.IsKey ∧ ∀ key, entry.2.HasKey key → key.IsKey := by
  constructor
  · exact fun each entry mem => ⟨each entry.1 (.here mem), fun key inside => each key (.inValue mem inside)⟩
  · rintro each key (mem | _ | ⟨mem, inside⟩ | ⟨mem, inside⟩)
    · exact (each _ mem).1
    · exact absurd inside (each _ mem).1.not_hasKey
    · exact (each _ mem).2 key inside

end Yaml.Node

namespace Key

variable {node : Yaml.Node}

theorem exists_ofYaml_eq_ok (isKey : node.IsKey) : ∃ key, ofYaml node = .ok key := by
  cases isKey with
  | text s => exact ⟨_, rfl⟩
  | bool b => exact ⟨_, rfl⟩
  | @int n inRange =>
      refine ⟨.index (Int64.ofInt n.value), ?_⟩
      rw [ofYaml, Whole.int64?, if_pos inRange]
      rfl

theorem ofYaml_eq_error (noKey : ¬ node.IsKey) :
    ofYaml node = .error (.invalid (.unsupportedMappingKey node.shown)) := by
  cases node with
  | text s => exact absurd (.text s) noKey
  | bool b => exact absurd (.bool b) noKey
  | int n =>
      rw [ofYaml, Whole.int64?, if_neg fun inRange => noKey (.int inRange)]
      rfl
  | _ => rfl

theorem exists_ofYaml_eq_ok_iff : (∃ key, ofYaml node = .ok key) ↔ node.IsKey := by
  refine ⟨?_, exists_ofYaml_eq_ok⟩
  rintro ⟨key, hkey⟩
  by_contra noKey
  cases (ofYaml_eq_error noKey).symm.trans hkey

theorem ofYaml_eq_error_iff {failure : Failure} :
    ofYaml node = .error failure ↔ ¬ node.IsKey ∧ failure = .invalid (.unsupportedMappingKey node.shown) := by
  by_cases isKey : node.IsKey
  · obtain ⟨key, hkey⟩ := exists_ofYaml_eq_ok isKey
    simp [hkey, isKey]
  · simp [ofYaml_eq_error isKey, isKey, eq_comm]

end Key

namespace Tree

theorem exists_ofYamlEntry_eq_ok_iff {entry : Yaml.Node × Yaml.Node} :
    (∃ read, ofYamlEntry entry = .ok read) ↔ entry.1.IsKey ∧ ∃ tree, ofYaml entry.2 = .ok tree := by
  rw [← Key.exists_ofYaml_eq_ok_iff]
  exact exists_bind_eq_ok_iff_and fun key _ => exists_map_eq_ok_iff

theorem exists_ofYaml_eq_ok_iff {node : Yaml.Node} :
    (∃ tree, ofYaml node = .ok tree) ↔ ∀ key, node.HasKey key → key.IsKey := by
  induction node with
  | sequence items ih =>
      rw [ofYaml_sequence, exists_map_eq_ok_iff, exists_mapM_eq_ok_iff, Yaml.Node.forall_hasKey_sequence_iff]
      exact forall₂_congr ih
  | mapping entries ih =>
      rw [ofYaml_mapping, exists_map_eq_ok_iff, exists_mapM_eq_ok_iff, Yaml.Node.forall_hasKey_mapping_iff]
      refine forall₂_congr fun entry mem => ?_
      rw [exists_ofYamlEntry_eq_ok_iff, (ih entry mem).2]
  | _ => exact iff_of_true ⟨_, rfl⟩ nofun

/-- How reading a node fails: it shows a key that is no key of a tree. -/
inductive Unreadable (node : Yaml.Node) : Failure → Prop
  | key {key : Yaml.Node} (has : node.HasKey key) (noKey : ¬ key.IsKey) :
      Unreadable node (.invalid (.unsupportedMappingKey key.shown))

theorem failsOnly_ofYaml (node : Yaml.Node) : FailsOnly (Unreadable node) (ofYaml node) := by
  induction node with
  | sequence items ih =>
      rw [ofYaml_sequence]
      refine FailsOnly.map (FailsOnly.mapM fun item mem failure failed => ?_) _
      obtain ⟨has, noKey⟩ := ih item mem failure failed
      exact .key (.inItem mem has) noKey
  | mapping entries ih =>
      rw [ofYaml_mapping]
      refine FailsOnly.map (FailsOnly.mapM fun entry mem => FailsOnly.bind ?key fun key => FailsOnly.map ?value _) _
      case key =>
          intro failure failed
          obtain ⟨noKey, rfl⟩ := Key.ofYaml_eq_error_iff.mp failed
          exact .key (.here mem) noKey
      case value =>
          intro failure failed
          obtain ⟨has, noKey⟩ := (ih entry mem).2 failure failed
          exact .key (.inValue mem has) noKey
  | _ => exact FailsOnly.ok _

/-- A node of JSON is read as what it is. Reading any node fails exactly when a mapping in it has a key that is no
key of a tree, and the failure shows one. -/
theorem ofYaml_alike :
    (∀ node : Json.Node, ofYaml (.ofJson node) = .ok (.ofJson node)) ∧
      ∀ node : Yaml.Node, ((∃ failure, ofYaml node = .error failure) ↔ ∃ key, node.HasKey key ∧ ¬ key.IsKey) ∧
        ∀ failure, ofYaml node = .error failure →
          ∃ key, node.HasKey key ∧ ¬ key.IsKey ∧ failure = .invalid (.unsupportedMappingKey key.shown) := by
  refine ⟨ofYaml_ofJson, fun node => ⟨?fails, fun failure failed => ?failure⟩⟩
  case fails =>
      constructor
      · rintro ⟨failure, failed⟩
        obtain ⟨has, noKey⟩ := failsOnly_ofYaml node failure failed
        exact ⟨_, has, noKey⟩
      · rintro ⟨key, has, noKey⟩
        cases hread : ofYaml node with
        | ok tree => exact absurd (exists_ofYaml_eq_ok_iff.mp ⟨tree, hread⟩ key has) noKey
        | error failure => exact ⟨failure, rfl⟩
  case failure =>
      obtain ⟨has, noKey⟩ := failsOnly_ofYaml node failure failed
      exact ⟨_, has, noKey, rfl⟩

end Tree

end ServiceContainer

import Mathlib.Data.List.Induction
import Mathlib.Logic.Basic
import ServiceContainer.Php.ContainerClass
import ServiceContainer.Proofs.Alias
import ServiceContainer.Proofs.Container
import ServiceContainer.Proofs.Text.Utf8

/-!
# Sequences of operations

A container is the outcome of the operations on it. Each operation writes some slots, an entry or a parameter
each, and leaves the others; so a slot holds what the last operation that wrote it put there, and in what order
the slots came to be written does not show.
-/

namespace ServiceContainer

/-- One operation on a container that is being configured. -/
inductive Operation where
  | setDefinition (id : ServiceId) (d : Definition)
  | setAlias (id target : ServiceId)
  | remove (id : ServiceId)
  /-- Changes a definition in place, if the id holds one. -/
  | modifyDefinition (id : ServiceId) (f : Definition → Definition)
  | setParameter (name : String) (value : Value)
  | addParameters (parameters : List (String × Value))
  /-- Takes over another container, itself the outcome of operations. -/
  | merge (operations : List Operation)

/-- A definition that is changed in place; an alias has nothing to change. -/
def Entry.modified (f : Definition → Definition) : Entry → Option Entry
  | .definition d => some (.definition (f d))
  | .alias _ => none

/-- What an operation can write. -/
inductive Slot where
  | entry (id : ServiceId)
  | parameter (key : ParameterKey)

namespace Slot

abbrev Content : Slot → Type
  | .entry _ => Entry
  | .parameter _ => Value

/-- The write of an entry, seen from a slot: nothing unless the slot is that of the id. -/
def ofEntry (id : ServiceId) (entry : Option Entry) : (slot : Slot) → Option (Option slot.Content)
  | .entry a => if id = a then some entry else none
  | .parameter _ => none

def ofModified (id : ServiceId) (f : Definition → Definition) :
    (slot : Slot) → Option slot.Content → Option (Option slot.Content)
  | .entry a, held => if id = a then (held.bind (Entry.modified f)).map some else none
  | .parameter _, _ => none

def ofParameter (name : String) (value : Value) : (slot : Slot) → Option (Option slot.Content)
  | .entry _ => none
  | .parameter key => if .ofName name = key then some (some value) else none

end Slot

namespace Operation

@[elab_as_elim, induction_eliminator]
theorem induction {P : Operation → Prop} (setDefinition : ∀ id d, P (.setDefinition id d))
    (setAlias : ∀ id target, P (.setAlias id target)) (remove : ∀ id, P (.remove id))
    (modifyDefinition : ∀ id f, P (.modifyDefinition id f)) (setParameter : ∀ name value, P (.setParameter name value))
    (addParameters : ∀ parameters, P (.addParameters parameters))
    (merge : ∀ operations, (∀ op ∈ operations, P op) → P (.merge operations)) (op : Operation) : P op := by
  refine @Operation.rec P (fun operations => ∀ op ∈ operations, P op) setDefinition setAlias remove modifyDefinition
    setParameter addParameters merge ?_ ?_ op
  · exact nofun
  · exact fun op operations hop hoperations => List.forall_mem_cons.mpr ⟨hop, hoperations⟩

/-- What an operation does; a failure leaves the container as it is. -/
def apply : Operation → Container → Container
  | .setDefinition id d, c => c.setDefinition id d
  | .setAlias id target, c => c.setAlias id target
  | .remove id, c => c.remove id
  | .modifyDefinition id f, c => (c.modifyDefinition id f).toOption.getD c
  | .setParameter name value, c => c.setParameter name value
  | .addParameters parameters, c => c.addParameters parameters
  | .merge operations, c => c.merge (applyAll operations .empty)
where
  applyAll : List Operation → Container → Container
    | [], c => c
    | op :: operations, c => applyAll operations (op.apply c)

/-- What an operation puts in a slot, given what is there: nothing if it does not write the slot, otherwise
new content or none. A merge writes what the other container holds, which is what was written there last. -/
def written (slot : Slot) : Operation → Option slot.Content → Option (Option slot.Content)
  | .setDefinition id d, _ => slot.ofEntry id (some (.definition d))
  | .setAlias id target, _ => slot.ofEntry id (some (.alias target))
  | .remove id, _ => slot.ofEntry id none
  | .modifyDefinition id f, held => slot.ofModified id f held
  | .setParameter name value, _ => slot.ofParameter name value
  | .addParameters parameters, _ => parameters.reverse.findSome? fun (name, value) => slot.ofParameter name value
  | .merge operations, _ => (lastOf operations none).join.map some
where
  lastOf : List Operation → Option (Option slot.Content) → Option (Option slot.Content)
    | [], last => last
    | op :: operations, last => lastOf operations ((op.written slot last.join).or last)

end Operation

/-! ### What slots hold -/

namespace Container

/-- The outcome of operations on an empty container. -/
def ofOperations (operations : List Operation) : Container := Operation.apply.applyAll operations empty

def held (c : Container) : (slot : Slot) → Option slot.Content
  | .entry id => c.entries[id]?
  | .parameter key => c.parameters[key]?

variable {c : Container}

theorem held_setEntry (id : ServiceId) (entry : Entry) (slot : Slot) :
    (c.setEntry id entry).held slot = (slot.ofEntry id (some entry)).getD (c.held slot) := by
  cases slot with
  | entry a =>
      rw [held, getElem?_setEntry, Slot.ofEntry]
      split <;> rfl
  | parameter key => rfl

theorem held_remove (id : ServiceId) (slot : Slot) :
    (c.remove id).held slot = (slot.ofEntry id none).getD (c.held slot) := by
  cases slot with
  | entry a =>
      simp only [held, remove, Std.ExtTreeMap.getElem?_erase, Std.compare_eq_iff_eq, Slot.ofEntry]
      split <;> rfl
  | parameter key => rfl

theorem held_setParameter (name : String) (value : Value) (slot : Slot) :
    (c.setParameter name value).held slot = (slot.ofParameter name value).getD (c.held slot) := by
  cases slot with
  | entry id => rfl
  | parameter key =>
      rw [held, getElem?_setParameter, Slot.ofParameter]
      split <;> rfl

theorem held_addParameters (parameters : List (String × Value)) (slot : Slot) :
    (c.addParameters parameters).held slot =
      (parameters.reverse.findSome? fun (name, value) => slot.ofParameter name value).getD (c.held slot) := by
  induction parameters generalizing c with
  | nil => rfl
  | cons parameter parameters ih =>
      obtain ⟨name, value⟩ := parameter
      rw [addParameters, List.foldl_cons, ← addParameters, ih, held_setParameter, List.reverse_cons,
        List.findSome?_append, List.findSome?_singleton, Option.getD_or]

theorem getD_modifyDefinition (id : ServiceId) (f : Definition → Definition) :
    (c.modifyDefinition id f).toOption.getD c = (c.entries[id]?.bind (Entry.modified f)).elim c (c.setEntry id) := by
  unfold modifyDefinition definition definition?
  rcases c.entries[id]? with _ | d | target <;> rfl

theorem held_modifyDefinition (id : ServiceId) (f : Definition → Definition) (slot : Slot) :
    ((c.modifyDefinition id f).toOption.getD c).held slot =
      (slot.ofModified id f (c.held slot)).getD (c.held slot) := by
  have written : slot.ofModified id f (c.held slot) = (c.entries[id]?.bind (Entry.modified f)).bind fun entry =>
      slot.ofEntry id (some entry) := by
    cases slot with
    | parameter key => cases c.entries[id]?.bind (Entry.modified f) <;> rfl
    | entry a =>
        rw [Slot.ofModified, held]
        split
        · subst a
          cases c.entries[id]?.bind (Entry.modified f) <;> simp [Slot.ofEntry]
        · cases c.entries[id]?.bind (Entry.modified f) <;> simp [Slot.ofEntry, *]
  rw [getD_modifyDefinition, written]
  cases c.entries[id]?.bind (Entry.modified f) with
  | none => rfl
  | some entry => exact held_setEntry id entry slot

theorem held_merge (other : Container) (slot : Slot) :
    (c.merge other).held slot = (other.held slot).or (c.held slot) := by
  cases slot with
  | entry id => exact Std.ExtTreeMap.getElem?_union
  | parameter key => exact Std.ExtTreeMap.getElem?_union

end Container

/-! ### Runs -/

namespace Operation

open Container

/-- The last write of a slot in a sequence of operations, new content or none; nothing if no operation writes it. -/
def lastWrite (slot : Slot) (operations : List Operation) : Option (Option slot.Content) :=
  written.lastOf slot operations none

def Writes (op : Operation) : Prop :=
  ∀ (c : Container) (slot : Slot), (op.apply c).held slot = (op.written slot (c.held slot)).getD (c.held slot)

theorem held_applyAll {operations : List Operation} (writes : ∀ op ∈ operations, op.Writes) {c : Container}
    {slot : Slot} {last : Option (Option slot.Content)} (hlast : c.held slot = last.join) :
    (apply.applyAll operations c).held slot = (written.lastOf slot operations last).join := by
  induction operations generalizing c last with
  | nil => exact hlast
  | cons op operations ih =>
      obtain ⟨hop, hoperations⟩ := List.forall_mem_cons.mp writes
      refine ih hoperations ?_
      rw [hop, hlast]
      cases op.written slot last.join <;> rfl

theorem held_ofOperations_of_writes {operations : List Operation} (writes : ∀ op ∈ operations, op.Writes)
    (slot : Slot) : (ofOperations operations).held slot = (lastWrite slot operations).join :=
  held_applyAll writes (by cases slot <;> exact Std.ExtTreeMap.getElem?_empty)

/-- What an operation writes is what is there behind it, and it leaves all other slots as they are. -/
theorem writes (op : Operation) : op.Writes := by
  induction op with
  | setDefinition id d => exact fun c slot => held_setEntry id (.definition d) slot
  | setAlias id target => exact fun c slot => held_setEntry id (.alias target) slot
  | remove id => exact fun c slot => held_remove id slot
  | modifyDefinition id f => exact fun c slot => held_modifyDefinition id f slot
  | setParameter name value => exact fun c slot => held_setParameter name value slot
  | addParameters parameters => exact fun c slot => held_addParameters parameters slot
  | merge operations ih =>
      intro c slot
      have hother : (apply.applyAll operations empty).held slot = (written.lastOf slot operations none).join :=
        held_ofOperations_of_writes ih slot
      rw [apply, written, held_merge, hother]
      cases (written.lastOf slot operations none).join <;> rfl

theorem held_ofOperations (operations : List Operation) (slot : Slot) :
    (ofOperations operations).held slot = (lastWrite slot operations).join :=
  held_ofOperations_of_writes (fun op _ => op.writes) slot

section LastWrite

variable {slot : Slot} {operations : List Operation}

theorem lastOf_append (front back : List Operation) (last : Option (Option slot.Content)) :
    written.lastOf slot (front ++ back) last = written.lastOf slot back (written.lastOf slot front last) := by
  induction front generalizing last with
  | nil => rfl
  | cons op front ih => exact ih _

theorem lastWrite_concat (operations : List Operation) (op : Operation) :
    lastWrite slot (operations ++ [op]) =
      (op.written slot (lastWrite slot operations).join).or (lastWrite slot operations) :=
  lastOf_append operations [op] none

/-- Nothing is ever written exactly when no operation writes the empty slot. -/
theorem lastWrite_eq_none_iff : lastWrite slot operations = none ↔ ∀ op ∈ operations, op.written slot none = none := by
  induction operations using List.reverseRecOn with
  | nil => exact iff_of_true rfl nofun
  | append_singleton operations op ih =>
      rw [lastWrite_concat, Option.or_eq_none_iff, List.forall_mem_append, List.forall_mem_singleton, ih, and_comm]
      refine and_congr_right fun unwritten => ?_
      rw [ih.mpr unwritten]
      rfl

/-- The last write is that of an operation behind which no other writes the slot. -/
theorem lastWrite_eq_some_iff {content : Option slot.Content} :
    lastWrite slot operations = some content ↔
      ∃ front op back, operations = front ++ op :: back ∧
        op.written slot (lastWrite slot front).join = some content ∧
          ∀ later ∈ back, later.written slot content = none := by
  induction operations using List.reverseRecOn with
  | nil => exact iff_of_false nofun (by simp)
  | append_singleton operations op ih =>
      rw [lastWrite_concat]
      constructor
      · intro hlast
        cases hwritten : op.written slot (lastWrite slot operations).join with
        | some content' =>
            rw [hwritten, Option.some_or] at hlast
            exact ⟨operations, op, [], rfl, hwritten.trans hlast, nofun⟩
        | none =>
            rw [hwritten, Option.none_or] at hlast
            obtain ⟨front, writer, back, rfl, hwriter, later⟩ := ih.mp hlast
            rw [hlast] at hwritten
            refine ⟨front, writer, back ++ [op], by simp, hwriter, ?_⟩
            exact List.forall_mem_append.mpr ⟨later, List.forall_mem_singleton.mpr hwritten⟩
      · rintro ⟨front, writer, back, heq, hwriter, later⟩
        rcases List.eq_nil_or_concat back with rfl | ⟨back, last, rfl⟩
        · obtain ⟨rfl, hop⟩ := List.append_inj' heq rfl
          cases hop
          rw [hwriter, Option.some_or]
        · rw [List.concat_eq_append, ← List.cons_append, ← List.append_assoc] at heq
          obtain ⟨rfl, hop⟩ := List.append_inj' heq rfl
          cases hop
          rw [List.concat_eq_append] at later
          obtain ⟨later, unwritten⟩ := List.forall_mem_append.mp later
          rw [ih.mpr ⟨front, writer, back, rfl, hwriter, later⟩, Option.join_some,
            unwritten op (List.mem_singleton_self op), Option.none_or]

end LastWrite

end Operation

/-! ### Listings -/

namespace Container

/-- Strictly ascending by the UTF-8 of the keys, so that no key stands twice. -/
def Ascending {α : Type} (key : α → String) (entries : List α) : Prop :=
  entries.Pairwise fun a b => Text.utf8 (key a) < Text.utf8 (key b)

/-- What is listed is what is found, in ascending order, and each listed id is a definition or an alias. -/
structure Consistent (c : Container) : Prop where
  ids : Ascending id c.ids
  entries : Ascending (·.1) c.entries.toList
  definitions : Ascending (·.1) c.definitions
  aliases : Ascending (·.1) c.aliases
  parameters : Ascending (·.1.text) c.parameters.toList
  mem_ids_iff : ∀ id, id ∈ c.ids ↔ id ∈ c.entries
  mem_entries_iff : ∀ id entry, (id, entry) ∈ c.entries.toList ↔ c.entries[id]? = some entry
  mem_definitions_iff : ∀ id d, (id, d) ∈ c.definitions ↔ c.definition? id = some d
  mem_aliases_iff : ∀ id target, (id, target) ∈ c.aliases ↔ c.alias? id = some target
  mem_aliasesOf_iff : ∀ id other target, (other, target) ∈ c.aliasesOf id ↔ target = id ∧ c.alias? other = some target
  mem_parameters_iff : ∀ key value, (key, value) ∈ c.parameters.toList ↔ c.parameters[key]? = some value
  exclusive : ∀ id ∈ c.ids, Xor (c.definition? id).isSome (c.alias? id).isSome
  unlisted : ∀ id ∉ c.ids, c.definition? id = none ∧ c.alias? id = none

theorem Ascending.filterMap {α β : Type} {key : α → String} {key' : β → String} {f : α → Option β} {entries : List α}
    (ascending : Ascending key entries) (keeps : ∀ a b, f a = some b → key' b = key a) :
    Ascending key' (entries.filterMap f) := by
  refine List.Pairwise.filterMap f (fun a a' hlt b hb b' hb' => ?_) ascending
  rwa [keeps a b hb, keeps a' b' hb']

theorem ascending_entries (c : Container) : Ascending (·.1) c.entries.toList :=
  Std.ExtTreeMap.ordered_keys_toList.imp fun hlt => Text.utf8_lt_utf8 (compare_lt_iff_lt.mp hlt)

theorem consistent (c : Container) : c.Consistent where
  ids := by
    have ordered : c.entries.keys.Pairwise fun a b => compare a b = .lt := Std.ExtTreeMap.ordered_keys
    exact ordered.imp fun hlt => Text.utf8_lt_utf8 (compare_lt_iff_lt.mp hlt)
  entries := ascending_entries c
  definitions := (ascending_entries c).filterMap (by rintro ⟨id, _ | _⟩ _ ⟨⟩; rfl)
  aliases := (ascending_entries c).filterMap (by rintro ⟨id, _ | _⟩ _ ⟨⟩; rfl)
  parameters := by
    have ordered : c.parameters.toList.Pairwise fun a b => compare a.1 b.1 = .lt := Std.ExtTreeMap.ordered_keys_toList
    refine ordered.imp fun {a b} hlt => Text.utf8_lt_utf8 ?_
    exact compare_lt_iff_lt (a := a.1.text).mp hlt
  mem_ids_iff _ := Std.ExtTreeMap.mem_keys
  mem_entries_iff _ _ := Std.ExtTreeMap.mem_toList_iff_getElem?_eq_some
  mem_definitions_iff _ _ := mem_definitions.trans definition?_eq_some_iff.symm
  mem_aliases_iff _ _ := mem_aliases.trans alias?_eq_some_iff.symm
  mem_aliasesOf_iff id other target := by
    rw [aliasesOf, List.mem_filter, mem_aliases, Leads, alias?_eq_some_iff, decide_eq_true_eq, and_comm]
  mem_parameters_iff _ _ := Std.ExtTreeMap.mem_toList_iff_getElem?_eq_some
  exclusive id mem := by
    rw [ids, Std.ExtTreeMap.mem_keys, Std.ExtTreeMap.mem_iff_isSome_getElem?] at mem
    unfold definition? alias?
    revert mem
    rcases c.entries[id]? with _ | _ | _
    · exact fun mem => absurd mem Bool.false_ne_true
    · exact fun _ => Or.inl ⟨rfl, Bool.false_ne_true⟩
    · exact fun _ => Or.inr ⟨rfl, Bool.false_ne_true⟩
  unlisted id unlisted := by
    rw [ids, Std.ExtTreeMap.mem_keys] at unlisted
    rw [definition?, alias?, Std.ExtTreeMap.getElem?_eq_none unlisted]
    exact ⟨rfl, rfl⟩

theorem ext_held {c c' : Container} (same : ∀ slot, c.held slot = c'.held slot) : c = c' := by
  obtain ⟨entries, parameters⟩ := c
  obtain ⟨entries', parameters'⟩ := c'
  have hentries : entries = entries' := Std.ExtTreeMap.ext_getElem? fun {id} => same (.entry id)
  have hparameters : parameters = parameters' := Std.ExtTreeMap.ext_getElem? fun {key} => same (.parameter key)
  rw [hentries, hparameters]

/-- After any operations, what is listed is in order and consistent, and each slot holds what was written there
last: by the operation behind which no other writes the slot. So operations that leave the same last writes leave
the same container, and the same generated class. -/
theorem ofOperations_lastWrite (operations : List Operation) :
    (ofOperations operations).Consistent ∧
    (∀ slot, (ofOperations operations).held slot = (Operation.lastWrite slot operations).join) ∧
    (∀ slot content, Operation.lastWrite slot operations = some content ↔
      ∃ front op back, operations = front ++ op :: back ∧
        op.written slot ((ofOperations front).held slot) = some content ∧
          ∀ later ∈ back, later.written slot content = none) ∧
    (∀ slot, Operation.lastWrite slot operations = none ↔ ∀ op ∈ operations, op.written slot none = none) ∧
    ∀ others, (∀ slot, Operation.lastWrite slot others = Operation.lastWrite slot operations) →
      ofOperations others = ofOperations operations ∧ ∀ names,
        Php.containerClass names (ofOperations others) = Php.containerClass names (ofOperations operations) := by
  refine ⟨consistent _, Operation.held_ofOperations operations, fun slot content => ?_,
    fun slot => Operation.lastWrite_eq_none_iff, fun others same => ?_⟩
  · simp only [Operation.held_ofOperations]
    exact Operation.lastWrite_eq_some_iff
  · have heq : ofOperations others = ofOperations operations := by
      refine ext_held fun slot => ?_
      rw [Operation.held_ofOperations, Operation.held_ofOperations, same slot]
    exact ⟨heq, fun names => by rw [heq]⟩

end Container

end ServiceContainer

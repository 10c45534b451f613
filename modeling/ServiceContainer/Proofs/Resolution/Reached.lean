import ServiceContainer.Proofs.Operations
import ServiceContainer.Proofs.Resolution.Resolvable

/-!
# What resolution depends on

A lookup goes from a parameter to those that its stored value refers to, and so never leaves what a value
reaches. Where two containers store the same under all of that, each lookup runs alike in both, to the same
value or the same failure; and operations that leave it alone leave the outcome alone.
-/

namespace ServiceContainer

open Relation (ReflTransGen)

namespace Container

variable {c c' : Container} {v : Value} {key : ParameterKey}

/-! ### Containers that agree on what is reached -/

/-- Under all that is read from a key on, both containers store the same or nothing. -/
def AgreeBelow (c c' : Container) (key : ParameterKey) : Prop :=
  ∀ other, ReflTransGen c.Reads other key → c'.parameters[other]? = c.parameters[other]?

theorem AgreeBelow.here (agree : c.AgreeBelow c' key) : c'.parameters[key]? = c.parameters[key]? :=
  agree key ReflTransGen.refl

theorem AgreeBelow.read {other : ParameterKey} (agree : c.AgreeBelow c' key) (reads : c.Reads other key) :
    c.AgreeBelow c' other :=
  fun inner path => agree inner (path.tail reads)

/-- The lookups of both containers go the same way, whatever is pending and however they end. -/
theorem AgreeBelow.lookup_eq {pending : List ParameterKey} (agree : c.AgreeBelow c' key) :
    c'.lookup pending key = c.lookup pending key := by
  induction pending, key using lookup.induct c with
  | case1 pending key mem => rw [lookup, lookup, if_pos mem, if_pos mem]
  | case2 pending key new unset =>
      rw [lookup_of_not_found new unset, lookup_of_not_found new (agree.here.trans unset)]
  | case3 pending key new stored found ih =>
      rw [lookup_eq_substitute new found, lookup_eq_substitute new (agree.here.trans found)]
      exact Value.substitute_congr fun other mem => ih other (agree.read ⟨stored, found, mem⟩)

/-- Under all that a value reaches, both containers store the same or nothing. -/
def AgreeOn (c c' : Container) (v : Value) : Prop :=
  ∀ key, c.Reaches v key → c'.parameters[key]? = c.parameters[key]?

theorem AgreeOn.below (agree : c.AgreeOn c' v) (mem : key ∈ v.parameters) : c.AgreeBelow c' key :=
  fun other path => agree other ⟨key, mem, path⟩

theorem AgreeOn.reaches (agree : c.AgreeOn c' v) (reaches : c'.Reaches v key) : c.Reaches v key := by
  obtain ⟨start, mem, path⟩ := reaches
  induction path using ReflTransGen.head_induction_on with
  | refl => exact Reaches.of_mem mem
  | head reads _ ih =>
      obtain ⟨stored, found, hread⟩ := reads
      exact ih.read ⟨stored, (agree _ ih).symm.trans found, hread⟩

theorem AgreeOn.symm (agree : c.AgreeOn c' v) : c'.AgreeOn c v :=
  fun key reaches => (agree key (agree.reaches reaches)).symm

theorem AgreeOn.reaches_iff (agree : c.AgreeOn c' v) : c'.Reaches v key ↔ c.Reaches v key :=
  ⟨agree.reaches, agree.symm.reaches⟩

theorem AgreeOn.resolve_eq (agree : c.AgreeOn c' v) : c'.resolve v = c.resolve v :=
  Value.substitute_congr fun _ mem => (agree.below mem).lookup_eq

end Container

/-! ### Operations that leave parameters alone -/

namespace Operation

/-- The operation sets none of the given parameters. What it does to services does not matter. -/
inductive Spares (keys : ParameterKey → Prop) : Operation → Prop
  | setDefinition (id : ServiceId) (d : Definition) : Spares keys (.setDefinition id d)
  | setAlias (id target : ServiceId) : Spares keys (.setAlias id target)
  | remove (id : ServiceId) : Spares keys (.remove id)
  | modifyDefinition (id : ServiceId) (f : Definition → Definition) : Spares keys (.modifyDefinition id f)
  | setParameter {name : String} (other : ¬ keys (.ofName name)) (value : Value) :
      Spares keys (.setParameter name value)
  | addParameters {parameters : List (String × Value)} (others : ∀ p ∈ parameters, ¬ keys (.ofName p.1)) :
      Spares keys (.addParameters parameters)
  | merge {operations : List Operation} (each : ∀ op ∈ operations, Spares keys op) : Spares keys (.merge operations)

variable {keys : ParameterKey → Prop} {key : ParameterKey}

theorem ofParameter_of_other {name : String} (hkey : keys key) (other : ¬ keys (.ofName name)) (value : Value) :
    (Slot.parameter key).ofParameter name value = none := by
  refine if_neg ?_
  rintro rfl
  exact other hkey

theorem Spares.written_eq_none {op : Operation} (spares : op.Spares keys) (hkey : keys key) (held : Option Value) :
    op.written (.parameter key) held = none := by
  induction spares generalizing held with
  | setDefinition | setAlias | remove | modifyDefinition => rfl
  | setParameter other value => exact ofParameter_of_other hkey other value
  | addParameters others =>
      refine List.findSome?_eq_none_iff.mpr fun p mem => ?_
      exact ofParameter_of_other hkey (others p (List.mem_reverse.mp mem)) p.2
  | @merge operations _ ih =>
      have unwritten : lastWrite (.parameter key) operations = none :=
        lastWrite_eq_none_iff.mpr fun op mem => ih op mem none
      rw [written, ← lastWrite, unwritten]
      rfl

theorem Spares.getElem?_apply {op : Operation} (spares : op.Spares keys) (hkey : keys key) (c : Container) :
    (op.apply c).parameters[key]? = c.parameters[key]? := by
  have held := op.writes c (.parameter key)
  rwa [spares.written_eq_none hkey, Option.getD_none] at held

theorem getElem?_applyAll_of_spares {operations : List Operation} (spares : ∀ op ∈ operations, op.Spares keys)
    (hkey : keys key) (c : Container) : (apply.applyAll operations c).parameters[key]? = c.parameters[key]? := by
  induction operations generalizing c with
  | nil => rfl
  | cons op operations ih =>
      obtain ⟨hop, hoperations⟩ := List.forall_mem_cons.mp spares
      rw [apply.applyAll, ih hoperations, hop.getElem?_apply hkey]

end Operation

/-- A value resolves alike, to a value or a failure, in all containers that store the same under what it reaches
in one of them, and it reaches the same there. So no operations on services change how it resolves, and none that
set other parameters. -/
theorem Container.resolve_of_agreeOn (c : Container) (v : Value) :
    (∀ c', c.AgreeOn c' v → c'.resolve v = c.resolve v ∧ ∀ key, c'.Reaches v key ↔ c.Reaches v key) ∧
    ∀ operations : List Operation, (∀ op ∈ operations, op.Spares (c.Reaches v)) →
      (Operation.apply.applyAll operations c).resolve v = c.resolve v := by
  refine ⟨fun c' agree => ⟨agree.resolve_eq, fun key => agree.reaches_iff⟩, fun operations spares => ?_⟩
  have agree : c.AgreeOn (Operation.apply.applyAll operations c) v :=
    fun key reaches => Operation.getElem?_applyAll_of_spares spares reaches c
  exact agree.resolve_eq

end ServiceContainer

import ServiceContainer.Php.ContainerClass
import ServiceContainer.Proofs.Accessor
import ServiceContainer.Proofs.Result
import ServiceContainer.Proofs.Value

/-!
# What can be written

A class is generated when everything in a container can be written: values that hold no object, and names that
can stand in code as they are. Each function that writes a part succeeds exactly when that part can be written.
-/

namespace ServiceContainer

/-- No object stands in a value, at any depth. -/
inductive Value.Writable : Value → Prop
  | scalar (s : Scalar) : Writable (.scalar s)
  | list {items : List (Key × Value)} (writable : ∀ item ∈ items, Writable item.2) : Writable (.list items)
  | service (id : ServiceId) : Writable (.service id)
  | parameter (key : ParameterKey) : Writable (.parameter key)
  | template (segments : List (Segment ParameterKey)) : Writable (.template segments)

structure Arguments.Writable (arguments : Arguments) : Prop where
  values : ∀ argument ∈ arguments, argument.2.Writable
  names : ∀ argument ∈ arguments, ∀ name ∈ argument.1.name?, isIdentifier name = true
  positionalFirst : arguments.Pairwise fun earlier later => earlier.1.name?.isSome → later.1.name?.isSome

structure MethodCall.Writable (call : MethodCall) : Prop where
  method : isIdentifier call.method = true
  arguments : Arguments.Writable call.arguments

/-- The method of a target that is not named literally goes into a string, so it may be anything. -/
inductive Configurator.Writable : Configurator → Prop
  | function {name : String} (isName : isQualifiedName name = true) : Writable (.function name)
  | serviceMethod (service : ServiceId) {method : String} (isMethod : isIdentifier method = true) :
      Writable (.serviceMethod service method)
  | classMethod {name method : String} (isName : isQualifiedName name = true)
      (isMethod : isIdentifier method = true) : Writable (.classMethod name method)
  | staticMethod {target : Value} (writable : target.Writable) (method : String) :
      Writable (.staticMethod target method)

structure Definition.Writable (d : Definition) : Prop where
  className : d.className.Writable
  isName : ∀ name, d.className = .text name → isQualifiedName name = true
  factory : ∀ method ∈ d.factory, isIdentifier method = true
  file : ∀ file ∈ d.file, file.Writable
  arguments : Arguments.Writable d.arguments
  calls : ∀ call ∈ d.calls, call.Writable
  configurator : ∀ configurator ∈ d.configurator, configurator.Writable

namespace Php

/-! ### Values -/

theorem entries_eq_mapM (place : Place) (items : List (Key × Value)) :
    value.entries place items =
      items.mapM fun entry => (value place entry.2).map fun text => key entry.1 ++ " => " ++ text := by
  induction items with
  | nil => rfl
  | cons entry items ih =>
      rw [List.mapM_cons, ← ih, value.entries]
      cases value place entry.2 <;> rfl

theorem exists_entries_iff {place : Place} {items : List (Key × Value)} :
    (∃ texts, value.entries place items = .ok texts) ↔ ∀ item ∈ items, ∃ text, value place item.2 = .ok text := by
  simp only [entries_eq_mapM, exists_mapM_eq_ok_iff, exists_map_eq_ok_iff]

theorem exists_value_iff {place : Place} {v : Value} : (∃ text, value place v = .ok text) ↔ v.Writable := by
  induction v with
  | scalar s =>
      refine iff_of_true ?_ (.scalar s)
      cases s <;> exact ⟨_, rfl⟩
  | list items ih =>
      rw [value, exists_map_eq_ok_iff, exists_entries_iff]
      constructor
      · intro each
        refine .list fun item mem => ?_
        exact (ih item mem).mp (each item mem)
      · intro writable item mem
        cases writable with
        | list items => exact (ih item mem).mpr (items item mem)
  | service id => exact iff_of_true ⟨_, rfl⟩ (.service id)
  | parameter key => exact iff_of_true ⟨_, rfl⟩ (.parameter key)
  | template segments => exact iff_of_true ⟨_, rfl⟩ (.template segments)
  | object type => exact iff_of_false nofun nofun

/-! ### Names and arguments -/

section Part

variable {id : ServiceId}

theorem checkName_eq_ok_iff {role : NameRole} {valid : String → Bool} {name : String} {u : Unit} :
    checkName id role valid name = .ok u ↔ valid name = true := by
  unfold checkName
  split
  · rename_i hvalid
    exact iff_of_true rfl hvalid
  · rename_i hvalid
    exact iff_of_false nofun hvalid

/-- What is written behind a check of a name. -/
theorem exists_checkName_bind_iff {α : Type} {role : NameRole} {valid : String → Bool} {name : String}
    {rest : Except Failure α} :
    (∃ a, (checkName id role valid name >>= fun _ => rest) = .ok a) ↔ valid name = true ∧ ∃ a, rest = .ok a := by
  rw [exists_bind_eq_ok_iff_and fun _ _ => Iff.rfl]
  simp only [checkName_eq_ok_iff, exists_const]

theorem exists_argumentsFrom_cons_iff {named : Bool} {k : Key} {v : Value} {arguments : Arguments} :
    (∃ texts, argumentsFrom id named ((k, v) :: arguments) = .ok texts) ↔
      (named = true → k.name?.isSome = true) ∧ (∀ name ∈ k.name?, isIdentifier name = true) ∧ v.Writable ∧
        ∃ texts, argumentsFrom id k.name?.isSome arguments = .ok texts := by
  have written : (∃ texts, (codeValue v >>= fun text => argumentsFrom id k.name?.isSome arguments >>= fun texts =>
      pure (k.name?.elim text (fun name => name ++ ": " ++ text) :: texts)) = .ok texts) ↔ v.Writable ∧
      ∃ texts, argumentsFrom id k.name?.isSome arguments = .ok texts := by
    rw [← exists_value_iff]
    exact exists_bind_eq_ok_iff_and fun _ _ => exists_bind_pure_eq_ok_iff
  rw [← written]
  cases k with
  | index n =>
      rw [argumentsFrom]
      by_cases hnamed : named = true
      · rw [if_pos hnamed]
        refine iff_of_false nofun fun each => ?_
        cases each.1 hnamed
      · rw [if_neg hnamed]
        constructor
        · intro found
          exact ⟨fun h => absurd h hnamed, nofun, found⟩
        · intro each
          exact each.2.2
  | name name =>
      rw [argumentsFrom, exists_checkName_bind_iff]
      constructor
      · rintro ⟨hname, found⟩
        refine ⟨fun _ => rfl, ?_, found⟩
        rintro _ ⟨⟩
        exact hname
      · rintro ⟨-, hname, found⟩
        exact ⟨hname name rfl, found⟩

theorem writable_arguments_cons_iff {argument : Key × Value} {arguments : Arguments} :
    Arguments.Writable (argument :: arguments) ↔
      argument.2.Writable ∧ (∀ name ∈ argument.1.name?, isIdentifier name = true) ∧
        (∀ later ∈ arguments, argument.1.name?.isSome → later.1.name?.isSome) ∧ Arguments.Writable arguments := by
  constructor
  · rintro ⟨values, names, positionalFirst⟩
    obtain ⟨value, values⟩ := List.forall_mem_cons.mp values
    obtain ⟨name, names⟩ := List.forall_mem_cons.mp names
    obtain ⟨first, positionalFirst⟩ := List.pairwise_cons.mp positionalFirst
    exact ⟨value, name, first, values, names, positionalFirst⟩
  · rintro ⟨value, name, first, values, names, positionalFirst⟩
    exact ⟨List.forall_mem_cons.mpr ⟨value, values⟩, List.forall_mem_cons.mpr ⟨name, names⟩,
      List.pairwise_cons.mpr ⟨first, positionalFirst⟩⟩

/-- Behind a named argument there must be named ones only. -/
theorem exists_argumentsFrom_iff {named : Bool} {arguments : Arguments} :
    (∃ texts, argumentsFrom id named arguments = .ok texts) ↔
      Arguments.Writable arguments ∧ (named = true → ∀ argument ∈ arguments, argument.1.name?.isSome = true) := by
  induction arguments generalizing named with
  | nil => exact iff_of_true ⟨[], rfl⟩ ⟨⟨nofun, nofun, .nil⟩, fun _ => nofun⟩
  | cons argument arguments ih =>
      obtain ⟨k, v⟩ := argument
      rw [exists_argumentsFrom_cons_iff, ih, writable_arguments_cons_iff, List.forall_mem_cons]
      -- an index key behind a name is refused, so for the rest the flag only says what this key is
      constructor
      · rintro ⟨hnamed, name, value, writable, first⟩
        exact ⟨⟨value, name, fun later mem hk => first hk later mem, writable⟩,
          fun h => ⟨hnamed h, first (hnamed h)⟩⟩
      · rintro ⟨⟨value, name, first, writable⟩, hnamed⟩
        exact ⟨fun h => (hnamed h).1, name, value, writable, fun hk later mem => first later mem hk⟩

theorem exists_arguments_iff {args : Arguments} :
    (∃ text, arguments id args = .ok text) ↔ Arguments.Writable args := by
  rw [arguments, exists_map_eq_ok_iff, exists_argumentsFrom_iff]
  exact and_iff_left nofun

/-! ### Definitions -/

theorem exists_call_iff {c : MethodCall} : (∃ text, call id c = .ok text) ↔ c.Writable := by
  rw [call, exists_checkName_bind_iff, exists_bind_pure_eq_ok_iff, exists_arguments_iff]
  constructor
  · rintro ⟨method, arguments⟩
    exact ⟨method, arguments⟩
  · rintro ⟨method, arguments⟩
    exact ⟨method, arguments⟩

theorem exists_configurator_iff {c : Configurator} : (∃ text, configurator id c = .ok text) ↔ c.Writable := by
  cases c with
  | function name =>
      rw [configurator, exists_checkName_bind_iff]
      refine ⟨fun both => .function both.1, fun writable => ?_⟩
      cases writable with
      | function isName => exact ⟨isName, _, rfl⟩
  | serviceMethod service method =>
      rw [configurator, exists_checkName_bind_iff]
      refine ⟨fun both => .serviceMethod service both.1, fun writable => ?_⟩
      cases writable with
      | serviceMethod _ isMethod => exact ⟨isMethod, _, rfl⟩
  | classMethod name method =>
      rw [configurator, exists_checkName_bind_iff, exists_checkName_bind_iff]
      refine ⟨fun each => .classMethod each.1 each.2.1, fun writable => ?_⟩
      cases writable with
      | classMethod isName isMethod => exact ⟨isName, isMethod, _, rfl⟩
  | staticMethod target method =>
      rw [configurator, exists_bind_pure_eq_ok_iff]
      refine exists_value_iff.trans ⟨fun writable => .staticMethod writable method, fun writable => ?_⟩
      cases writable with
      | staticMethod htarget _ => exact htarget

/-! ### Construction -/

variable {d : Definition}

theorem text?_eq_some_iff {v : Value} {s : String} : v.text? = some s ↔ v = .scalar (.text s) := by
  unfold Value.text?
  split
  · simp
  · rename_i other
    exact iff_of_false nofun fun heq => other s heq

theorem construction_of_factory_eq_none (hclass : d.className.text? = none) (hfactory : d.factory = none) :
    d.construction = .newDynamic d.className := by
  unfold Definition.construction
  rw [hfactory]
  split
  · contradiction
  · rename_i heq
    rw [heq] at hclass
    cases hclass
  · rfl

/-- A class that is named literally is written as its name. -/
theorem exists_construction_named_iff {name : String} (hclass : d.className = .scalar (.text name)) :
    (∃ text, construction id d = .ok text) ↔
      Arguments.Writable d.arguments ∧ isQualifiedName name = true ∧
        ∀ method ∈ d.factory, isIdentifier method = true := by
  have harguments : (∃ args, arguments id d.arguments = .ok args) ↔ Arguments.Writable d.arguments :=
    exists_arguments_iff
  rw [construction, ← harguments]
  refine exists_bind_eq_ok_iff_and fun args _ => ?_
  cases hfactory : d.factory with
  | none =>
      simp only [Definition.construction, hfactory, hclass]
      rw [exists_checkName_bind_iff]
      exact ⟨fun both => ⟨both.1, nofun⟩, fun both => ⟨both.1, _, rfl⟩⟩
  | some method =>
      simp only [Definition.construction, hfactory, hclass, Option.mem_some_iff, forall_eq']
      rw [exists_checkName_bind_iff, exists_checkName_bind_iff]
      exact ⟨fun each => ⟨each.2.1, each.1⟩, fun both => ⟨both.2, both.1, _, rfl⟩⟩

/-- Any other class is written as a value. -/
theorem exists_construction_dynamic_iff (hclass : d.className.text? = none) :
    (∃ text, construction id d = .ok text) ↔
      Arguments.Writable d.arguments ∧ d.className.Writable ∧ ∀ method ∈ d.factory, isIdentifier method = true := by
  have harguments : (∃ args, arguments id d.arguments = .ok args) ↔ Arguments.Writable d.arguments :=
    exists_arguments_iff
  have hclassName : (∃ text, codeValue d.className = .ok text) ↔ d.className.Writable := exists_value_iff
  rw [construction, ← harguments, ← hclassName]
  refine exists_bind_eq_ok_iff_and fun args _ => ?_
  cases hfactory : d.factory with
  | none =>
      rw [construction_of_factory_eq_none hclass hfactory]
      exact exists_bind_pure_eq_ok_iff.trans (and_iff_left nofun).symm
  | some method =>
      simp only [Definition.construction, hfactory, Option.mem_some_iff, forall_eq']
      rw [exists_checkName_bind_iff]
      split
      · rename_i heq
        rw [heq] at hclass
        cases hclass
      · rw [exists_bind_pure_eq_ok_iff]
        exact and_comm

theorem exists_construction_iff :
    (∃ text, construction id d = .ok text) ↔
      Arguments.Writable d.arguments ∧ d.className.Writable ∧
        (∀ name, d.className = .text name → isQualifiedName name = true) ∧
        ∀ method ∈ d.factory, isIdentifier method = true := by
  cases htext : d.className.text? with
  | some name =>
      have hclass := text?_eq_some_iff.mp htext
      rw [exists_construction_named_iff hclass, hclass]
      refine and_congr_right fun _ => ?_
      constructor
      · rintro ⟨isName, factory⟩
        refine ⟨.scalar _, ?_, factory⟩
        rintro _ ⟨⟩
        exact isName
      · rintro ⟨-, isName, factory⟩
        exact ⟨isName name rfl, factory⟩
  | none =>
      rw [exists_construction_dynamic_iff htext]
      refine and_congr_right fun _ => and_congr_right fun _ => (and_iff_right ?_).symm
      intro name hclass
      rw [hclass] at htext
      cases htext

theorem exists_definitionBody_iff : (∃ text, definitionBody id d = .ok text) ↔ d.Writable := by
  have hfile : (∃ file, d.file.mapM codeValue = .ok file) ↔ ∀ file ∈ d.file, file.Writable := by
    rw [exists_option_mapM_eq_ok_iff]
    exact forall₂_congr fun _ _ => exists_value_iff
  have hcalls : (∃ calls, d.calls.mapM (call id) = .ok calls) ↔ ∀ call ∈ d.calls, call.Writable := by
    rw [exists_mapM_eq_ok_iff]
    exact forall₂_congr fun _ _ => exists_call_iff
  have hconfigurator : (∃ configured, d.configurator.mapM (configurator id) = .ok configured) ↔
      ∀ configurator ∈ d.configurator, configurator.Writable := by
    rw [exists_option_mapM_eq_ok_iff]
    exact forall₂_congr fun _ _ => exists_configurator_iff
  have hbody : (∃ text, definitionBody id d = .ok text) ↔
      (∃ file, d.file.mapM codeValue = .ok file) ∧ (∃ built, construction id d = .ok built) ∧
        (∃ calls, d.calls.mapM (call id) = .ok calls) ∧
        ∃ configured, d.configurator.mapM (configurator id) = .ok configured :=
    exists_bind_eq_ok_iff_and fun _ _ => exists_bind_eq_ok_iff_and fun _ _ => exists_bind_eq_ok_iff_and fun _ _ =>
      exists_bind_pure_eq_ok_iff
  rw [hbody, hfile, exists_construction_iff, hcalls, hconfigurator]
  constructor
  · rintro ⟨file, ⟨arguments, className, isName, factory⟩, calls, configurator⟩
    exact { className, isName, factory, file, arguments, calls, configurator }
  · rintro ⟨className, isName, factory, file, arguments, calls, configurator⟩
    exact ⟨file, ⟨arguments, className, isName, factory⟩, calls, configurator⟩

theorem exists_accessor_iff {name : String} {entry : Entry} :
    (∃ text, accessor id name entry = .ok text) ↔ ∀ d, entry = .definition d → d.Writable := by
  rcases entry with d | target
  · rw [accessor, exists_map_eq_ok_iff, exists_definitionBody_iff]
    refine ⟨?_, fun writable => writable d rfl⟩
    rintro writable _ ⟨⟩
    exact writable
  · exact iff_of_true ⟨_, rfl⟩ nofun

end Part

/-! ### Classes -/

theorem exists_defaultParameters_iff {parameters : List (ParameterKey × Value)} :
    (∃ text, defaultParameters parameters = .ok text) ↔ ∀ parameter ∈ parameters, parameter.2.Writable := by
  rw [defaultParameters, exists_bind_pure_eq_ok_iff, exists_mapM_eq_ok_iff]
  exact forall₂_congr fun _ _ => exists_bind_pure_eq_ok_iff.trans exists_value_iff

theorem exists_header_iff {names : ClassNames} :
    (∃ text, header names = .ok text) ↔ isQualifiedName names.name = true ∧ isQualifiedName names.base = true := by
  unfold header
  by_cases hname : isQualifiedName names.name = true
  · by_cases hbase : isQualifiedName names.base = true
    · simp [hname, hbase]
    · simp [hname, hbase]
  · simp [hname]

theorem rows_eq_map_entries (c : Container) :
    (c.ids.map fun id => (id, accessorName id)) =
      c.entries.toList.map fun entry => (entry.1, accessorName entry.1) := by
  rw [Container.ids, ← Std.ExtTreeMap.map_fst_toList_eq_keys, List.map_map]
  rfl

theorem exists_methods_iff {c : Container} :
    (∃ methods, (c.entries.toList.mapM fun entry => accessor entry.1 (accessorName entry.1) entry.2) = .ok methods) ↔
      ∀ (id : ServiceId) (d : Definition), c.entries[id]? = some (.definition d) → d.Writable := by
  simp only [exists_mapM_eq_ok_iff, exists_accessor_iff, ← Std.ExtTreeMap.mem_toList_iff_getElem?_eq_some]
  constructor
  · exact fun each id d mem => each (id, .definition d) mem d rfl
  · rintro each ⟨id, _⟩ mem d rfl
    exact each id d mem

theorem exists_defaults_iff {c : Container} :
    (∃ defaults, (if c.parameters.toList.isEmpty then .ok "" else defaultParameters c.parameters.toList) =
        .ok defaults) ↔
      ∀ (key : ParameterKey) (v : Value), c.parameters[key]? = some v → v.Writable := by
  simp only [← Std.ExtTreeMap.mem_toList_iff_getElem?_eq_some]
  split
  · rename_i hempty
    rw [List.isEmpty_iff.mp hempty]
    exact iff_of_true ⟨_, rfl⟩ nofun
  · rw [exists_defaultParameters_iff]
    exact Prod.forall

/-- The table of accessors says under which name each entry is written, and that is all it decides. -/
theorem exists_containerClass_iff {names : ClassNames} {c : Container} :
    (∃ text, containerClass names c = .ok text) ↔
      (∃ table, c.accessors = .ok table) ∧ c.checkAliases = .ok () ∧
        (isQualifiedName names.name = true ∧ isQualifiedName names.base = true) ∧
        (∀ (id : ServiceId) (d : Definition), c.entries[id]? = some (.definition d) → d.Writable) ∧
        ∀ (key : ParameterKey) (v : Value), c.parameters[key]? = some v → v.Writable := by
  rw [← exists_header_iff, ← exists_methods_iff, ← exists_defaults_iff]
  refine exists_bind_eq_ok_iff_and fun table htable => ?_
  obtain ⟨-, -, rfl⟩ := Container.accessors_eq_ok_iff.mp htable
  -- each entry meets its own row of the table
  rw [rows_eq_map_entries, ← List.map_prod_left_eq_zip, List.mapM_map]
  refine (exists_bind_eq_ok_iff_and fun _ _ => exists_bind_eq_ok_iff_and fun head _ =>
    exists_bind_eq_ok_iff_and fun methods _ => ?_).trans (and_congr_left' Unique.exists_iff)
  split
  · exact iff_of_true ⟨_, rfl⟩ ⟨_, rfl⟩
  · exact exists_bind_pure_eq_ok_iff

end Php

end ServiceContainer

import ServiceContainer.Proofs.Alias
import ServiceContainer.Proofs.Php.Writable

/-!
# How generating a class fails

What is written fails by defects of names and arguments and by objects that have no source text. Loops are
nothing that the text is made of: the one failure besides is that of the check of aliases.
-/

namespace ServiceContainer

/-- The failure of something that cannot be written. -/
inductive Failure.IsUnwritable : Failure → Prop
  | invalid (defect : Defect) : IsUnwritable (.invalid defect)
  | unserializable (type : String) : IsUnwritable (.unserializable type)

theorem failsOnly_addAccessor (table : List (ServiceId × String)) (id : ServiceId) :
    FailsOnly Failure.IsUnwritable (addAccessor table id) := by
  unfold addAccessor
  split
  · exact .error (.invalid _)
  split
  · exact .error (.invalid _)
  · exact .ok _

namespace Php

/-! ### Values and arguments -/

theorem failsOnly_value (place : Place) (v : Value) : FailsOnly Failure.IsUnwritable (value place v) := by
  induction v with
  | scalar s => cases s <;> exact .ok _
  | list items ih =>
      rw [value, entries_eq_mapM]
      exact (FailsOnly.mapM fun entry mem => (ih entry mem).map _).map _
  | service id => exact .ok _
  | parameter key => exact .ok _
  | template segments => exact .ok _
  | object type => exact .error (.unserializable type)

section Definition

variable (id : ServiceId)

theorem failsOnly_checkName (role : NameRole) (valid : String → Bool) (name : String) :
    FailsOnly Failure.IsUnwritable (checkName id role valid name) := by
  unfold checkName
  split
  · exact .ok ()
  · exact .error (.invalid _)

theorem failsOnly_argumentsFrom (named : Bool) (args : Arguments) :
    FailsOnly Failure.IsUnwritable (argumentsFrom id named args) := by
  induction args generalizing named with
  | nil => exact .ok []
  | cons argument args ih =>
      obtain ⟨k, v⟩ := argument
      have hvalue : FailsOnly Failure.IsUnwritable (codeValue v) := failsOnly_value .code v
      cases k with
      | index n =>
          rw [argumentsFrom]
          split
          · exact .error (.invalid _)
          · exact hvalue.bind fun _ => (ih false).bind fun _ => .ok _
      | name name =>
          refine (failsOnly_checkName id .argument isIdentifier name).bind fun _ => ?_
          exact hvalue.bind fun _ => (ih true).bind fun _ => .ok _

theorem failsOnly_arguments (args : Arguments) : FailsOnly Failure.IsUnwritable (arguments id args) :=
  (failsOnly_argumentsFrom id false args).map _

/-! ### Definitions -/

theorem failsOnly_construction (d : Definition) : FailsOnly Failure.IsUnwritable (construction id d) := by
  refine (failsOnly_arguments id d.arguments).bind fun args => ?_
  cases d.construction with
  | new name => exact (failsOnly_checkName id _ _ _).bind fun _ => .ok _
  | newDynamic className => exact (failsOnly_value .code className).bind fun _ => .ok _
  | factory className method =>
      refine (failsOnly_checkName id _ _ _).bind fun _ => ?_
      split
      · exact (failsOnly_checkName id _ _ _).bind fun _ => .ok _
      · exact (failsOnly_value .code _).bind fun _ => .ok _

theorem failsOnly_call (c : MethodCall) : FailsOnly Failure.IsUnwritable (call id c) :=
  (failsOnly_checkName id _ _ _).bind fun _ => (failsOnly_arguments id c.arguments).bind fun _ => .ok _

theorem failsOnly_configurator (c : Configurator) : FailsOnly Failure.IsUnwritable (configurator id c) := by
  cases c with
  | function name => exact (failsOnly_checkName id _ _ _).bind fun _ => .ok _
  | serviceMethod service method => exact (failsOnly_checkName id _ _ _).bind fun _ => .ok _
  | classMethod name method =>
      exact (failsOnly_checkName id _ _ _).bind fun _ => (failsOnly_checkName id _ _ _).bind fun _ => .ok _
  | staticMethod target method => exact (failsOnly_value .code target).bind fun _ => .ok _

theorem failsOnly_definitionBody (d : Definition) : FailsOnly Failure.IsUnwritable (definitionBody id d) := by
  have hfile : FailsOnly Failure.IsUnwritable (d.file.mapM codeValue) :=
    .option_mapM fun file _ => failsOnly_value .code file
  have hcalls : FailsOnly Failure.IsUnwritable (d.calls.mapM (call id)) := .mapM fun c _ => failsOnly_call id c
  have hconfigurator : FailsOnly Failure.IsUnwritable (d.configurator.mapM (configurator id)) :=
    .option_mapM fun c _ => failsOnly_configurator id c
  exact hfile.bind fun _ => (failsOnly_construction id d).bind fun _ => hcalls.bind fun _ =>
    hconfigurator.bind fun _ => .ok _

theorem failsOnly_accessor (name : String) (entry : Entry) :
    FailsOnly Failure.IsUnwritable (accessor id name entry) := by
  rcases entry with d | target
  · exact (failsOnly_definitionBody id d).map _
  · exact .ok _

end Definition

/-! ### Classes -/

theorem failsOnly_defaultParameters (parameters : List (ParameterKey × Value)) :
    FailsOnly Failure.IsUnwritable (defaultParameters parameters) := by
  unfold defaultParameters
  refine FailsOnly.bind (.mapM fun parameter _ => ?_) fun _ => .ok _
  exact (failsOnly_value .parameters parameter.2).bind fun _ => .ok _

theorem failsOnly_header (names : ClassNames) : FailsOnly Failure.IsUnwritable (header names) := by
  unfold header
  split
  · exact .error (.invalid _)
  split
  · exact .error (.invalid _)
  · exact .ok _

/-- When all aliases end, a class fails only by what cannot be written. -/
theorem failsOnly_containerClass {c : Container} (aliases : c.checkAliases = .ok ()) (names : ClassNames) :
    FailsOnly Failure.IsUnwritable (containerClass names c) := by
  have haccessors : FailsOnly Failure.IsUnwritable c.accessors := .foldlM failsOnly_addAccessor
  refine haccessors.bind fun table => ?_
  rw [aliases]
  refine (failsOnly_header names).bind fun _ => ?_
  refine FailsOnly.bind (.mapM fun row _ => failsOnly_accessor row.1.1 row.2.2 row.1.2) fun _ => ?_
  split
  · exact .ok _
  · exact (failsOnly_defaultParameters _).bind fun _ => .ok _

end Php

end ServiceContainer

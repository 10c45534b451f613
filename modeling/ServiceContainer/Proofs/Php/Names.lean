import ServiceContainer.Proofs.Container
import ServiceContainer.Proofs.Php.Placement

/-!
# Bare names

Names are written into a class without quotes, and each is checked to be what PHP takes for a name at its place: a
label for methods and arguments, and labels between backslashes for classes and functions. The name of the class
itself is checked as a reference to a class would be, so that it may have backslashes, which a declaration may not.
-/

namespace ServiceContainer

/-! ### The names in a container -/

/-- What a name that is written without quotes must be at its place. -/
inductive NameForm where
  | label
  | path
  deriving DecidableEq, Repr

/-- Whether a name has the form that its place asks for. -/
def NameForm.Legal : NameForm → String → Prop
  | .label, name => Php.IsLabel name.toList
  | .path, name => Php.IsPath name.toList

/-- The names of arguments. -/
def Arguments.bareNames (arguments : Arguments) : List (NameForm × String) :=
  arguments.filterMap fun argument => argument.1.name?.map (.label, ·)

def MethodCall.bareNames (call : MethodCall) : List (NameForm × String) :=
  (.label, call.method) :: Arguments.bareNames call.arguments

/-- The method of a target that is not named literally is quoted. -/
def Configurator.bareNames : Configurator → List (NameForm × String)
  | .function name => [(.path, name)]
  | .serviceMethod _ method => [(.label, method)]
  | .classMethod name method => [(.path, name), (.label, method)]
  | .staticMethod _ _ => []

def Definition.bareNames (d : Definition) : List (NameForm × String) :=
  d.className.text?.toList.map (.path, ·) ++ d.factory.toList.map (.label, ·) ++ Arguments.bareNames d.arguments ++
    d.calls.flatMap MethodCall.bareNames ++ d.configurator.toList.flatMap Configurator.bareNames

def Container.bareNames (c : Container) : List (NameForm × String) := c.definitions.flatMap fun (_, d) => d.bareNames

namespace Php

open Lexer
open Token (word var mark)

theorem legal_label {name : String} (hname : isIdentifier name = true) : NameForm.label.Legal name :=
  isLabel_of_isIdentifier hname

theorem legal_path {name : String} (hname : isQualifiedName name = true) : NameForm.path.Legal name :=
  isPath_of_isWordName (isWordName_of_isQualifiedName hname)

theorem legal_arguments {arguments : Arguments} (writable : Arguments.Writable arguments) :
    ∀ use ∈ Arguments.bareNames arguments, use.1.Legal use.2 := by
  intro use mem
  obtain ⟨argument, hargument, huse⟩ := List.mem_filterMap.mp mem
  obtain ⟨name, hname, rfl⟩ := Option.map_eq_some_iff.mp huse
  exact legal_label (writable.names argument hargument name hname)

theorem legal_call {call : MethodCall} (writable : call.Writable) : ∀ use ∈ call.bareNames, use.1.Legal use.2 :=
  List.forall_mem_cons.mpr ⟨legal_label writable.method, legal_arguments writable.arguments⟩

theorem legal_configurator {c : Configurator} (writable : c.Writable) : ∀ use ∈ c.bareNames, use.1.Legal use.2 := by
  cases writable with
  | function isName => exact List.forall_mem_singleton.mpr (legal_path isName)
  | serviceMethod _ isMethod => exact List.forall_mem_singleton.mpr (legal_label isMethod)
  | classMethod isName isMethod =>
      exact List.forall_mem_cons.mpr ⟨legal_path isName, List.forall_mem_singleton.mpr (legal_label isMethod)⟩
  | staticMethod _ _ => exact nofun

theorem legal_definition {d : Definition} (writable : d.Writable) : ∀ use ∈ d.bareNames, use.1.Legal use.2 := by
  simp only [Definition.bareNames, List.forall_mem_append, List.forall_mem_map, List.forall_mem_flatMap,
    Option.mem_toList]
  refine ⟨⟨⟨⟨fun name hname => ?_, fun method hmethod => legal_label (writable.factory method hmethod)⟩,
    legal_arguments writable.arguments⟩, fun call hcall => legal_call (writable.calls call hcall)⟩,
    fun c hc => legal_configurator (writable.configurator c hc)⟩
  exact legal_path (writable.isName name (text?_eq_some_iff.mp hname))

theorem legal_container {c : Container}
    (writable : ∀ (id : ServiceId) (d : Definition), c.entries[id]? = some (.definition d) → d.Writable) :
    ∀ use ∈ c.bareNames, use.1.Legal use.2 := by
  intro use mem
  obtain ⟨⟨id, d⟩, hd, huse⟩ := List.mem_flatMap.mp mem
  exact legal_definition (writable id d (Container.mem_definitions.mp hd)) use huse

/-- A path is a label exactly when it has no backslash. -/
theorem legal_label_iff_of_isQualifiedName {name : String} (hname : isQualifiedName name = true) :
    NameForm.label.Legal name ↔ '\\' ∉ name.toList := by
  refine ⟨IsLabel.noBackslash, fun noBackslash => isLabelName_iff.mp ?_⟩
  have begins : name.toList.head? ≠ some '\\' := fun heq => noBackslash (List.mem_of_head? heq)
  have hword := isWordName_of_isQualifiedName hname
  rw [isWordName, if_neg begins, List.splitOn_eq_singleton noBackslash] at hword
  simpa using hword

/-- Every name of a container for which a class is generated has its form, and so has every word of the class by what
stands next to it. The class extends a path, and is itself declared by one, a label only if it has no backslash. -/
theorem bareNames_legal {names : ClassNames} {c : Container} {text : String}
    (htext : containerClass names c = .ok text) :
    (∀ use ∈ c.bareNames, use.1.Legal use.2) ∧ NameForm.path.Legal names.base ∧ NameForm.path.Legal names.name ∧
      (NameForm.label.Legal names.name ↔ '\\' ∉ names.name.toList) ∧
      ∃ tokens, tokens? text = some tokens ∧
        [word "class", word names.name, word "extends", word names.base] <+: tokens ∧ Fits tokens ∧
        ∀ name, word name ∈ tokens → IsPath name.toList := by
  obtain ⟨-, -, ⟨hname, hbase⟩, writable, -⟩ := exists_containerClass_iff.mp ⟨text, htext⟩
  have htokens := tokens?_containerClass htext
  refine ⟨legal_container writable, legal_path hbase, legal_path hname, legal_label_iff_of_isQualifiedName hname, _,
    htokens, ⟨_, rfl⟩, fits_contents names writable, fun name mem => isPath_of_mem_tokens? htokens mem⟩

def withNames : Container :=
  Container.empty.setDefinition "mailer"
    { className := .text "\\App\\Mailer"
      factory := some "create"
      arguments := [(.index 0, .service "log"), (.name "über", .parameter (.ofName "who"))]
      configurator := some (.classMethod "App\\Setup" "run")
      calls := [⟨"send", [(.index 0, .list [(.index (-1), .scalar .null)])]⟩] }

theorem bareNames_legal_withNames :
    (∃ text tokens, containerClass { base := "\\Base" } withNames = .ok text ∧ tokens? text = some tokens ∧
        Fits tokens) ∧
      (∀ use ∈ withNames.bareNames, use.1.Legal use.2) ∧
      withNames.bareNames = [(.path, "\\App\\Mailer"), (.label, "create"), (.label, "über"), (.label, "send"),
        (.path, "App\\Setup"), (.label, "run")] := by
  have isOk : (containerClass { base := "\\Base" } withNames).toBool = true := by decide +kernel
  obtain ⟨text, htext⟩ := exists_eq_ok_of_toBool isOk
  obtain ⟨legal, -, -, -, tokens, htokens, -, fits, -⟩ := bareNames_legal htext
  exact ⟨⟨text, tokens, htext, htokens, fits⟩, legal, by decide +kernel⟩

/-- The name of the class is checked as a reference to a class is. -/
theorem name_not_label : ∃ text, containerClass { name := "App\\Container" } Container.empty = .ok text ∧
    ¬ NameForm.label.Legal "App\\Container" := by
  have isOk : (containerClass { name := "App\\Container" } Container.empty).toBool = true := by decide +kernel
  obtain ⟨text, htext⟩ := exists_eq_ok_of_toBool isOk
  exact ⟨text, htext, fun label => label.noBackslash (by decide)⟩

end Php

end ServiceContainer

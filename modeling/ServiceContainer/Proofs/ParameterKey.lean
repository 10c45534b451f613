import ServiceContainer.Proofs.Php.Lexing
import ServiceContainer.Proofs.Resolution.Circular

/-!
# Names of parameters

Names that differ in ASCII case only share one key, and the text of a key names the key again. So the store, lookups
and generated code, each of which lower-cases anew, come to the same parameter.
-/

namespace ServiceContainer

theorem ParameterKey.ofName_eq_of_ignoreCase {m n : String} (same : ignoreCase m = ignoreCase n) :
    ofName m = ofName n := by
  simp only [ofName, Text.lowercase_eq_of_map_toLower same]

/-! ### Parameters in the store -/

namespace Container

variable {c : Container} {pending : List ParameterKey} {key : ParameterKey} {name : String} {kind : Missing}

theorem parameter_eq_ok_iff {v : Value} :
    c.parameter name = .ok v ↔ c.parameters[ParameterKey.ofName name]? = some v := by
  rw [parameter]
  cases c.parameters[ParameterKey.ofName name]? <;> simp

/-- A lookup may as well ask for a parameter by the text of its key. -/
theorem lookup_eq_parameter (new : key ∉ pending) :
    c.lookup pending key = c.parameter key.text >>= fun v => v.substitute (c.lookup (pending ++ [key])) := by
  rw [parameter, ParameterKey.ofName_text]
  cases found : c.parameters[key]? with
  | none => rw [lookup_of_not_found new found]; rfl
  | some v => rw [lookup_eq_substitute new found]; rfl

/-- What a lookup does not find is not there. -/
theorem notMem_of_lookup_eq_notFound (failed : c.lookup pending key = .error (.notFound kind name)) :
    ∃ other, other ∉ c.parameters ∧ other.text = name := by
  induction pending, key using lookup.induct c with
  | case1 pending key mem =>
      rw [lookup_of_mem mem] at failed
      cases failed
  | case2 pending key new unset =>
      rw [lookup_of_not_found new unset] at failed
      cases failed
      refine ⟨key, ?_, rfl⟩
      rw [Std.ExtTreeMap.mem_iff_isSome_getElem?, unset]
      exact Bool.false_ne_true
  | case3 pending key new v found ih =>
      rw [lookup_eq_substitute new found] at failed
      have valid (defect) : Failure.notFound kind name ≠ .invalid defect := by rintro ⟨⟩
      obtain ⟨other, -, failed, -⟩ := Value.exists_failing_parameter failed valid
      exact ih other failed

theorem lookup_ne_notFound (mem : key ∈ c.parameters) (pending : List ParameterKey) (other : ParameterKey) :
    c.lookup pending other ≠ .error (.notFound kind key.text) := by
  intro failed
  obtain ⟨unset, notMem, htext⟩ := notMem_of_lookup_eq_notFound failed
  rw [← ParameterKey.ofName_text unset, htext, ParameterKey.ofName_text] at notMem
  exact notMem mem

theorem resolveAll_ne_notFound (mem : key ∈ c.parameters) : c.resolveAll ≠ .error (.notFound kind key.text) := by
  intro failed
  obtain ⟨front, other, back, -, -, failed⟩ := mapM_eq_error_iff.mp failed
  exact lookup_ne_notFound mem [] other (map_eq_error_iff.mp failed)

end Container

/-! ### Parameters in generated code -/

namespace Php

variable {parameters : List (ParameterKey × Value)} {key : ParameterKey} {v : Value} {text : String}

/-- Among the default parameters of a generated class the value stands behind the quoted text of the key. -/
def GivesDefault (text : String) (key : ParameterKey) (value : String) : Prop :=
  ∃ front before after back, text = front ++ method "protected" "getDefaultParameters" ""
    ("    return array(\n" ++ (before ++ ("      " ++ quote key.text ++ " => " ++ value ++ ",\n") ++ after) ++
      "    );\n") ++ back

theorem givesDefault_of_defaultParameters (hok : defaultParameters parameters = .ok text)
    (mem : (key, v) ∈ parameters) (front back : String) :
    ∃ value, Php.value .parameters v = .ok value ∧ GivesDefault (front ++ text ++ back) key value := by
  obtain ⟨lines, hlines, heq⟩ := bind_eq_ok_iff.mp hok
  cases heq
  obtain ⟨line, hline, hrendered⟩ := exists_of_forall₂ (mapM_eq_ok_iff.mp hlines) mem
  obtain ⟨value, hvalue, rfl⟩ := map_eq_ok_iff.mp hrendered
  obtain ⟨before, after, rfl⟩ := List.append_of_mem hline
  have joined (line : String) :
      String.join (before ++ line :: after) = String.join before ++ line ++ String.join after := by
    rw [String.join_append, String.join_cons, String.append_assoc]
  refine ⟨value, hvalue, front, String.join before, String.join after, back, ?_⟩
  rw [joined]

theorem givesDefault_of_containerClass {names : ClassNames} {c : Container} (htext : containerClass names c = .ok text)
    (found : c.parameters[key]? = some v) :
    ∃ value, Php.value .parameters v = .ok value ∧ GivesDefault text key value := by
  have mem : (key, v) ∈ c.parameters.toList := Std.ExtTreeMap.mem_toList_iff_getElem?_eq_some.mpr found
  have hsome : c.parameters.toList.isEmpty = false := List.isEmpty_eq_false_iff_exists_mem.mpr ⟨_, mem⟩
  obtain ⟨head, methods, defaults, -, -, hdefaults, rfl⟩ := containerClass_parts htext
  rw [hsome] at hdefaults
  exact givesDefault_of_defaultParameters hdefaults mem _ _

end Php

/-- The text of a key names the key, and so does each name that differs from a name of the key in ASCII case only.
Whichever of these names a parameter is set, asked for and referred to by, it is found, and generated code asks for it
under the text under which it gives it a default. Lookups may go by the texts of keys, and no parameter that is there
is ever reported as not found. -/
theorem ParameterKey.ofName_ignoresCase :
    (∀ n : String, ofName (ofName n).text = ofName n) ∧
    (∀ n m : String, ignoreCase m = ignoreCase n →
      ofName m = ofName n ∧
      (∀ place, Php.value place (.parameter (.ofName m)) =
          .ok ("$this->getParameter(" ++ Php.quote (ofName n).text ++ ")") ∧
        Php.segment place (.parameter (.ofName m)) = "$this->getParameter(" ++ Php.quote (ofName n).text ++ ")") ∧
      ∀ (c : Container) (x : Value),
        (c.setParameter n x).hasParameter m = true ∧ (c.setParameter n x).parameter m = .ok x ∧
        ∀ names text, Php.containerClass names (c.setParameter n x) = .ok text →
          ∃ value, Php.value .parameters x = .ok value ∧ Php.GivesDefault text (ofName n) value) ∧
    ∀ c : Container,
      (∀ pending key, key ∉ pending →
        c.lookup pending key = c.parameter key.text >>= fun v => v.substitute (c.lookup (pending ++ [key]))) ∧
      ∀ key ∈ c.parameters, ∀ kind, c.resolveAll ≠ .error (.notFound kind key.text) ∧
        ∀ pending other, c.lookup pending other ≠ .error (.notFound kind key.text) := by
  refine ⟨fun n => ofName_text _, fun n m same => ?_, fun c => ⟨?_, ?_⟩⟩
  · have heq := ofName_eq_of_ignoreCase same
    have call := Php.parameterCall_eq_parameterText (ofName m)
    refine ⟨heq, fun place => ⟨?_, ?_⟩, fun c x => ⟨?_, ?_, fun names text htext => ?_⟩⟩
    · rw [← heq]
      exact congrArg Except.ok call
    · rw [← heq]
      exact call
    · rw [Container.hasParameter, heq]
      exact Std.ExtTreeMap.contains_insert_self
    · rw [Container.parameter_eq_ok_iff, heq, Container.getElem?_setParameter, if_pos rfl]
    · refine Php.givesDefault_of_containerClass htext ?_
      rw [Container.getElem?_setParameter, if_pos rfl]
  · exact fun pending key new => Container.lookup_eq_parameter new
  · exact fun key mem kind => ⟨Container.resolveAll_ne_notFound mem, Container.lookup_ne_notFound mem⟩

end ServiceContainer

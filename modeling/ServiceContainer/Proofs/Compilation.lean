import ServiceContainer.Compilation
import ServiceContainer.Proofs.Alias
import ServiceContainer.Proofs.Php.Writable
import ServiceContainer.Proofs.ReferenceGraph.Check
import ServiceContainer.Proofs.ReferenceGraph.Container

/-!
# When compilation succeeds

A container compiles exactly when its aliases end, its ids make different accessors and all that it holds can be
written. The check of references changes nothing of what is generated: it refuses containers in which services
need each other to be constructed, and lets the others through.
-/

namespace ServiceContainer.Container

variable {settings : Settings} {c : Container} {text : String}

/-- What a container and the settings must be for a class to be generated. -/
structure Compilable (settings : Settings) (c : Container) : Prop where
  aliasesEnd : ∀ id, ∃ last, c.EndsAt id last
  acyclic : settings.checkReferences = true → ∀ id, ¬ (ReferenceGraph.ofContainer c).OnCycle id
  usable : ∀ id ∈ c.entries, id.toList.any Text.isAlphanumeric = true
  apart : ∀ a ∈ c.entries, ∀ b ∈ c.entries, camelize a = camelize b → a = b
  className : isQualifiedName settings.names.name = true
  baseName : isQualifiedName settings.names.base = true
  definitions : ∀ (id : ServiceId) (d : Definition), c.entries[id]? = some (.definition d) → d.Writable
  parameters : ∀ (key : ParameterKey) (v : Value), c.parameters[key]? = some v → v.Writable

/-- The parts of a compilation, of which only the last one writes anything. -/
theorem compile_eq_ok_iff_and :
    c.compile settings = .ok text ↔
      c.checkAliases = .ok () ∧
        (settings.checkReferences = true → (ReferenceGraph.ofContainer c).check = .ok ()) ∧
        Php.containerClass settings.names c = .ok text := by
  rw [compile, bind_eq_ok_iff]
  by_cases hcheck : settings.checkReferences = true
  · simp only [hcheck, if_true, bind_eq_ok_iff, forall_const]
    constructor
    · rintro ⟨_, aliases, _, checked, generated⟩
      exact ⟨aliases, checked, generated⟩
    · rintro ⟨aliases, checked, generated⟩
      exact ⟨(), aliases, (), checked, generated⟩
  · rw [if_neg hcheck]
    constructor
    · rintro ⟨_, aliases, generated⟩
      exact ⟨aliases, fun h => absurd h hcheck, generated⟩
    · rintro ⟨aliases, -, generated⟩
      exact ⟨(), aliases, generated⟩

theorem exists_compile_iff : (∃ text, c.compile settings = .ok text) ↔ c.Compilable settings := by
  simp only [compile_eq_ok_iff_and, exists_and_left, Php.exists_containerClass_iff, exists_accessors_iff,
    checkAliases_eq_ok_iff, (ReferenceGraph.wellFormed_ofContainer c).check_eq_ok_iff]
  constructor
  · rintro ⟨aliasesEnd, acyclic, ⟨usable, apart⟩, -, ⟨className, baseName⟩, definitions, parameters⟩
    exact { aliasesEnd, acyclic, usable, apart, className, baseName, definitions, parameters }
  · rintro ⟨aliasesEnd, acyclic, usable, apart, className, baseName, definitions, parameters⟩
    exact ⟨aliasesEnd, acyclic, ⟨usable, apart⟩, aliasesEnd, ⟨className, baseName⟩, definitions, parameters⟩

/-- Containers compile exactly when they are well formed. With the check of references the text is the same as
without it, or there is none because of a cycle. -/
theorem compile_accepts (settings : Settings) (c : Container) :
    ((∃ text, c.compile settings = .ok text) ↔ c.Compilable settings) ∧
    ∀ text, c.compile { settings with checkReferences := true } = .ok text ↔
      (∀ id, ¬ (ReferenceGraph.ofContainer c).OnCycle id) ∧
        c.compile { settings with checkReferences := false } = .ok text := by
  refine ⟨exists_compile_iff, fun text => ?_⟩
  rw [compile_eq_ok_iff_and, compile_eq_ok_iff_and, ← (ReferenceGraph.wellFormed_ofContainer c).check_eq_ok_iff]
  constructor
  · rintro ⟨aliases, checked, generated⟩
    exact ⟨checked rfl, aliases, nofun, generated⟩
  · rintro ⟨checked, aliases, -, generated⟩
    exact ⟨aliases, fun _ => checked, generated⟩

end ServiceContainer.Container

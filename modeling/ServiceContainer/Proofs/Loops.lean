import ServiceContainer.Proofs.Compilation
import ServiceContainer.Proofs.Php.Failure
import ServiceContainer.Proofs.Report

/-!
# Loops of references and of aliases

An alias refers to its target, so a chain of aliases that never ends is a cycle of references as well. A
compilation that checks references therefore fails by a loop exactly when there is no build order, though it
may name the aliases on the loop where a report has nothing to name.
-/

namespace ServiceContainer

/-- The failure of aliases that never end, or of services that need each other. -/
inductive Failure.IsLoop : Failure → Prop
  | cyclicAlias (chain : List ServiceId) : IsLoop (.cyclicAlias chain)
  | circularReference (path : List String) : IsLoop (.circularReference path)

theorem Failure.IsUnwritable.not_isLoop {failure : Failure} (unwritable : failure.IsUnwritable) :
    ¬ failure.IsLoop := by
  cases unwritable <;> exact nofun

namespace Container

open Relation (TransGen)

variable {c : Container} {settings : Settings}

theorem Leads.refers {id target : ServiceId} (leads : c.Leads id target) :
    (ReferenceGraph.ofContainer c).Refers id target :=
  ReferenceGraph.refers_ofContainer.mpr ⟨.alias target, leads, List.mem_singleton_self target⟩

/-- When no service needs itself, no alias leads back to itself. -/
theorem checkAliases_of_check (hcheck : (ReferenceGraph.ofContainer c).check = .ok ()) : c.checkAliases = .ok () := by
  have acyclic := (ReferenceGraph.wellFormed_ofContainer c).check_eq_ok_iff.mp hcheck
  have unlooped : ∀ id, ¬ TransGen c.Leads id id := fun id cycle =>
    acyclic id (TransGen.mono (fun _ _ => Leads.refers) id id cycle)
  exact checkAliases_eq_ok_iff.mpr (exists_endsAt unlooped)

/-- The three parts of a compilation that checks references. -/
theorem compile_checked :
    c.compile { settings with checkReferences := true } =
      c.checkAliases >>= fun _ => (ReferenceGraph.ofContainer c).check >>= fun _ =>
        Php.containerClass settings.names c :=
  rfl

/-- A loop is reported by one of the checks, never by what is written behind them. -/
theorem check_ne_ok_of_isLoop {failure : Failure} (loop : failure.IsLoop)
    (failed : c.compile { settings with checkReferences := true } = .error failure) :
    (ReferenceGraph.ofContainer c).check ≠ .ok () := by
  intro hcheck
  have aliases := checkAliases_of_check hcheck
  rw [compile_checked, aliases, hcheck] at failed
  exact (Php.failsOnly_containerClass aliases settings.names failure failed).not_isLoop loop

theorem exists_isLoop_of_check_ne_ok (hcheck : (ReferenceGraph.ofContainer c).check ≠ .ok ()) :
    ∃ failure, c.compile { settings with checkReferences := true } = .error failure ∧ failure.IsLoop := by
  rw [compile_checked]
  cases aliases : c.checkAliases with
  | error failure =>
      obtain ⟨chain, rfl⟩ := failsOnly_checkAliases failure aliases
      exact ⟨_, rfl, .cyclicAlias chain⟩
  | ok _ =>
      cases checked : (ReferenceGraph.ofContainer c).check with
      | error failure =>
          obtain ⟨path, -, rfl⟩ := ReferenceGraph.check_eq_error_iff.mp checked
          exact ⟨_, rfl, .circularReference path⟩
      | ok _ => exact absurd checked hcheck

end Container

namespace ReferenceGraph

theorem WellFormed.exists_buildOrder_error_iff {g : ReferenceGraph} (wf : g.WellFormed) :
    (∃ failure, g.buildOrder = .error failure) ↔ g.check ≠ .ok () := by
  rw [wf.buildOrder_eq]
  cases g.check <;> simp [Except.map]

end ReferenceGraph

theorem Report.buildOrder_eq_none_iff {resolved : Bool} {c : Container} {report : Report}
    (hreport : Report.ofContainer resolved c = .ok report) :
    report.buildOrder = none ↔ ∃ failure, (ReferenceGraph.ofContainer c).buildOrder = .error failure := by
  rw [buildOrder_eq hreport]
  cases (ReferenceGraph.ofContainer c).buildOrder <;> simp [Except.toOption]

/-- There is no build order exactly when a compilation that checks references fails by a loop, whatever else the
settings are, and reports of the container say the same. A check of references that passes vouches for the
aliases, so that only containers which it refuses too are refused because of an alias. -/
theorem Container.buildOrder_error_iff_isLoop (c : Container) (settings : Settings) :
    ((∃ failure, (ReferenceGraph.ofContainer c).buildOrder = .error failure) ↔
      ∃ failure, c.compile { settings with checkReferences := true } = .error failure ∧ failure.IsLoop) ∧
    (∀ resolved report, Report.ofContainer resolved c = .ok report →
      (report.buildOrder = none ↔
        ∃ failure, c.compile { settings with checkReferences := true } = .error failure ∧ failure.IsLoop)) ∧
    ((ReferenceGraph.ofContainer c).check = .ok () → c.checkAliases = .ok ()) ∧
    ∀ chain, c.compile { settings with checkReferences := true } = .error (.cyclicAlias chain) →
      ∃ path, (ReferenceGraph.ofContainer c).check = .error (.circularReference path) := by
  have wf := ReferenceGraph.wellFormed_ofContainer c
  have hloop : (∃ failure, (ReferenceGraph.ofContainer c).buildOrder = .error failure) ↔
      ∃ failure, c.compile { settings with checkReferences := true } = .error failure ∧ failure.IsLoop := by
    rw [wf.exists_buildOrder_error_iff]
    constructor
    · exact exists_isLoop_of_check_ne_ok
    · rintro ⟨failure, failed, loop⟩
      exact check_ne_ok_of_isLoop loop failed
  refine ⟨hloop, fun resolved report hreport => ?_, checkAliases_of_check, fun chain failed => ?_⟩
  · rw [Report.buildOrder_eq_none_iff hreport, hloop]
  · have hcheck := check_ne_ok_of_isLoop (.cyclicAlias chain) failed
    cases checked : (ReferenceGraph.ofContainer c).check with
    | error failure =>
        obtain ⟨path, -, rfl⟩ := ReferenceGraph.check_eq_error_iff.mp checked
        exact ⟨path, rfl⟩
    | ok _ => exact absurd checked hcheck

end ServiceContainer

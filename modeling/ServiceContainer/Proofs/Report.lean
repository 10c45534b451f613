import ServiceContainer.Proofs.Container
import ServiceContainer.Proofs.ReferenceGraph.BuildOrder
import ServiceContainer.Proofs.ReferenceGraph.Container
import ServiceContainer.Proofs.Resolution.Services
import ServiceContainer.Report

/-!
# The build order of a report

A report that replaces parameters shows resolved definitions, but its build order is that of the definitions as
they were written. So the order is right about every service that a constructor names, and it is right about
the report as a whole exactly when it happens to be right about the services that parameters supply.
-/

namespace ServiceContainer

open ReferenceGraph (Before)

namespace Report

variable {c : Container} {report : Report} {order : List ServiceId}

theorem buildOrder_eq {resolved : Bool} (hreport : Report.ofContainer resolved c = .ok report) :
    report.buildOrder = (ReferenceGraph.ofContainer c).buildOrder.toOption := by
  cases resolved with
  | false =>
      cases hreport
      rfl
  | true =>
      obtain ⟨parameters, -, rest⟩ := bind_eq_ok_iff.mp hreport
      obtain ⟨services, -, heq⟩ := bind_eq_ok_iff.mp rest
      cases heq
      rfl

theorem services_eq (hreport : Report.ofContainer true c = .ok report) :
    List.Forall₂ (fun entry shown => shown.1 = entry.1 ∧ c.resolveDefinition entry.2 = .ok shown.2)
      c.definitions report.services := by
  obtain ⟨parameters, -, rest⟩ := bind_eq_ok_iff.mp hreport
  obtain ⟨services, hservices, heq⟩ := bind_eq_ok_iff.mp rest
  cases heq
  refine (mapM_eq_ok_iff.mp hservices).imp fun entry shown hshown => ?_
  obtain ⟨d, hd, heq⟩ := bind_eq_ok_iff.mp hshown
  cases heq
  exact ⟨rfl, hd⟩

/-- Each service shown stands behind all that its constructor is shown to need. -/
def Ordered (report : Report) (order : List ServiceId) : Prop :=
  ∀ shown ∈ report.services, ∀ id ∈ shown.2.constructorServices, Before id shown.1 order

theorem ordered_iff_forall_definition (hreport : Report.ofContainer true c = .ok report) :
    report.Ordered order ↔ ∀ a d, c.entries[a]? = some (.definition d) →
      (∀ id ∈ d.constructorServices, Before id a order) ∧
        ∀ key ∈ d.constructorParameters, ∀ id, c.Supplies id key → Before id a order := by
  have hall := services_eq hreport
  constructor
  · intro ordered a d found
    obtain ⟨⟨shownId, d'⟩, mem, rfl, hresolve⟩ := exists_of_forall₂ hall (Container.mem_definitions.mpr found)
    have needs : ∀ id ∈ d'.constructorServices, Before id shownId order := ordered _ mem
    simp only [Container.mem_constructorServices_of_resolveDefinition hresolve] at needs
    exact ⟨fun id hid => needs id (Or.inl hid), fun key hkey id supplies => needs id (Or.inr ⟨key, hkey, supplies⟩)⟩
  · rintro written ⟨a, d'⟩ mem id hid
    obtain ⟨⟨a, d⟩, hmem, rfl, hresolve⟩ := exists_of_forall₂ hall.flip mem
    obtain ⟨named, supplied⟩ := written a d (Container.mem_definitions.mp hmem)
    rcases (Container.mem_constructorServices_of_resolveDefinition hresolve).mp hid with hid | ⟨key, hkey, supplies⟩
    · exact named id hid
    · exact supplied key hkey id supplies

theorem isBuildOrder_of_buildOrder {resolved : Bool} (hreport : Report.ofContainer resolved c = .ok report)
    (horder : report.buildOrder = some order) : (ReferenceGraph.ofContainer c).IsBuildOrder order := by
  have wf := ReferenceGraph.wellFormed_ofContainer c
  rw [buildOrder_eq hreport, wf.buildOrder_eq] at horder
  cases hcheck : (ReferenceGraph.ofContainer c).check with
  | error failure =>
      rw [hcheck] at horder
      cases horder
  | ok _ =>
      rw [hcheck] at horder
      cases horder
      exact wf.isBuildOrder_walk (wf.check_eq_ok_iff.mp hcheck)

/-- The build order beside resolved definitions has each id once, and each behind the services that its
constructor is written to need. It respects the definitions that are shown exactly when it also has the
services that parameters supply to a constructor before what is constructed, which nothing makes sure of. -/
theorem ordered_iff (hreport : Report.ofContainer true c = .ok report) (horder : report.buildOrder = some order) :
    order.Nodup ∧
    (∀ a d, c.entries[a]? = some (.definition d) → ∀ id ∈ d.constructorServices, Before id a order) ∧
    (report.Ordered order ↔ ∀ a d, c.entries[a]? = some (.definition d) →
      ∀ key ∈ d.constructorParameters, ∀ id, c.Supplies id key → Before id a order) := by
  have isBuildOrder := isBuildOrder_of_buildOrder hreport horder
  have named : ∀ a d, c.entries[a]? = some (.definition d) → ∀ id ∈ d.constructorServices, Before id a order :=
    fun a d found id mem => isBuildOrder.before (ReferenceGraph.refers_ofContainer.mpr ⟨_, found, mem⟩)
  refine ⟨isBuildOrder.nodup, named, ?_⟩
  rw [ordered_iff_forall_definition hreport]
  constructor
  · exact fun both a d found => (both a d found).2
  · exact fun supplied a d found => ⟨named a d found, supplied a d found⟩

end Report

/-! ### A service that reaches a constructor through a parameter -/

namespace Container

/-- The constructor is given the parameter `p`. -/
def takingParameter : Definition :=
  { className := .text "A", arguments := [(.index 0, .parameter (.ofName "p"))] }

def takingService (id : ServiceId) : Definition :=
  { className := .text "A", arguments := [(.index 0, .service id)] }

def takingNothing : Definition := { className := .text "B" }

/-- The constructor of `user` is given `supplied`, the value of a parameter. -/
def throughParameter (user supplied : ServiceId) : Container :=
  ((empty.setParameter "p" (.service supplied)).setDefinition user takingParameter).setDefinition supplied takingNothing

theorem found_throughParameter (user supplied : ServiceId) :
    (throughParameter user supplied).parameters[ParameterKey.ofName "p"]? = some (.service supplied) := by
  simp [throughParameter, setDefinition, setEntry, setParameter]

theorem lookup_throughParameter (user supplied : ServiceId) :
    (throughParameter user supplied).lookup [] (.ofName "p") = .ok (.service supplied) := by
  rw [lookup_eq_substitute List.not_mem_nil (found_throughParameter user supplied)]
  rfl

theorem supplies_throughParameter {user supplied id : ServiceId}
    (supplies : (throughParameter user supplied).Supplies id (.ofName "p")) : id = supplied :=
  List.mem_singleton.mp ((mem_services_of_lookup (lookup_throughParameter user supplied)).mpr supplies)

theorem resolveAll_throughParameter (user supplied : ServiceId) :
    (throughParameter user supplied).resolveAll = .ok [(.ofName "p", .service supplied)] := by
  have keys : (throughParameter user supplied).parameters.keys = [.ofName "p"] := rfl
  rw [resolveAll_eq_ok_iff, keys]
  exact List.Forall₂.cons ⟨rfl, lookup_throughParameter user supplied⟩ List.Forall₂.nil

theorem resolveDefinition_takingParameter (user supplied : ServiceId) :
    (throughParameter user supplied).resolveDefinition takingParameter = .ok (takingService supplied) := by
  have hargument : (Value.parameter (.ofName "p")).substitute ((throughParameter user supplied).lookup []) =
      .ok (.service supplied) := lookup_throughParameter user supplied
  simp only [resolveDefinition, Definition.substitute, takingParameter, Arguments.substitute, List.mapM_cons, hargument]
  rfl

end Container

namespace ReferenceGraph

theorem buildOrder_of_two : (ReferenceGraph.mk ["a", "b"] []).buildOrder = .ok ["a", "b"] := by
  have wf : (ReferenceGraph.mk ["a", "b"] []).WellFormed := wellFormed_ofSteps [.service "a", .service "b"]
  have acyclic : ∀ id, ¬ (ReferenceGraph.mk ["a", "b"] []).OnCycle id := by
    intro id cycle
    obtain ⟨next, refers, -⟩ := Relation.TransGen.head'_iff.mp cycle
    cases refers
  rw [wf.buildOrder_eq, wf.check_eq_ok_iff.mpr acyclic]
  simp [Except.map, walk, successors]

end ReferenceGraph

namespace Report

open Container

variable {user supplied : ServiceId}

theorem ofContainer_throughParameter {shown : List (ServiceId × Definition)}
    (hgraph : ReferenceGraph.ofContainer (throughParameter user supplied) = ⟨["a", "b"], []⟩)
    (hshown : (throughParameter user supplied).definitions.mapM (fun (id, d) => do
      return (id, ← (throughParameter user supplied).resolveDefinition d)) = .ok shown) :
    Report.ofContainer true (throughParameter user supplied) =
      .ok ⟨shown, (throughParameter user supplied).aliases, [(.ofName "p", .service supplied)], some ["a", "b"]⟩ := by
  simp only [ofContainer, if_true, resolveAll_throughParameter, hshown, hgraph, ReferenceGraph.buildOrder_of_two]
  rfl

theorem ofContainer_throughParameter_b_a :
    Report.ofContainer true (throughParameter "b" "a") =
      .ok ⟨[("a", takingNothing), ("b", takingService "a")], [], [(.ofName "p", .service "a")], some ["a", "b"]⟩ := by
  refine ofContainer_throughParameter rfl ?_
  have definitions : (throughParameter "b" "a").definitions = [("a", takingNothing), ("b", takingParameter)] := rfl
  simp only [definitions, List.mapM_cons, resolveDefinition_takingParameter]
  rfl

theorem ofContainer_throughParameter_a_b :
    Report.ofContainer true (throughParameter "a" "b") =
      .ok ⟨[("a", takingService "b"), ("b", takingNothing)], [], [(.ofName "p", .service "b")], some ["a", "b"]⟩ := by
  refine ofContainer_throughParameter rfl ?_
  have definitions : (throughParameter "a" "b").definitions = [("a", takingParameter), ("b", takingNothing)] := rfl
  simp only [definitions, List.mapM_cons, resolveDefinition_takingParameter]
  rfl

/-- What a parameter supplies may stand in front of its user by the order of ids. -/
theorem ordered_throughParameter : ∃ report order,
    Report.ofContainer true (throughParameter "b" "a") = .ok report ∧ report.buildOrder = some order ∧
      report.Ordered order := by
  refine ⟨_, _, ofContainer_throughParameter_b_a, rfl, ?_⟩
  refine (ordered_iff ofContainer_throughParameter_b_a rfl).2.2.mpr fun a d found key mem id supplies => ?_
  rw [throughParameter, setDefinition, setDefinition, getElem?_setEntry, getElem?_setEntry] at found
  split at found
  · cases found
    cases mem
  · split at found
    · cases found
      obtain rfl := List.mem_singleton.mp mem
      obtain rfl := supplies_throughParameter supplies
      subst_vars
      exact List.Sublist.refl _
    · cases found

/-- The constructor of `a` is shown to need `b`, and `b` stands behind `a`. -/
theorem not_ordered_throughParameter : ∃ report order,
    Report.ofContainer true (throughParameter "a" "b") = .ok report ∧ report.buildOrder = some order ∧
      ¬ report.Ordered order := by
  refine ⟨_, _, ofContainer_throughParameter_a_b, rfl, fun ordered => ?_⟩
  have before : Before "b" "a" ["a", "b"] := ordered ("a", takingService "b") (by simp) "b" (by decide)
  revert before
  unfold Before
  decide

end Report

end ServiceContainer

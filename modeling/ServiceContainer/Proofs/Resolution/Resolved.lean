import ServiceContainer.Proofs.Resolution.Services

/-!
# Resolved values and definitions

Resolution leaves nothing to resolve, so resolving once more changes nothing, whatever the parameters are then.
A definition is resolved value by value: what is not a value stays as it is, and the first value that does not
resolve decides how it fails.
-/

namespace ServiceContainer

variable {find : ParameterKey → Except Failure Value}

/-! ### Values -/

namespace Value

/-- Neither a parameter nor a template is left in a value, at any depth. -/
inductive Resolved : Value → Prop
  | scalar (s : Scalar) : Resolved (.scalar s)
  | list {items : List (Key × Value)} (resolved : ∀ item ∈ items, Resolved item.2) : Resolved (.list items)
  | service (id : ServiceId) : Resolved (.service id)
  | object (type : String) : Resolved (.object type)

theorem resolved_of_substitute (hfind : ∀ key r, find key = .ok r → r.Resolved) {v r : Value}
    (hok : v.substitute find = .ok r) : r.Resolved := by
  induction v generalizing r with
  | scalar s =>
      cases hok
      exact .scalar s
  | list items ih =>
      obtain ⟨resolved, rfl, all⟩ := substitute_list_eq_ok_iff.mp hok
      refine .list fun item mem => ?_
      obtain ⟨entry, hentry, -, hitem⟩ := exists_of_forall₂ all.flip mem
      exact ih entry hentry hitem
  | service id =>
      cases hok
      exact .service id
  | parameter key => exact hfind key r hok
  | template segments =>
      obtain ⟨texts, rfl, -⟩ := substitute_template_eq_ok_iff.mp hok
      exact .scalar _
  | object type =>
      cases hok
      exact .object type

theorem Resolved.substitute_eq {v : Value} (resolved : v.Resolved) : v.substitute find = .ok v := by
  induction resolved with
  | scalar s => rfl
  | @list items _ ih =>
      refine substitute_list_eq_ok_iff.mpr ⟨items, rfl, ?_⟩
      exact List.forall₂_same.mpr fun item mem => ⟨rfl, ih item mem⟩
  | service id => rfl
  | object type => rfl

end Value

namespace Container

variable {c : Container}

theorem resolved_of_lookup {pending : List ParameterKey} {key : ParameterKey} {r : Value}
    (hlookup : c.lookup pending key = .ok r) : r.Resolved := by
  induction pending, key using lookup.induct c generalizing r with
  | case1 pending key mem => exact absurd mem (lookup_eq_ok hlookup).1
  | case2 pending key new found =>
      obtain ⟨-, v, found', -⟩ := lookup_eq_ok hlookup
      rw [found] at found'
      cases found'
  | case3 pending key new v found ih =>
      rw [lookup_eq_substitute new found] at hlookup
      exact Value.resolved_of_substitute (fun key' r hr => ih key' hr) hlookup

theorem resolved_of_resolve {v r : Value} (hok : c.resolve v = .ok r) : r.Resolved :=
  Value.resolved_of_substitute (fun _ _ => resolved_of_lookup) hok

end Container

/-! ### Definitions -/

/-- What resolution leaves of a call. -/
def MethodCall.shape (call : MethodCall) : String × List Key := (call.method, call.arguments.map (·.1))

/-- What resolution leaves of a configurator. -/
def Configurator.shape : Configurator → Configurator
  | .staticMethod _ method => .staticMethod .null method
  | configurator => configurator

namespace Definition

/-- Two definitions differ at most in their values. -/
structure SameShape (d d' : Definition) : Prop where
  shared : d'.shared = d.shared
  factory : d'.factory = d.factory
  file : d'.file.isSome = d.file.isSome
  arguments : d'.arguments.map (·.1) = d.arguments.map (·.1)
  calls : d'.calls.map MethodCall.shape = d.calls.map MethodCall.shape
  configurator : d'.configurator.map Configurator.shape = d.configurator.map Configurator.shape

end Definition

/-! ### The values of a definition, one after the other -/

theorem map_values_calls (calls : List MethodCall) :
    List.flatMap (fun call => call.arguments.map (·.2)) <$> calls.mapM (fun call => do
        return { call with arguments := ← Arguments.substitute find call.arguments }) =
      (calls.flatMap fun call => call.arguments.map (·.2)).mapM (·.substitute find) := by
  refine map_flatMap_mapM (fun call => ?_) calls
  rw [← map_values_arguments, bind_pure_comp, Functor.map_map]

theorem map_values_configurator (configurator : Configurator) :
    Configurator.values <$> configurator.substitute find = configurator.values.mapM (·.substitute find) := by
  cases configurator with
  | staticMethod target method =>
      rw [Configurator.substitute, Configurator.values, List.mapM_cons, List.mapM_nil]
      cases target.substitute find <;> rfl
  | _ => rfl

namespace Definition

theorem map_values_substitute (d : Definition) :
    values <$> d.substitute find = d.values.mapM (·.substitute find) := by
  have hconfigurator : List.flatMap Configurator.values <$> Option.toList <$> d.configurator.mapM (·.substitute find) =
      (d.configurator.toList.flatMap Configurator.values).mapM (·.substitute find) := by
    rw [map_toList_option_mapM, map_flatMap_mapM map_values_configurator]
  rw [values, List.mapM_cons, List.mapM_append, List.mapM_append, List.mapM_append, ← map_toList_option_mapM,
    ← map_values_arguments, ← map_values_calls, ← hconfigurator, substitute]
  simp only [map_bind, bind_map_left, map_pure, bind_assoc, pure_bind, values]

variable {d d' : Definition}

theorem forall₂_values (hok : d.substitute find = .ok d') :
    List.Forall₂ (fun v r => v.substitute find = .ok r) d.values d'.values := by
  apply mapM_eq_ok_iff.mp
  rw [← map_values_substitute, hok]
  rfl

theorem substitute_eq_error_iff {failure : Failure} :
    d.substitute find = .error failure ↔ d.values.mapM (·.substitute find) = .error failure := by
  rw [← map_values_substitute]
  exact map_eq_error_iff.symm

/-! ### What else a definition has -/

theorem map_fst_substitute {arguments resolved : Arguments} (hok : Arguments.substitute find arguments = .ok resolved) :
    resolved.map (·.1) = arguments.map (·.1) := by
  refine map_eq_of_mapM_eq_ok (fun argument r hargument => ?_) hok
  obtain ⟨value, -, heq⟩ := bind_eq_ok_iff.mp hargument
  cases heq
  rfl

theorem shape_calls {calls resolved : List MethodCall} (hok : calls.mapM (fun call => do
      return { call with arguments := ← Arguments.substitute find call.arguments }) = .ok resolved) :
    resolved.map MethodCall.shape = calls.map MethodCall.shape := by
  refine map_eq_of_mapM_eq_ok (fun call r hcall => ?_) hok
  obtain ⟨arguments, harguments, heq⟩ := bind_eq_ok_iff.mp hcall
  cases heq
  exact Prod.ext rfl (map_fst_substitute harguments)

theorem shape_configurator {configurator resolved : Configurator}
    (hok : configurator.substitute find = .ok resolved) : resolved.shape = configurator.shape := by
  cases configurator with
  | staticMethod target method =>
      obtain ⟨r, -, rfl⟩ := map_eq_ok_iff.mp hok
      rfl
  | _ =>
      cases hok
      rfl

theorem sameShape_of_substitute (hok : d.substitute find = .ok d') : d.SameShape d' := by
  obtain ⟨className, -, rest⟩ := bind_eq_ok_iff.mp hok
  obtain ⟨file, hfile, rest⟩ := bind_eq_ok_iff.mp rest
  obtain ⟨arguments, harguments, rest⟩ := bind_eq_ok_iff.mp rest
  obtain ⟨calls, hcalls, rest⟩ := bind_eq_ok_iff.mp rest
  obtain ⟨configurator, hconfigurator, heq⟩ := bind_eq_ok_iff.mp rest
  cases heq
  have presence : file.map (fun _ => ()) = d.file.map (fun _ => ()) :=
    map_eq_of_option_mapM_eq_ok (fun _ _ _ => rfl) hfile
  have shape : configurator.map Configurator.shape = d.configurator.map Configurator.shape :=
    map_eq_of_option_mapM_eq_ok (fun _ _ => shape_configurator) hconfigurator
  refine ⟨rfl, rfl, ?_, map_fst_substitute harguments, shape_calls hcalls, shape⟩
  simpa using congrArg Option.isSome presence

/-! ### Definitions with nothing left to resolve -/

theorem forall_mem_values_iff {p : Value → Prop} :
    (∀ v ∈ d.values, p v) ↔
      p d.className ∧ (∀ v ∈ d.file, p v) ∧ (∀ argument ∈ d.arguments, p argument.2) ∧
        (∀ call ∈ d.calls, ∀ argument ∈ call.arguments, p argument.2) ∧
        ∀ configurator ∈ d.configurator, ∀ v ∈ configurator.values, p v := by
  simp only [values, List.forall_mem_append, List.forall_mem_cons, List.forall_mem_map,
    List.forall_mem_flatMap, Option.mem_toList, Option.mem_def, and_assoc]

theorem arguments_of_resolved {arguments : Arguments} (resolved : ∀ argument ∈ arguments, argument.2.Resolved) :
    Arguments.substitute find arguments = .ok arguments := by
  refine mapM_eq_ok_self fun argument mem => ?_
  exact bind_eq_ok_iff.mpr ⟨argument.2, (resolved argument mem).substitute_eq, rfl⟩

theorem configurator_of_resolved {configurator : Configurator} (resolved : ∀ v ∈ configurator.values, v.Resolved) :
    configurator.substitute find = .ok configurator := by
  cases configurator with
  | staticMethod target method =>
      rw [Configurator.substitute, (resolved target (List.mem_singleton_self target)).substitute_eq]
      rfl
  | _ => rfl

theorem substitute_of_resolved (resolved : ∀ v ∈ d.values, v.Resolved) : d.substitute find = .ok d := by
  obtain ⟨className, file, arguments, calls, configurator⟩ := forall_mem_values_iff.mp resolved
  have hfile : d.file.mapM (·.substitute find) = .ok d.file :=
    option_mapM_eq_ok_self fun v mem => (file v mem).substitute_eq
  have hcalls : d.calls.mapM (fun call => do
      return { call with arguments := ← Arguments.substitute find call.arguments }) = .ok d.calls := by
    refine mapM_eq_ok_self fun call mem => ?_
    rw [arguments_of_resolved (calls call mem)]
    rfl
  have hconfigurator : d.configurator.mapM (·.substitute find) = .ok d.configurator :=
    option_mapM_eq_ok_self fun c mem => configurator_of_resolved (configurator c mem)
  rw [substitute, className.substitute_eq, hfile, arguments_of_resolved arguments, hcalls, hconfigurator]
  rfl

end Definition

/-- What resolution gives has nothing left to resolve, so that resolving it with any parameters gives it again.
A resolved definition has the shape of the definition and the resolved values in it. It is not resolved
exactly when some value in it is not, and the first such value decides how it fails. -/
theorem Container.resolve_settles (c : Container) :
    (∀ v r, c.resolve v = .ok r → r.Resolved ∧ ∀ other : Container, other.resolve r = .ok r) ∧
    (∀ d d', c.resolveDefinition d = .ok d' →
      d.SameShape d' ∧ List.Forall₂ (fun v r => c.resolve v = .ok r) d.values d'.values ∧
      (∀ r ∈ d'.values, r.Resolved ∧ ∀ other : Container, other.resolve r = .ok r) ∧
      ∀ other : Container, other.resolveDefinition d' = .ok d') ∧
    ∀ d failure, c.resolveDefinition d = .error failure ↔
      ∃ front v back, d.values = front ++ v :: back ∧ (∀ w ∈ front, ∃ r, c.resolve w = .ok r) ∧
        c.resolve v = .error failure := by
  have settled : ∀ v r, c.resolve v = .ok r → r.Resolved ∧ ∀ other : Container, other.resolve r = .ok r := by
    intro v r hok
    have resolved := resolved_of_resolve hok
    exact ⟨resolved, fun other => resolved.substitute_eq⟩
  refine ⟨settled, fun d d' hok => ?_, fun d failure => ?_⟩
  · have all := Definition.forall₂_values hok
    have each : ∀ r ∈ d'.values, r.Resolved ∧ ∀ other : Container, other.resolve r = .ok r := by
      intro r mem
      obtain ⟨v, -, hv⟩ := exists_of_forall₂ all.flip mem
      exact settled v r hv
    refine ⟨Definition.sameShape_of_substitute hok, all, each, fun other => ?_⟩
    exact Definition.substitute_of_resolved fun r mem => (each r mem).1
  · exact Definition.substitute_eq_error_iff.trans mapM_eq_error_iff

end ServiceContainer

import ServiceContainer.Compilation
import ServiceContainer.Proofs.Container
import ServiceContainer.Proofs.Document.Service
import ServiceContainer.Proofs.Value.NormalForm

/-!
# Containers read from documents are in normal form

Every value that a document leaves in a container is in normal form, and a callable that is made of a target and
a method is kept as what the target turns out to be: a service, a class named literally, or a value that is
neither. Writing what was read keeps a container in normal form, and so does reading one document after the other.
-/

namespace ServiceContainer

/-- What is called on a service or a named class is not kept as called on a value. -/
inductive Configurator.Normal : Configurator → Prop
  | function (name : String) : Normal (.function name)
  | serviceMethod {service : ServiceId} (noAt : service.toList.head? ≠ some '@') (method : String) :
      Normal (.serviceMethod service method)
  | classMethod {name : String} (isName : isQualifiedName name = true) (method : String) :
      Normal (.classMethod name method)
  | staticMethod {target : Value} (normal : target.Normal) (noService : ∀ id, target ≠ .service id)
      (noName : ∀ name, target = .text name → isQualifiedName name = false) (method : String) :
      Normal (.staticMethod target method)

def Arguments.Normal (arguments : Arguments) : Prop := ∀ argument ∈ arguments, argument.2.Normal

structure Definition.Normal (d : Definition) : Prop where
  className : d.className.Normal
  file : ∀ v ∈ d.file, v.Normal
  arguments : Arguments.Normal d.arguments
  calls : ∀ call ∈ d.calls, Arguments.Normal call.arguments
  configurator : ∀ configurator ∈ d.configurator, configurator.Normal

structure Container.Normal (c : Container) : Prop where
  parameters : ∀ (key : ParameterKey) (v : Value), c.parameters[key]? = some v → v.Normal
  definitions : ∀ (id : ServiceId) (d : Definition), c.entries[id]? = some (.definition d) → d.Normal

/-! ### Definitions -/

namespace Definition

variable {id : ServiceId} {tree : Tree} {field : String}

theorem normal_readArguments {arguments : Arguments} (hread : readArguments id field tree = .ok arguments) :
    Arguments.Normal arguments := by
  unfold readArguments at hread
  split at hread
  · cases hread
    rw [Arguments.Normal, List.forall_mem_map]
    exact fun entry _ => Value.normal_ofTree entry.2
  · cases hread
    exact nofun
  · cases hread

theorem normal_pairConfigurator {target : Value} (normal : target.Normal) (method : String) :
    (pairConfigurator target method).Normal := by
  unfold pairConfigurator
  split
  · cases normal with
    | service noAt => exact .serviceMethod noAt method
  · rename_i name
    split
    · rename_i isName
      exact .classMethod isName method
    · rename_i noName
      refine .staticMethod normal nofun ?_ method
      rintro other heq
      cases heq
      exact Bool.eq_false_iff.mpr noName
  · rename_i noService noText
    refine .staticMethod normal noService ?_ method
    rintro name rfl
    exact absurd rfl (noText name)

theorem normal_readConfigurator {configurator : Configurator}
    (hread : readConfigurator id tree = .ok configurator) : configurator.Normal := by
  unfold readConfigurator at hread
  split at hread
  · cases hread
    exact .function _
  · obtain ⟨method, -, rfl⟩ := map_eq_ok_iff.mp hread
    exact normal_pairConfigurator (Value.normal_ofTree _) method
  · cases hread
  · cases hread

theorem normal_readCall {call : MethodCall} (hread : readCall id tree = .ok call) :
    Arguments.Normal call.arguments := by
  unfold readCall at hread
  split at hread
  · obtain ⟨method, -, heq⟩ := bind_eq_ok_iff.mp hread
    cases heq
    exact nofun
  · obtain ⟨method, -, rest⟩ := bind_eq_ok_iff.mp hread
    obtain ⟨arguments, harguments, heq⟩ := bind_eq_ok_iff.mp rest
    cases heq
    exact normal_readArguments harguments
  · cases hread

theorem normal_readCalls {calls : List MethodCall} (hread : readCalls id tree = .ok calls) :
    ∀ call ∈ calls, Arguments.Normal call.arguments := by
  unfold readCalls at hread
  split at hread
  · intro call mem
    obtain ⟨entry, -, hcall⟩ := exists_of_forall₂ (mapM_eq_ok_iff.mp hread).flip mem
    exact normal_readCall hcall
  · cases hread
    exact nofun
  · cases hread

theorem normal_readClass {className : Value} (hread : readClass id tree = .ok className) : className.Normal := by
  unfold readClass at hread
  split at hread
  · cases hread
  · cases hread
  · cases hread
    exact Value.normal_ofTree _

theorem normal_ofTree {d : Definition} (hread : ofTree id tree = .ok d) : d.Normal := by
  obtain ⟨hclass, -, -, hfile, harguments, hconfigurator, hcalls⟩ := ofTree_eq_ok_iff.mp hread
  constructor
  case className => exact normal_readClass hclass
  case file =>
      intro v mem
      rw [← hfile] at mem
      obtain ⟨file, -, rfl⟩ := Option.map_eq_some_iff.mp mem
      exact Value.normal_ofTree file
  case arguments =>
      rcases of_readField_eq_ok harguments with hnone | ⟨value, -, hvalue⟩
      · rw [hnone]
        exact nofun
      · exact normal_readArguments hvalue
  case calls =>
      rcases of_readField_eq_ok hcalls with hnone | ⟨value, -, hvalue⟩
      · rw [hnone]
        exact nofun
      · exact normal_readCalls hvalue
  case configurator =>
      intro configurator mem
      rw [Option.mem_def.mp mem] at hconfigurator
      rcases of_readField_eq_ok hconfigurator with hnone | ⟨value, -, hvalue⟩
      · cases hnone
      · obtain ⟨_, hread, heq⟩ := map_eq_ok_iff.mp hvalue
        cases heq
        exact normal_readConfigurator hread

end Definition

theorem Entry.normal_ofTree {id : ServiceId} {tree : Tree} {d : Definition}
    (hread : Entry.ofTree id tree = .ok (.definition d)) : d.Normal := by
  unfold Entry.ofTree at hread
  split at hread
  · split at hread <;> cases hread
  · obtain ⟨_, -, rest⟩ := bind_eq_ok_iff.mp hread
    obtain ⟨d', hd, heq⟩ := bind_eq_ok_iff.mp rest
    cases heq
    exact Definition.normal_ofTree hd
  · cases hread

/-! ### Containers -/

namespace Container

variable {c : Container} {mode : Mode}

theorem normal_empty : empty.Normal where
  parameters key v found := by
    rw [empty, Std.ExtTreeMap.getElem?_empty] at found
    cases found
  definitions id d found := by
    rw [empty, Std.ExtTreeMap.getElem?_empty] at found
    cases found

theorem Normal.setParameter (normal : c.Normal) (name : String) {v : Value} (hv : v.Normal) :
    (c.setParameter name v).Normal where
  parameters key w found := by
    rw [getElem?_setParameter] at found
    split at found
    · cases found
      exact hv
    · exact normal.parameters key w found
  definitions := normal.definitions

theorem Normal.setEntry (normal : c.Normal) (id : ServiceId) {entry : Entry}
    (hentry : ∀ d, entry = .definition d → d.Normal) : (c.setEntry id entry).Normal where
  parameters := normal.parameters
  definitions other d found := by
    rw [getElem?_setEntry] at found
    split at found
    · exact hentry d (Option.some.inj found)
    · exact normal.definitions other d found

theorem Normal.foldl_addParameter (normal : c.Normal) (parameters : List (Key × Tree)) :
    (parameters.foldl addParameter c).Normal := by
  induction parameters generalizing c with
  | nil => exact normal
  | cons parameter parameters ih =>
      obtain ⟨key, tree⟩ := parameter
      exact ih (normal.setParameter key.text (Value.normal_ofTree tree))

theorem Normal.addService (normal : c.Normal) {service : Key × Tree} {c' : Container}
    (hadd : c.addService service = .ok c') : c'.Normal := by
  obtain ⟨key, tree⟩ := service
  simp only [Container.addService] at hadd
  split at hadd
  · cases hadd
  · obtain ⟨entry, hentry, rfl⟩ := map_eq_ok_iff.mp hadd
    refine normal.setEntry key.text fun d hd => ?_
    subst hd
    exact Entry.normal_ofTree hentry

theorem Normal.addDocument (normal : c.Normal) {tree : Tree} {c' : Container}
    (hadd : c.addDocument mode tree = .ok c') : c'.Normal := by
  obtain ⟨doc, -, hservices⟩ := bind_eq_ok_iff.mp hadd
  exact of_foldlM_eq_ok hservices (normal.foldl_addParameter _)
    fun c service _ c' normal hservice => normal.addService hservice

/-- A container that a document is read into has all its values in normal form. -/
theorem normal_of_addDocument (mode : Mode) (tree : Tree) (c : Container)
    (hread : empty.addDocument mode tree = .ok c) : c.Normal :=
  normal_empty.addDocument hread

/-- A document with every form of string, some in a list, and with a target that is a service. -/
def mailerDocument : Tree :=
  .map
    [(.name "parameters", .map
        [(.name "From", .scalar (.text "%user%@%%host")), (.name "to", .map [(.index 0, .scalar (.text "%From%"))])]),
      (.name "services", .map
        [(.name "mailer", .map
          [(.name "class", .scalar (.text "%mailer.class%")),
            (.name "arguments", .map [(.index 0, .scalar (.text "@transport")), (.index 1, .scalar (.text "@@100%"))]),
            (.name "configurator", .map [(.index 0, .scalar (.text "@setup")), (.index 1, .scalar (.text "run"))])]),
          (.name "post", .scalar (.text "@mailer"))])]

theorem normal_mailerDocument : ∃ c, empty.addDocument .withParameters mailerDocument = .ok c ∧ c.Normal := by
  have isOk : (empty.addDocument .withParameters mailerDocument).toBool = true := by decide +kernel
  obtain ⟨c, hread⟩ := exists_eq_ok_of_toBool isOk
  exact ⟨c, hread, normal_of_addDocument .withParameters mailerDocument c hread⟩

end Container

end ServiceContainer

import Mathlib.Order.WellFoundedSet
import ServiceContainer.Proofs.Compilation
import ServiceContainer.Proofs.Container

/-!
# Construction of services

An accessor asks for other services twice: for what the constructor is given, and for what the finished
instance is set up with by method calls and its configurator. It stores the instance behind both. The check
of a container is about the first kind alone, so constructions never wait for each other, and a service may
still come back to itself through the second.
-/

namespace ServiceContainer

open Relation (TransGen)

def Configurator.services : Configurator → List ServiceId
  | .serviceMethod service _ => [service]
  | .staticMethod target _ => target.services
  | .function _ | .classMethod _ _ => []

/-- What a finished instance is set up with before it is stored. -/
def Definition.setupServices (d : Definition) : List ServiceId :=
  (d.calls.flatMap fun call => call.arguments.flatMap fun (_, value) => value.services) ++
    d.configurator.toList.flatMap Configurator.services

namespace Entry

def setupServices : Entry → List ServiceId
  | .alias _ => []
  | .definition d => d.setupServices

/-- All that the accessor of an entry asks for before its instance is stored. -/
def services (entry : Entry) : List ServiceId := entry.constructorServices ++ entry.setupServices

end Entry

namespace Container

/-- The entry of `a` requests `b`, another entry. The container itself is there from the start. -/
def Asks (c : Container) (requests : Entry → List ServiceId) (a b : ServiceId) : Prop :=
  b ≠ Php.containerId ∧ b ∈ c.entries ∧ ∃ entry, c.entries[a]? = some entry ∧ b ∈ requests entry

/-- Constructions never wait for each other, and following what they ask for comes to an end everywhere. A
service that comes back to itself does so through a request that is made for a finished instance only. -/
structure ConstructsInOrder (c : Container) : Prop where
  wellFounded : WellFounded fun b a => c.Asks Entry.constructorServices a b
  acyclic : ∀ id, ¬ TransGen (c.Asks Entry.constructorServices) id id
  exists_setup : ∀ {id middle}, (id :: (middle ++ [id])).IsChain (c.Asks Entry.services) →
    ∃ front a b back, id :: (middle ++ [id]) = front ++ a :: b :: back ∧
      c.Asks Entry.setupServices a b ∧ ¬ c.Asks Entry.constructorServices a b

variable {c : Container} {settings : Settings} {text : String}

theorem compile_eq_ok_iff (hcheck : settings.checkReferences = true) :
    c.compile settings = .ok text ↔
      c.checkAliases = .ok () ∧ (ReferenceGraph.ofContainer c).check = .ok () ∧
        Php.containerClass settings.names c = .ok text := by
  rw [compile_eq_ok_iff_and, forall_prop_of_true hcheck]

theorem Asks.refers {a b : ServiceId} (asks : c.Asks Entry.constructorServices a b) :
    (ReferenceGraph.ofContainer c).Refers a b :=
  ReferenceGraph.refers_ofContainer.mpr asks.2.2

theorem Asks.mem_entries {requests : Entry → List ServiceId} {a b : ServiceId}
    (asks : c.Asks requests a b) : a ∈ c.entries ∧ b ∈ c.entries := by
  obtain ⟨-, target, entry, found, -⟩ := asks
  exact ⟨mem_entries_of_found found, target⟩

theorem wellFounded_asks {requests : Entry → List ServiceId}
    (acyclic : ∀ id, ¬ TransGen (c.Asks requests) id id) :
    WellFounded fun b a => c.Asks requests a b := by
  have irreflexive : Std.Irrefl fun b a => TransGen (c.Asks requests) a b := ⟨acyclic⟩
  have transitive : IsTrans ServiceId fun b a => TransGen (c.Asks requests) a b :=
    ⟨fun _ _ _ hba hcb => hcb.trans hba⟩
  have strict : IsStrictOrder ServiceId fun b a => TransGen (c.Asks requests) a b := ⟨⟩
  have finite : {id | id ∈ c.ids}.Finite := List.finite_toSet c.ids
  have wellFounded := Set.wellFoundedOn_iff.mp
    (finite.wellFoundedOn (r := fun b a => TransGen (c.Asks requests) a b))
  refine Subrelation.wf ?_ wellFounded
  intro b a asks
  obtain ⟨source, target⟩ := asks.mem_entries
  exact ⟨TransGen.single asks, Std.ExtTreeMap.mem_keys.mpr target, Std.ExtTreeMap.mem_keys.mpr source⟩

theorem asks_services_iff {a b : ServiceId} :
    c.Asks Entry.services a b ↔ c.Asks Entry.constructorServices a b ∨ c.Asks Entry.setupServices a b := by
  simp only [Asks, Entry.services, List.mem_append]
  grind

theorem exists_step_of_not_isChain {α : Type} {r s : α → α → Prop} {path : List α}
    (chain : path.IsChain r) (hnot : ¬ path.IsChain s) :
    ∃ front a b back, path = front ++ a :: b :: back ∧ r a b ∧ ¬ s a b := by
  induction chain with
  | nil => exact absurd List.IsChain.nil hnot
  | singleton a => exact absurd (List.IsChain.singleton a) hnot
  | @cons_cons a b rest hab tail ih =>
      by_cases hs : s a b
      · have hrest : ¬ (b :: rest).IsChain s := fun chain => hnot (chain.cons_cons hs)
        obtain ⟨front, c, d, back, heq, hr, hns⟩ := ih hrest
        exact ⟨a :: front, c, d, back, by rw [heq, List.cons_append], hr, hns⟩
      · exact ⟨[], a, b, rest, rfl, hab, hs⟩

/-- Constructions in a container that is accepted with the check of references are in order. -/
theorem constructsInOrder_of_compile_eq_ok (c : Container) (settings : Settings) (text : String)
    (hcheck : settings.checkReferences = true) (hok : c.compile settings = .ok text) :
    c.ConstructsInOrder := by
  have graphAcyclic : ∀ id, ¬ (ReferenceGraph.ofContainer c).OnCycle id :=
    (ReferenceGraph.wellFormed_ofContainer c).check_eq_ok_iff.mp ((compile_eq_ok_iff hcheck).mp hok).2.1
  have acyclic : ∀ id, ¬ TransGen (c.Asks Entry.constructorServices) id id :=
    fun id cycle => graphAcyclic id (TransGen.mono (fun _ _ => Asks.refers) id id cycle)
  refine ⟨wellFounded_asks acyclic, acyclic, ?_⟩
  intro id middle chain
  have hnot : ¬ (id :: (middle ++ [id])).IsChain (c.Asks Entry.constructorServices) := by
    intro constructed
    refine graphAcyclic id (ReferenceGraph.onCycle_iff_exists_cycleAt.mpr ⟨_, middle, rfl, ?_⟩)
    exact constructed.imp fun _ _ => Asks.refers
  obtain ⟨front, a, b, back, heq, asks, hconstructor⟩ := exists_step_of_not_isChain chain hnot
  exact ⟨front, a, b, back, heq, (asks_services_iff.mp asks).resolve_left hconstructor, hconstructor⟩

/-! ### Two services that need each other -/

def constructedWith (id : ServiceId) : Definition :=
  { className := .text "A", arguments := [(.index 0, .service id)] }

def handedToSetter (id : ServiceId) : Definition :=
  { className := .text "B", calls := [⟨"set", [(.index 0, .service id)]⟩] }

def withSetter : Container :=
  (empty.setDefinition "a" (constructedWith "b")).setDefinition "b" (handedToSetter "a")

theorem compile_withSetter : ∃ text, withSetter.compile {} = .ok text := by
  have references : (ReferenceGraph.ofContainer withSetter).references = [("a", "b")] := by
    decide +kernel
  have refers : ∀ {a b}, (ReferenceGraph.ofContainer withSetter).Refers a b → a = "a" ∧ b = "b" := by
    intro a b refers
    rw [ReferenceGraph.Refers, references] at refers
    simpa using refers
  have acyclic : ∀ id, ¬ (ReferenceGraph.ofContainer withSetter).OnCycle id := by
    intro id cycle
    obtain ⟨next, first, -⟩ := TransGen.head'_iff.mp cycle
    obtain ⟨before, -, last⟩ := TransGen.tail'_iff.mp cycle
    have heq : "a" = "b" := (refers first).1.symm.trans (refers last).2
    exact absurd heq (by decide)
  have isOk : (Php.containerClass {} withSetter).toBool = true := by decide +kernel
  obtain ⟨text, generated⟩ := exists_eq_ok_of_toBool isOk
  have aliases : withSetter.checkAliases = .ok () := by
    have none : withSetter.aliases = [] := by decide +kernel
    rw [checkAliases, none]
    rfl
  have checked : (ReferenceGraph.ofContainer withSetter).check = .ok () :=
    (ReferenceGraph.wellFormed_ofContainer withSetter).check_eq_ok_iff.mpr acyclic
  exact ⟨text, (compile_eq_ok_iff rfl).mpr ⟨aliases, checked, generated⟩⟩

theorem constructsInOrder_withSetter : ({} : Settings).checkReferences = true ∧
    (∃ text, withSetter.compile {} = .ok text) ∧ withSetter.ConstructsInOrder := by
  obtain ⟨text, hok⟩ := compile_withSetter
  exact ⟨rfl, ⟨text, hok⟩, constructsInOrder_of_compile_eq_ok withSetter {} text rfl hok⟩

/-- The setter closes a cycle: each of the two accessors asks for the other before it stores its instance. -/
theorem withSetter_cycle : ({} : Settings).checkReferences = true ∧
    (∃ text, withSetter.compile {} = .ok text) ∧ TransGen (withSetter.Asks Entry.services) "a" "a" := by
  have ha : withSetter.entries["a"]? = some (.definition (constructedWith "b")) := by
    simp [withSetter, setDefinition, getElem?_setEntry]
  have hb : withSetter.entries["b"]? = some (.definition (handedToSetter "a")) := by
    simp [withSetter, setDefinition, getElem?_setEntry]
  have aAsksB : withSetter.Asks Entry.services "a" "b" :=
    ⟨by decide, by decide +kernel, _, ha, by decide +kernel⟩
  have bAsksA : withSetter.Asks Entry.services "b" "a" :=
    ⟨by decide, by decide +kernel, _, hb, by decide +kernel⟩
  exact ⟨rfl, compile_withSetter, (TransGen.single aAsksB).tail bAsksA⟩

end Container

end ServiceContainer

import ServiceContainer.Proofs.Php.ClassReading
import ServiceContainer.Proofs.Php.Lexing

/-!
# Generated classes can be read back

The text of a generated class can be read, and holds what its container holds. So whatever stands in the ids,
keys and strings of a container, two containers have one text only if they hold the same.
-/

namespace ServiceContainer

/-! ### What a container holds -/

/-- The strings with parameters in a value, as their segments. -/
def Value.templates : Value → List (List (Segment ParameterKey))
  | .template segments => [segments]
  | .list items => ofItems items
  | .scalar _ | .service _ | .parameter _ | .object _ => []
where
  ofItems : List (Key × Value) → List (List (Segment ParameterKey))
    | [] => []
    | (_, item) :: items => item.templates ++ ofItems items

theorem Value.templates_list (items : List (Key × Value)) :
    (list items).templates = items.flatMap fun entry => entry.2.templates := by
  rw [templates]
  induction items with
  | nil => rfl
  | cons entry items ih => rw [templates.ofItems, ih, List.flatMap_cons]

/-- Each string with parameters has two segments or more. -/
def Value.Split (v : Value) : Prop := ∀ segments ∈ v.templates, 2 ≤ segments.length

instance (v : Value) : Decidable v.Split :=
  inferInstanceAs (Decidable (∀ segments ∈ v.templates, 2 ≤ segments.length))

def Entry.values : Entry → List Value
  | .definition d => d.values
  | .alias _ => []

def Container.values (c : Container) : List Value :=
  c.entries.toList.flatMap (fun (_, entry) => entry.values) ++ c.parameters.toList.map (·.2)

namespace Php

/-! ### What is written can be read -/

theorem ofItems_eq_map (items : List (Key × Value)) :
    Shown.ofValue.ofItems items = items.map fun entry => (entry.1, .ofValue entry.2) := by
  induction items with
  | nil => rfl
  | cons entry items ih => rw [Shown.ofValue.ofItems, ih, List.map_cons]

theorem readable_ofValue {v : Value} (hsplit : v.Split) (writable : v.Writable) : (Shown.ofValue v).Readable := by
  induction v with
  | scalar s => exact .literal _
  | list items ih =>
      refine .list _ fun shown hshown => ?_
      rw [ofItems_eq_map] at hshown
      obtain ⟨entry, mem, rfl⟩ := List.mem_map.mp hshown
      have hitem : entry.2.Split := by
        intro segments hsegments
        refine hsplit segments ?_
        rw [Value.templates_list]
        exact List.mem_flatMap_of_mem mem hsegments
      cases writable with
      | list writable => exact ih entry mem hitem (writable entry mem)
  | service id => exact .service id
  | parameter key => exact .parameter key.text
  | template segments =>
      have hlength := hsplit segments List.mem_cons_self
      match segments, hlength with
      | first :: second :: others, _ => exact .template _ _ _
  | object type => cases writable

theorem readable_arguments {args : Arguments} (hsplit : ∀ v ∈ args.map (·.2), v.Split)
    (writable : Arguments.Writable args) : ∀ a ∈ ShownArguments.ofArguments args, a.2.Readable := by
  intro a ha
  obtain ⟨argument, mem, rfl⟩ := List.mem_map.mp ha
  exact readable_ofValue (hsplit argument.2 (List.mem_map_of_mem mem)) (writable.values argument mem)

theorem readable_ofConfigurator {c : Configurator} (hsplit : ∀ v ∈ c.values, v.Split) (writable : c.Writable)
    {target : Shown} {method : String} (hstatic : ShownConfigurator.ofConfigurator c = .staticMethod target method) :
    target.Readable := by
  cases writable with
  | @staticMethod v writable _ =>
      cases hstatic
      exact readable_ofValue (hsplit v List.mem_cons_self) writable
  | _ => cases hstatic

theorem readable_ofDefinition {d : Definition} (hsplit : ∀ v ∈ d.values, v.Split) (writable : d.Writable) :
    (ShownDefinition.ofDefinition d).Readable := by
  simp only [Definition.values, List.forall_mem_cons, List.forall_mem_append] at hsplit
  obtain ⟨hclassSplit, ⟨⟨hfileSplit, hargsSplit⟩, hcallsSplit⟩, hconfiguratorSplit⟩ := hsplit
  refine ⟨readable_ofValue hclassSplit writable.className, ?file, readable_arguments hargsSplit writable.arguments,
    ?calls, ?configurator⟩
  case file =>
      intro shown hshown
      obtain ⟨v, mem, rfl⟩ := Option.map_eq_some_iff.mp hshown
      exact readable_ofValue (hfileSplit v (Option.mem_toList.mpr mem)) (writable.file v mem)
  case calls =>
      intro shown hshown
      obtain ⟨c, mem, rfl⟩ := List.mem_map.mp hshown
      refine readable_arguments (fun v hv => hcallsSplit v ?_) (writable.calls c mem).arguments
      exact List.mem_flatMap_of_mem mem hv
  case configurator =>
      intro target method hstatic
      obtain ⟨c, mem, hc⟩ := Option.map_eq_some_iff.mp hstatic
      refine readable_ofConfigurator (fun v hv => hconfiguratorSplit v ?_) (writable.configurator c mem) hc
      exact List.mem_flatMap_of_mem (Option.mem_toList.mpr mem) hv

theorem readable_ofContainer {names : ClassNames} {c : Container} {text : String} (hsplit : ∀ v ∈ c.values, v.Split)
    (htext : containerClass names c = .ok text) : (Contents.ofContainer names c).Readable := by
  obtain ⟨-, -, -, definitions, parameters⟩ := exists_containerClass_iff.mp ⟨text, htext⟩
  simp only [Container.values, List.forall_mem_append] at hsplit
  obtain ⟨hentriesSplit, hparametersSplit⟩ := hsplit
  constructor
  case entries =>
      intro shown hshown d hd
      obtain ⟨⟨id, entry⟩, mem, rfl⟩ := List.mem_map.mp hshown
      match entry, mem, hd with
      | .definition definition, mem, rfl =>
          refine readable_ofDefinition (fun v hv => hentriesSplit v (List.mem_flatMap_of_mem mem hv)) ?_
          exact definitions id definition (Std.ExtTreeMap.mem_toList_iff_getElem?_eq_some.mp mem)
  case parameters =>
      intro shown hshown
      obtain ⟨⟨key, v⟩, mem, rfl⟩ := List.mem_map.mp hshown
      refine readable_ofValue (hparametersSplit v (List.mem_map_of_mem mem)) ?_
      exact parameters key v (Std.ExtTreeMap.mem_toList_iff_getElem?_eq_some.mp mem)

/-- The whole text of a generated class is the tokens of what the container holds, and is read as just that; no
other contents have this text. -/
theorem read_containerClass {names : ClassNames} {c : Container} {text : String} (hsplit : ∀ v ∈ c.values, v.Split)
    (htext : containerClass names c = .ok text) :
    Lexer.tokens? text = some (Contents.ofContainer names c).tokens ∧
      read text = some (Contents.ofContainer names c) ∧
      ∀ names' c', (∀ v ∈ c'.values, v.Split) → containerClass names' c' = .ok text →
        Contents.ofContainer names' c' = Contents.ofContainer names c := by
  have hread : ∀ {names c}, (∀ v ∈ c.values, v.Split) → containerClass names c = .ok text →
      read text = some (Contents.ofContainer names c) := by
    intro names c hsplit htext
    simp [read, tokens?_containerClass htext, Reader.contents_tokens (readable_ofContainer hsplit htext)]
  refine ⟨tokens?_containerClass htext, hread hsplit htext, fun names' c' hsplit' htext' => ?_⟩
  exact Option.some.inj ((hread hsplit' htext').symm.trans (hread hsplit htext))

/-- A container whose texts look like code. -/
def lookalike : Container :=
  ((Container.empty.setParameter "who" (.text "'); ?> 100%")).setDefinition "it's"
    { className := .text "App\\Mailer"
      arguments := [(.index 0, .template [.literal "', $this, '\\", .parameter (.ofName "who")])] }).setAlias
    "post" "it's"

theorem read_lookalike : ∃ text, containerClass {} lookalike = .ok text ∧
    read text = some (Contents.ofContainer {} lookalike) := by
  have isOk : (containerClass {} lookalike).toBool = true := by decide +kernel
  obtain ⟨text, htext⟩ := exists_eq_ok_of_toBool isOk
  have hsplit : ∀ v ∈ lookalike.values, v.Split := by decide +kernel
  exact ⟨text, htext, (read_containerClass hsplit htext).2.1⟩

end Php

end ServiceContainer

import ServiceContainer.Json.Representation
import ServiceContainer.Proofs.Json.Written
import ServiceContainer.Proofs.Value

/-!
# What reports show of values

Two values have the same JSON exactly when they are the same but for floats without digits, for which JSON has no
word.
-/

namespace ServiceContainer

/-! ### Keys, scalars and segments -/

theorem Key.toJson_injective {key key' : Key} (same : key.toJson = key'.toJson) : key = key' := by
  cases key <;> cases key' <;> cases same <;> rfl

theorem Key.shown_toJson (key : Key) : key.toJson.shown = key.toJson := by
  cases key <;> rfl

/-- What reports show of a scalar: a float without digits is no more than null. -/
def Scalar.shown : Scalar → Scalar
  | .float .nan => .null
  | .float (.infinite _) => .null
  | s => s

theorem Scalar.toJson_injective {s s' : Scalar} (same : s.toJson = s'.toJson) : s = s' := by
  cases s <;> cases s' <;> cases same <;> rfl

theorem Scalar.shown_toJson (s : Scalar) : s.toJson.shown = s.shown.toJson := by
  cases s with
  | float x => cases x <;> rfl
  | _ => rfl

theorem ParameterKey.text_injective {key key' : ParameterKey} (same : key.text = key'.text) : key = key' := by
  rw [← ofName_text key, same, ofName_text]

theorem Segment.toJson_injective {segment segment' : Segment ParameterKey} (same : segment.toJson = segment'.toJson) :
    segment = segment' := by
  cases segment <;> cases segment' <;> simp [toJson] at same
  · rw [same]
  · rw [ParameterKey.text_injective same]

theorem Segment.shown_toJson (segment : Segment ParameterKey) : segment.toJson.shown = segment.toJson := by
  cases segment <;> rfl

/-! ### Values -/

theorem Json.ofKind_inj {kind kind' : String} {json json' : Json} :
    ofKind kind json = ofKind kind' json' ↔ kind = kind' ∧ json = json' := by
  simp [ofKind]

theorem Json.shown_ofKind (kind : String) (json : Json) : (ofKind kind json).shown = ofKind kind json.shown := rfl

namespace Value

/-- What reports show of a value. -/
def shown : Value → Value
  | .scalar s => .scalar s.shown
  | .list items => .list (ofItems items)
  | v => v
where
  ofItems : List (Key × Value) → List (Key × Value)
    | [] => []
    | (key, item) :: items => (key, item.shown) :: ofItems items

def shownEntry (entry : Key × Value) : Key × Value := (entry.1, entry.2.shown)

theorem shown_list (items : List (Key × Value)) : shown (.list items) = .list (items.map shownEntry) := by
  rw [shown]
  congr 1
  induction items with
  | nil => rfl
  | cons entry items ih => rw [shown.ofItems, ih, List.map_cons, shownEntry]

/-- An item of a list, or an argument. -/
def entryToJson (entry : Key × Value) : Json := .array [entry.1.toJson, entry.2.toJson]

theorem toJson_list (items : List (Key × Value)) :
    toJson (.list items) = .ofKind "list_of" (.array (items.map entryToJson)) := by
  have hitems : toJson.itemsToJson items = items.map entryToJson := by
    induction items with
    | nil => rfl
    | cons entry items ih => rw [toJson.itemsToJson, ih, List.map_cons, entryToJson]
  rw [toJson, hitems]

variable {v w : Value}

theorem eq_of_entryToJson_eq {entry entry' : Key × Value}
    (hvalue : entry.2.toJson = entry'.2.toJson → entry.2 = entry'.2)
    (same : entryToJson entry = entryToJson entry') : entry = entry' := by
  obtain ⟨hkey, hrest⟩ := List.cons.inj (Json.array.inj same)
  exact Prod.ext (Key.toJson_injective hkey) (hvalue (List.cons.inj hrest).1)

/-- The kind tells the forms of values apart, and what stands beside it the values of each form. -/
theorem toJson_injective (same : v.toJson = w.toJson) : v = w := by
  induction v generalizing w with
  | list items ih =>
      cases w with
      | list items' =>
          rw [toJson_list, toJson_list, Json.ofKind_inj] at same
          have hitems := Json.array.inj same.2
          rw [eq_of_map_eq_map (fun entry mem entry' => eq_of_entryToJson_eq (ih entry mem)) hitems]
      | _ => simp [toJson, Json.ofKind_inj] at same
  | scalar s =>
      cases w with
      | scalar s' => rw [Scalar.toJson_injective (Json.ofKind_inj.mp same).2]
      | _ => simp [toJson, Json.ofKind_inj] at same
  | template segments =>
      cases w with
      | template segments' =>
          have hsegments := Json.array.inj (Json.ofKind_inj.mp same).2
          rw [eq_of_map_eq_map (fun _ _ _ => Segment.toJson_injective) hsegments]
      | _ => simp [toJson, Json.ofKind_inj] at same
  | parameter key =>
      cases w with
      | parameter key' => rw [ParameterKey.text_injective (Json.text.inj (Json.ofKind_inj.mp same).2)]
      | _ => simp [toJson, Json.ofKind_inj] at same
  | service id =>
      cases w with
      | service id' => rw [Json.text.inj (Json.ofKind_inj.mp same).2]
      | _ => simp [toJson, Json.ofKind_inj] at same
  | object type =>
      cases w with
      | object type' => rw [Json.text.inj (Json.ofKind_inj.mp same).2]
      | _ => simp [toJson, Json.ofKind_inj] at same

theorem shown_entryToJson {entry : Key × Value} (hvalue : entry.2.toJson.shown = entry.2.shown.toJson) :
    (entryToJson entry).shown = entryToJson (shownEntry entry) := by
  rw [entryToJson, Json.shown_array, List.map_cons, List.map_singleton, Key.shown_toJson, hvalue]
  rfl

theorem shown_toJson (v : Value) : v.toJson.shown = v.shown.toJson := by
  induction v with
  | list items ih =>
      have hitems := Json.shown_array_map fun entry mem => shown_entryToJson (ih entry mem)
      rw [shown_list, toJson_list, toJson_list, Json.shown_ofKind, hitems, List.map_map]
      rfl
  | scalar s => rw [toJson, Json.shown_ofKind, Scalar.shown_toJson, shown, toJson]
  | template segments =>
      rw [toJson, Json.shown_ofKind, Json.shown_array_map fun segment _ => Segment.shown_toJson segment]
      rfl
  | _ => rfl

theorem shown_toJson_eq_iff : v.toJson.shown = w.toJson.shown ↔ v.shown = w.shown := by
  rw [shown_toJson, shown_toJson]
  exact ⟨toJson_injective, congrArg toJson⟩

end Value

/-! ### Definitions -/

open Value (entryToJson shownEntry)

namespace Arguments

def shown (arguments : Arguments) : Arguments := arguments.map shownEntry

theorem toJson_injective {arguments arguments' : Arguments} (same : arguments.toJson = arguments'.toJson) :
    arguments = arguments' :=
  eq_of_map_eq_map (fun _ _ _ => Value.eq_of_entryToJson_eq Value.toJson_injective) (Json.array.inj same)

theorem shown_toJson (arguments : Arguments) : arguments.toJson.shown = arguments.shown.toJson := by
  have hentries := Json.shown_array_map fun entry (_ : entry ∈ arguments) =>
    Value.shown_entryToJson (Value.shown_toJson entry.2)
  rw [shown, toJson, toJson, List.map_map]
  exact hentries

end Arguments

namespace MethodCall

def shown (call : MethodCall) : MethodCall := { call with arguments := call.arguments.shown }

theorem toJson_injective {call call' : MethodCall} (same : call.toJson = call'.toJson) : call = call' := by
  obtain ⟨method, arguments⟩ := call
  obtain ⟨method', arguments'⟩ := call'
  simp only [toJson, Json.object.injEq, List.cons.injEq, Prod.mk.injEq, Json.text.injEq, true_and, and_true] at same
  rw [same.1, Arguments.toJson_injective same.2]

theorem shown_toJson (call : MethodCall) : call.toJson.shown = call.shown.toJson := by
  rw [toJson, toJson, shown, ← Arguments.shown_toJson, Json.shown_object]
  rfl

end MethodCall

namespace Configurator

def shown : Configurator → Configurator
  | .staticMethod target method => .staticMethod target.shown method
  | configurator => configurator

theorem toJson_injective {configurator configurator' : Configurator}
    (same : configurator.toJson = configurator'.toJson) : configurator = configurator' := by
  cases configurator <;> cases configurator' <;> simp [toJson] at same
  · rw [same]
  · rw [same.1, same.2]
  · rw [same.1, same.2]
  · rw [Value.toJson_injective same.1, same.2]

theorem shown_toJson (configurator : Configurator) : configurator.toJson.shown = configurator.shown.toJson := by
  cases configurator with
  | staticMethod target method =>
      rw [toJson, shown, toJson, ← Value.shown_toJson, Json.shown_object]
      rfl
  | _ => rfl

end Configurator

section Optional

variable {α : Type} {toJson : α → Json}

/-- Something that is missing is written as null. -/
theorem elim_toJson_injective (notNull : ∀ a, toJson a ≠ .null) (injective : ∀ a b, toJson a = toJson b → a = b)
    {o o' : Option α} (same : o.elim .null toJson = o'.elim .null toJson) : o = o' := by
  cases o with
  | none =>
      cases o' with
      | none => rfl
      | some b => exact absurd same.symm (notNull b)
  | some a =>
      cases o' with
      | none => exact absurd same (notNull a)
      | some b => rw [injective a b same]

theorem shown_elim_toJson (shown : α → α) (each : ∀ a, (toJson a).shown = toJson (shown a)) (o : Option α) :
    (o.elim .null toJson).shown = (o.map shown).elim .null toJson := by
  cases o with
  | none => rfl
  | some a => exact each a

end Optional

namespace Definition

def shown (d : Definition) : Definition :=
  { className := d.className.shown
    shared := d.shared
    factory := d.factory
    file := d.file.map Value.shown
    arguments := d.arguments.shown
    configurator := d.configurator.map Configurator.shown
    calls := d.calls.map MethodCall.shown }

theorem toJson_injective {d d' : Definition} (same : d.toJson = d'.toJson) : d = d' := by
  obtain ⟨className, shared, factory, file, arguments, configurator, calls⟩ := d
  obtain ⟨className', shared', factory', file', arguments', configurator', calls'⟩ := d'
  simp only [toJson, Json.object.injEq, List.cons.injEq, Prod.mk.injEq, Json.bool.injEq, Json.array.injEq, true_and,
    and_true] at same
  obtain ⟨hclass, hshared, hfactory, hfile, harguments, hconfigurator, hcalls⟩ := same
  have hfactory' : factory = factory' :=
    elim_toJson_injective (fun _ null => by cases null) (fun _ _ => Json.text.inj) hfactory
  have hfile' : file = file' :=
    elim_toJson_injective (fun v null => by cases v <;> cases null) (fun _ _ => Value.toJson_injective) hfile
  have hconfigurator' : configurator = configurator' :=
    elim_toJson_injective (fun c null => by cases c <;> cases null) (fun _ _ => Configurator.toJson_injective)
      hconfigurator
  rw [Value.toJson_injective hclass, hshared, hfactory', hfile', Arguments.toJson_injective harguments, hconfigurator',
    eq_of_map_eq_map (fun _ _ _ => MethodCall.toJson_injective) hcalls]

theorem shown_toJson (d : Definition) : d.toJson.shown = d.shown.toJson := by
  have hfactory : (d.factory.elim .null Json.text).shown = d.factory.elim .null Json.text := by cases d.factory <;> rfl
  have hcalls := Json.shown_array_map fun call (_ : call ∈ d.calls) => MethodCall.shown_toJson call
  rw [toJson, Json.shown_object]
  simp only [List.map_cons, List.map_nil, Value.shown_toJson, hfactory, hcalls, Arguments.shown_toJson,
    shown_elim_toJson _ Value.shown_toJson, shown_elim_toJson _ Configurator.shown_toJson]
  rw [shown, toJson, List.map_map]
  rfl

end Definition

end ServiceContainer

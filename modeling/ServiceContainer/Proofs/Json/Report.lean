import ServiceContainer.Proofs.Json.Representation
import ServiceContainer.Report

/-!
# What reports show

The JSON of a report tells its values, definitions and parameters, all but floats without digits: for these it has
null.
-/

namespace ServiceContainer

/-! ### Floats without digits -/

namespace Value

def floats : Value → List Double
  | .scalar (.float x) => [x]
  | .list items => ofItems items
  | _ => []
where
  ofItems : List (Key × Value) → List Double
    | [] => []
    | (_, item) :: items => item.floats ++ ofItems items

theorem floats_list (items : List (Key × Value)) :
    floats (.list items) = items.flatMap fun entry => entry.2.floats := by
  rw [floats]
  induction items with
  | nil => rfl
  | cons entry items ih => rw [floats.ofItems, ih, List.flatMap_cons]

/-- All of a value shows exactly when its floats are finite. -/
theorem shown_eq_self_iff (v : Value) : v.shown = v ↔ ∀ x ∈ v.floats, x.isFinite = true := by
  induction v with
  | scalar s =>
      cases s with
      | float x => cases x <;> simp [shown, Scalar.shown, floats, Double.isFinite]
      | _ => exact iff_of_true rfl (List.forall_mem_nil _)
  | list items ih =>
      have hmap : items.map shownEntry = items ↔ ∀ entry ∈ items, shownEntry entry = entry := by
        simpa using List.map_inj_left (l := items) (f := shownEntry) (g := id)
      have hentry : ∀ entry : Key × Value, shownEntry entry = entry ↔ entry.2.shown = entry.2 :=
        fun entry => by simp [shownEntry, Prod.ext_iff]
      rw [shown_list, floats_list, list.injEq, hmap, List.forall_mem_flatMap]
      exact forall₂_congr fun entry mem => (hentry entry).trans (ih entry mem)
  | _ => exact iff_of_true rfl (List.forall_mem_nil _)

end Value

namespace Report

def shown (r : Report) : Report :=
  { r with
    services := r.services.map fun (id, d) => (id, d.shown)
    parameters := r.parameters.map fun (key, value) => (key, value.shown) }

theorem toJson_injective {r r' : Report} (same : r.toJson = r'.toJson) : r = r' := by
  obtain ⟨services, aliases, parameters, buildOrder⟩ := r
  obtain ⟨services', aliases', parameters', buildOrder'⟩ := r'
  simp only [toJson, Json.object.injEq, List.cons.injEq, Prod.mk.injEq, true_and, and_true] at same
  obtain ⟨hservices, haliases, hparameters, hbuildOrder⟩ := same
  have hservices' : services = services' := by
    refine eq_of_map_eq_map (fun service _ service' heq => ?_) hservices
    obtain ⟨hid, hd⟩ := Prod.mk.inj heq
    exact Prod.ext hid (Definition.toJson_injective hd)
  have haliases' : aliases = aliases' := by
    refine eq_of_map_eq_map (fun pair _ pair' heq => ?_) haliases
    obtain ⟨hid, htarget⟩ := Prod.mk.inj heq
    exact Prod.ext hid (Json.text.inj htarget)
  have hparameters' : parameters = parameters' := by
    refine eq_of_map_eq_map (fun parameter _ parameter' heq => ?_) hparameters
    obtain ⟨hkey, hvalue⟩ := Prod.mk.inj heq
    exact Prod.ext (ParameterKey.text_injective hkey) (Value.toJson_injective hvalue)
  have hbuildOrder' : buildOrder = buildOrder' := by
    refine elim_toJson_injective (fun _ null => by cases null) (fun ids ids' heq => ?_) hbuildOrder
    exact eq_of_map_eq_map (fun _ _ _ => Json.text.inj) (Json.array.inj heq)
  rw [hservices', haliases', hparameters', hbuildOrder']

/-- Ids show as they are. -/
theorem shown_buildOrder (ids : List ServiceId) : (Json.array (ids.map .text)).shown = .array (ids.map .text) :=
  Json.shown_array_map fun _ _ => rfl

theorem shown_toJson (r : Report) : r.toJson.shown = r.shown.toJson := by
  have hservices := Json.shown_object_map (·.1) fun service (_ : service ∈ r.services) =>
    Definition.shown_toJson service.2
  have haliases := Json.shown_object_map (·.1) (f := fun pair => .text pair.2) (g := fun pair => .text pair.2)
    fun pair (_ : pair ∈ r.aliases) => rfl
  have hparameters := Json.shown_object_map (·.1.text) fun parameter (_ : parameter ∈ r.parameters) =>
    Value.shown_toJson parameter.2
  have hbuildOrder := shown_elim_toJson id shown_buildOrder r.buildOrder
  rw [Option.map_id_fun, id] at hbuildOrder
  rw [toJson, Json.shown_object]
  simp only [List.map_cons, List.map_nil, hservices, haliases, hparameters, hbuildOrder]
  rw [shown, toJson, List.map_map, List.map_map]
  rfl

/-- Reports and the values in them are told apart by their JSON as far as they show, and of a value all shows but
floats without digits. -/
theorem toJson_faithful :
    (∀ v : Value, v.shown = v ↔ ∀ x ∈ v.floats, x.isFinite = true) ∧
      (∀ v w : Value, v.toJson.compact = w.toJson.compact ↔ v.shown = w.shown) ∧
      (∀ (v w : Value) (n : ℕ), v.toJson.pretty (String.ofList (List.replicate n ' ')) =
        w.toJson.pretty (String.ofList (List.replicate n ' ')) ↔ v.shown = w.shown) ∧
      ∀ r r' : Report, r.toJson.pretty "" = r'.toJson.pretty "" ↔ r.shown = r'.shown := by
  refine ⟨Value.shown_eq_self_iff, fun v w => ?compact, fun v w n => ?pretty, fun r r' => ?report⟩
  case compact =>
      rw [Json.compact_eq_iff, Value.shown_toJson_eq_iff]
  case pretty =>
      have spaces : (String.ofList (List.replicate n ' ')).toList.all Json.Token.isSpace = true := by
        rw [String.toList_ofList, List.all_replicate]
        split <;> rfl
      rw [Json.pretty_eq_iff spaces, Value.shown_toJson_eq_iff]
  case report =>
      have nomargin : "".toList.all Json.Token.isSpace = true := rfl
      rw [Json.pretty_eq_iff nomargin, shown_toJson, shown_toJson]
      exact ⟨toJson_injective, congrArg toJson⟩

/-- Infinity is written like null. -/
theorem infinite_shows_null :
    Value.scalar (.float (.infinite false)) ≠ .scalar .null ∧
      (Value.scalar (.float (.infinite false))).toJson.compact = (Value.scalar .null).toJson.compact :=
  ⟨nofun, rfl⟩

end Report

end ServiceContainer

import ServiceContainer.Proofs.Json.Source

/-!
# JSON read back

Both written forms of a value are read as the same source, and this says what the value is but for doubles without
digits, which are written as null.
-/

namespace ServiceContainer.Json

/-! ### Sources of values -/

@[elab_as_elim, induction_eliminator]
theorem induction {P : Json → Prop} (null : P .null) (bool : ∀ b, P (.bool b)) (int : ∀ n, P (.int n))
    (float : ∀ x, P (.float x)) (text : ∀ s, P (.text s))
    (array : ∀ items, (∀ item ∈ items, P item) → P (.array items))
    (object : ∀ fields, (∀ field ∈ fields, P field.2) → P (.object fields)) (json : Json) : P json := by
  refine @Json.rec P (fun items => ∀ item ∈ items, P item) (fun fields => ∀ field ∈ fields, P field.2)
    (fun field => P field.2) null bool int float text array object ?_ ?_ ?_ ?_ ?_ json
  · exact nofun
  · exact fun item items hitem hitems => List.forall_mem_cons.mpr ⟨hitem, hitems⟩
  · exact nofun
  · exact fun field fields hfield hfields => List.forall_mem_cons.mpr ⟨hfield, hfields⟩
  · exact fun name value hvalue => hvalue

/-- What a value is read as once it has been written. -/
def source : Json → Source
  | .null => .null
  | .bool b => .bool b
  | .int n => .number (.ofInt n)
  | .float (.finite negative rank) => .number (.ofFinite negative rank)
  | .float _ => .null
  | .text s => .text (units s)
  | .array items => .array (ofItems items)
  | .object fields => .object (ofFields fields)
where
  ofItems : List Json → List Source
    | [] => []
    | item :: items => item.source :: ofItems items
  ofFields : List (String × Json) → List (List CharUnit × Source)
    | [] => []
    | (name, value) :: fields => (units name, value.source) :: ofFields fields

theorem source_array (items : List Json) : source (.array items) = .array (items.map source) := by
  rw [source]
  congr 1
  induction items with
  | nil => rfl
  | cons item items ih => rw [source.ofItems, ih, List.map_cons]

theorem source_object (fields : List (String × Json)) :
    source (.object fields) = .object (fields.map fun field => (units field.1, field.2.source)) := by
  rw [source]
  congr 1
  induction fields with
  | nil => rfl
  | cons field fields ih => rw [source.ofFields, ih, List.map_cons]

/-- What a written value shows: a double without digits is no more than null. -/
def shown : Json → Json
  | .float (.finite negative rank) => .float (.finite negative rank)
  | .float _ => .null
  | .array items => .array (ofItems items)
  | .object fields => .object (ofFields fields)
  | leaf => leaf
where
  ofItems : List Json → List Json
    | [] => []
    | item :: items => item.shown :: ofItems items
  ofFields : List (String × Json) → List (String × Json)
    | [] => []
    | (name, value) :: fields => (name, value.shown) :: ofFields fields

theorem shown_array (items : List Json) : shown (.array items) = .array (items.map shown) := by
  rw [shown]
  congr 1
  induction items with
  | nil => rfl
  | cons item items ih => rw [shown.ofItems, ih, List.map_cons]

theorem shown_object (fields : List (String × Json)) :
    shown (.object fields) = .object (fields.map fun field => (field.1, field.2.shown)) := by
  rw [shown]
  congr 1
  induction fields with
  | nil => rfl
  | cons field fields ih => rw [shown.ofFields, ih, List.map_cons]

theorem shown_array_map {α : Type} {f g : α → Json} {as : List α} (each : ∀ a ∈ as, (f a).shown = g a) :
    shown (.array (as.map f)) = .array (as.map g) := by
  rw [shown_array, List.map_map, ← List.map_congr_left each]
  rfl

theorem shown_object_map {α : Type} (name : α → String) {f g : α → Json} {as : List α}
    (each : ∀ a ∈ as, (f a).shown = g a) :
    shown (.object (as.map fun a => (name a, f a))) = .object (as.map fun a => (name a, g a)) := by
  have hfields : ∀ a ∈ as, (name a, (f a).shown) = (name a, g a) := fun a mem => by rw [each a mem]
  rw [shown_object, List.map_map, ← List.map_congr_left hfields]
  rfl

/-! ### Written forms -/

theorem compact_array (items : List Json) :
    compact (.array items) = "[" ++ String.intercalate "," (items.map compact) ++ "]" := by
  have hitems : compact.compactItems items = items.map compact := by
    induction items with
    | nil => rfl
    | cons item items ih => rw [compact.compactItems, ih, List.map_cons]
  rw [compact, hitems]

theorem compact_object (fields : List (String × Json)) :
    compact (.object fields) = "\x7b" ++
      String.intercalate "," (fields.map fun field => quote field.1 ++ ":" ++ field.2.compact) ++ "\x7d" := by
  have hfields : compact.compactFields fields = fields.map fun field => quote field.1 ++ ":" ++ field.2.compact := by
    induction fields with
    | nil => rfl
    | cons field fields ih => rw [compact.compactFields, ih, List.map_cons]
  rw [compact, hfields]

theorem pretty_array (margin : String) (items : List Json) :
    pretty margin (.array items) = block "[" "]" margin (items.map (pretty (margin ++ "  "))) := by
  have hitems : ∀ margin, pretty.prettyItems margin items = items.map (pretty margin) := by
    intro margin
    induction items with
    | nil => rfl
    | cons item items ih => rw [pretty.prettyItems, ih, List.map_cons]
  rw [pretty, hitems]

theorem pretty_object (margin : String) (fields : List (String × Json)) :
    pretty margin (.object fields) =
      block "\x7b" "\x7d" margin
        (fields.map fun field => quote field.1 ++ ": " ++ field.2.pretty (margin ++ "  ")) := by
  have hfields : ∀ margin, pretty.prettyFields margin fields =
      fields.map fun field => quote field.1 ++ ": " ++ field.2.pretty margin := by
    intro margin
    induction fields with
    | nil => rfl
    | cons field fields ih => rw [pretty.prettyFields, ih, List.map_cons]
  rw [pretty, hfields]

open Token Source

theorem readsApart_numeral_of_toList {text : String} {n : Numeral} (proper : n.IsProper)
    (spelled : n.spelling = text.toList) : ReadsApart text [.number n] := by
  have reads := readsApart_numeral proper
  rwa [spelled, String.ofList_toList] at reads

theorem readsApart_leafText {json : Json} (noArray : ∀ items, json ≠ .array items)
    (noObject : ∀ fields, json ≠ .object fields) : ReadsApart json.leafText json.source.tokens := by
  have null : ReadsApart "null" [.word "null".toList] := readsApart_word (w := "null".toList) (by decide) (by decide)
  cases json with
  | null => exact null
  | bool b =>
      cases b with
      | false => exact readsApart_word (w := "false".toList) (by decide) (by decide)
      | true => exact readsApart_word (w := "true".toList) (by decide) (by decide)
  | int n => exact readsApart_numeral_of_toList (Numeral.isProper_ofInt n) (Numeral.spelling_ofInt n)
  | float x =>
      cases x with
      | finite negative rank =>
          exact readsApart_numeral_of_toList (Numeral.isProper_ofFinite negative rank) (Numeral.spelling_ofDecimal _)
      | nan => exact null
      | infinite negative => cases negative <;> exact null
  | text s => exact (reads_quote s).apart
  | array items => exact absurd rfl (noArray items)
  | object fields => exact absurd rfl (noObject fields)

theorem readsApart_field {colon text : String} (hcolon : Reads colon [.mark ':']) (name : String) {value : Source}
    (reads : ReadsApart text value.tokens) :
    ReadsApart (quote name ++ colon ++ text) (fieldTokens (units name, value)) :=
  ((reads_quote name).append hcolon).append_apart reads

theorem readsApart_compact (json : Json) : ReadsApart json.compact json.source.tokens := by
  have hcolon : Reads ":" [.mark ':'] := reads_mark (c := ':') (by decide)
  induction json with
  | array items ih =>
      have hmarks : '[' ∈ marks ∧ ']' ∈ marks := by decide
      have hitems := reads_brackets hmarks.1 hmarks.2 ih
      rw [compact_array, source_array, tokens, ofItems_eq_map, List.map_map]
      exact hitems.apart
  | object fields ih =>
      have each : ∀ field ∈ fields, ReadsApart (quote field.1 ++ ":" ++ field.2.compact)
          (fieldTokens (units field.1, field.2.source)) :=
        fun field mem => readsApart_field hcolon field.1 (ih field mem)
      have hmarks : '\x7b' ∈ marks ∧ '\x7d' ∈ marks := by decide
      have hfields := reads_brackets hmarks.1 hmarks.2 each
      rw [compact_object, source_object, tokens, ofFields_eq_map, List.map_map]
      exact hfields.apart
  | _ => exact readsApart_leafText (fun _ same => by cases same) fun _ same => by cases same

theorem readsApart_pretty (json : Json) {margin : String} (spaces : margin.toList.all isSpace = true) :
    ReadsApart (json.pretty margin) json.source.tokens := by
  have hspace : Reads " " [] := reads_spaces rfl
  have hcolon : Reads ": " [.mark ':'] := (reads_mark (c := ':') (by decide)).append hspace
  induction json generalizing margin with
  | array items ih =>
      have hindented : (margin ++ "  ").toList.all isSpace = true := all_isSpace_append spaces rfl
      have hmarks : '[' ∈ marks ∧ ']' ∈ marks := by decide
      have hitems := reads_block hmarks.1 hmarks.2 spaces fun item mem => ih item mem hindented
      rw [pretty_array, source_array, tokens, ofItems_eq_map, List.map_map]
      exact hitems.apart
  | object fields ih =>
      have hindented : (margin ++ "  ").toList.all isSpace = true := all_isSpace_append spaces rfl
      have each : ∀ field ∈ fields, ReadsApart (quote field.1 ++ ": " ++ field.2.pretty (margin ++ "  "))
          (fieldTokens (units field.1, field.2.source)) :=
        fun field mem => readsApart_field hcolon field.1 (ih field mem hindented)
      have hmarks : '\x7b' ∈ marks ∧ '\x7d' ∈ marks := by decide
      have hfields := reads_block hmarks.1 hmarks.2 spaces each
      rw [pretty_object, source_object, tokens, ofFields_eq_map, List.map_map]
      exact hfields.apart
  | _ => exact readsApart_leafText (fun _ same => by cases same) fun _ same => by cases same

/-- A value that is written on one line is read back. -/
theorem read?_compact (json : Json) : Source.read? json.compact = some json.source :=
  read?_eq_some (readsApart_compact json)

/-- So is one that is written on many lines. -/
theorem read?_pretty (json : Json) {margin : String} (spaces : margin.toList.all isSpace = true) :
    Source.read? (json.pretty margin) = some json.source :=
  read?_eq_some (readsApart_pretty json spaces)

/-! ### What written values show -/

variable {json json' : Json}

theorem shown_eq_null_of_source_eq (same : json.source = .null) : json.shown = .null := by
  cases json with
  | null => rfl
  | float x =>
      cases x with
      | finite negative rank => cases same
      | nan => rfl
      | infinite negative => rfl
  | _ => cases same

theorem eq_bool_of_source_eq {b : Bool} (same : json.source = .bool b) : json = .bool b := by
  cases json with
  | bool b' =>
      cases same
      rfl
  | float x => cases x <;> cases same
  | _ => cases same

theorem eq_text_of_source_eq {s : String} (same : json.source = .text (units s)) : json = .text s := by
  cases json with
  | text s' => rw [units_injective (Source.text.inj same)]
  | float x => cases x <;> cases same
  | _ => cases same

theorem ofFinite_ne_ofInt (negative : Bool) (rank : ℕ) (n : Int64) : Numeral.ofFinite negative rank ≠ .ofInt n := by
  intro same
  have hpoint := Numeral.fraction_or_exponent_ofDecimal (Decimal.shortest .even negative rank)
  rw [← Numeral.ofFinite, same] at hpoint
  rcases hpoint with hfraction | hexponent
  · exact hfraction rfl
  · exact hexponent rfl

theorem eq_int_of_source_eq {n : Int64} (same : json.source = .number (.ofInt n)) : json = .int n := by
  cases json with
  | int n' => rw [Numeral.ofInt_injective (Source.number.inj same)]
  | float x =>
      cases x with
      | finite negative rank => exact absurd (Source.number.inj same) (ofFinite_ne_ofInt _ _ _)
      | _ => cases same
  | _ => cases same

theorem eq_finite_of_source_eq {negative : Bool} {rank : Fin Double.rankLimit}
    (same : json.source = .number (.ofFinite negative rank)) : json = .float (.finite negative rank) := by
  cases json with
  | int n => exact absurd (Source.number.inj same).symm (ofFinite_ne_ofInt _ _ _)
  | float x =>
      cases x with
      | finite negative' rank' =>
          obtain ⟨rfl, hrank⟩ := Numeral.ofFinite_injective (Source.number.inj same)
          rw [Fin.ext hrank]
      | _ => cases same
  | _ => cases same

theorem exists_array_of_source_eq {sources : List Source} (same : json.source = .array sources) :
    ∃ items, json = .array items ∧ items.map source = sources := by
  cases json with
  | array items =>
      rw [source_array] at same
      exact ⟨items, rfl, Source.array.inj same⟩
  | float x => cases x <;> cases same
  | object fields => 
      rw [source_object] at same
      cases same
  | _ => cases same

theorem exists_object_of_source_eq {sources : List (List CharUnit × Source)} (same : json.source = .object sources) :
    ∃ fields, json = .object fields ∧ fields.map (fun field => (units field.1, field.2.source)) = sources := by
  cases json with
  | object fields =>
      rw [source_object] at same
      exact ⟨fields, rfl, Source.object.inj same⟩
  | float x => cases x <;> cases same
  | array items =>
      rw [source_array] at same
      cases same
  | _ => cases same

theorem shown_eq_of_source_eq (same : json.source = json'.source) : json.shown = json'.shown := by
  induction json generalizing json' with
  | null => exact (shown_eq_null_of_source_eq same.symm).symm
  | bool b => rw [eq_bool_of_source_eq same.symm]
  | int n => rw [eq_int_of_source_eq same.symm]
  | float x =>
      cases x with
      | finite negative rank => rw [eq_finite_of_source_eq same.symm]
      | nan => exact (shown_eq_null_of_source_eq same.symm).symm
      | infinite negative => exact (shown_eq_null_of_source_eq same.symm).symm
  | text s => rw [eq_text_of_source_eq same.symm]
  | array items ih =>
      rw [source_array] at same
      obtain ⟨items', rfl, hitems⟩ := exists_array_of_source_eq same.symm
      rw [shown_array, shown_array, map_eq_map_of (fun item mem _ => ih item mem) hitems.symm]
  | object fields ih =>
      rw [source_object] at same
      obtain ⟨fields', rfl, hfields⟩ := exists_object_of_source_eq same.symm
      have each : ∀ field ∈ fields, ∀ field' : String × Json,
          (units field.1, field.2.source) = (units field'.1, field'.2.source) →
            (field.1, field.2.shown) = (field'.1, field'.2.shown) := by
        intro field mem field' hfield
        obtain ⟨hname, hvalue⟩ := Prod.mk.inj hfield
        rw [units_injective hname, ih field mem hvalue]
      rw [shown_object, shown_object, map_eq_map_of each hfields.symm]

theorem compact_shown (json : Json) : json.shown.compact = json.compact := by
  induction json with
  | float x =>
      cases x with
      | infinite negative => cases negative <;> rfl
      | _ => rfl
  | array items ih =>
      rw [shown_array, compact_array, compact_array, List.map_map, ← List.map_congr_left ih]
      rfl
  | object fields ih =>
      have hfields : ∀ field ∈ fields, quote field.1 ++ ":" ++ field.2.shown.compact =
          quote field.1 ++ ":" ++ field.2.compact := fun field mem => by rw [ih field mem]
      rw [shown_object, compact_object, compact_object, List.map_map, ← List.map_congr_left hfields]
      rfl
  | _ => rfl

theorem pretty_shown (json : Json) (margin : String) : json.shown.pretty margin = json.pretty margin := by
  induction json generalizing margin with
  | float x =>
      cases x with
      | infinite negative => cases negative <;> rfl
      | _ => rfl
  | array items ih =>
      have hitems : ∀ item ∈ items, item.shown.pretty (margin ++ "  ") = item.pretty (margin ++ "  ") :=
        fun item mem => ih item mem _
      rw [shown_array, pretty_array, pretty_array, List.map_map, ← List.map_congr_left hitems]
      rfl
  | object fields ih =>
      have hfields : ∀ field ∈ fields, quote field.1 ++ ": " ++ field.2.shown.pretty (margin ++ "  ") =
          quote field.1 ++ ": " ++ field.2.pretty (margin ++ "  ") := fun field mem => by rw [ih field mem]
      rw [shown_object, pretty_object, pretty_object, List.map_map, ← List.map_congr_left hfields]
      rfl
  | _ => rfl

/-- Text on one line tells values apart as far as they show. -/
theorem compact_eq_iff : json.compact = json'.compact ↔ json.shown = json'.shown := by
  constructor
  · intro same
    have hsource : some json.source = some json'.source := by rw [← read?_compact, ← read?_compact, same]
    exact shown_eq_of_source_eq (Option.some.inj hsource)
  · intro same
    rw [← compact_shown json, same, compact_shown json']

/-- Indented text does so as well. -/
theorem pretty_eq_iff {margin : String} (spaces : margin.toList.all isSpace = true) :
    json.pretty margin = json'.pretty margin ↔ json.shown = json'.shown := by
  constructor
  · intro same
    have hsource : some json.source = some json'.source := by
      rw [← read?_pretty json spaces, ← read?_pretty json' spaces, same]
    exact shown_eq_of_source_eq (Option.some.inj hsource)
  · intro same
    rw [← pretty_shown json, same, pretty_shown json']

end ServiceContainer.Json

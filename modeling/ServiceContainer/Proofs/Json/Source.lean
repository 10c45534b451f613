import ServiceContainer.Json.Source
import ServiceContainer.Proofs.Json.Token

/-!
# Tokens of JSON sources

A source has tokens of its own, and reading them gives the source back.
-/

namespace ServiceContainer.Json

namespace Source

@[elab_as_elim, induction_eliminator]
theorem induction {P : Source → Prop} (null : P .null) (bool : ∀ b, P (.bool b)) (number : ∀ n, P (.number n))
    (text : ∀ units, P (.text units)) (array : ∀ items, (∀ item ∈ items, P item) → P (.array items))
    (object : ∀ fields, (∀ field ∈ fields, P field.2) → P (.object fields)) (source : Source) : P source := by
  refine @Source.rec P (fun items => ∀ item ∈ items, P item) (fun fields => ∀ field ∈ fields, P field.2)
    (fun field => P field.2) null bool number text array object ?_ ?_ ?_ ?_ ?_ source
  · exact nofun
  · exact fun item items hitem hitems => List.forall_mem_cons.mpr ⟨hitem, hitems⟩
  · exact nofun
  · exact fun field fields hfield hfields => List.forall_mem_cons.mpr ⟨hfield, hfields⟩
  · exact fun key value hvalue => hvalue

/-! ### Tokens of a source -/

def tokens : Source → List Token
  | .null => [.word "null".toList]
  | .bool b => [.word (if b then "true" else "false").toList]
  | .number n => [.number n]
  | .text units => [.text units]
  | .array items => .mark '[' :: (List.intercalate [.mark ','] (ofItems items) ++ [.mark ']'])
  | .object fields => .mark '\x7b' :: (List.intercalate [.mark ','] (ofFields fields) ++ [.mark '\x7d'])
where
  ofItems : List Source → List (List Token)
    | [] => []
    | item :: items => item.tokens :: ofItems items
  ofFields : List (List CharUnit × Source) → List (List Token)
    | [] => []
    | (key, value) :: fields => (.text key :: .mark ':' :: value.tokens) :: ofFields fields

theorem ofItems_eq_map (items : List Source) : tokens.ofItems items = items.map tokens := by
  induction items with
  | nil => rfl
  | cons item items ih => rw [tokens.ofItems, ih, List.map_cons]

def fieldTokens (field : List CharUnit × Source) : List Token := .text field.1 :: .mark ':' :: field.2.tokens

theorem ofFields_eq_map (fields : List (List CharUnit × Source)) :
    tokens.ofFields fields = fields.map fieldTokens := by
  induction fields with
  | nil => rfl
  | cons field fields ih => rw [tokens.ofFields, ih, List.map_cons, fieldTokens]

theorem tokens_append_ne (source : Source) (more rest : List Token) : source.tokens ++ more ≠ .mark ']' :: rest := by
  cases source <;> simp [tokens]

variable {frames : List Frame}

/-- The items behind one that has been read. -/
theorem readRest_items {items : List Source}
    (each : ∀ item ∈ items, ∀ frames rest, readValue frames (item.tokens ++ rest) = readRest frames item rest)
    (done : List Source) (item : Source) (rest : List Token) :
    readRest (.array done :: frames) item (items.flatMap (.mark ',' :: ·.tokens) ++ .mark ']' :: rest) =
      readRest frames (.array (done.reverse ++ item :: items)) rest := by
  induction items generalizing done item with
  | nil => rw [List.flatMap_nil, List.nil_append, readRest, List.reverse_cons]
  | cons next items ih =>
      obtain ⟨hnext, heach⟩ := List.forall_mem_cons.mp each
      rw [List.flatMap_cons, List.cons_append, List.cons_append, List.append_assoc, readRest, hnext, ih heach,
        List.reverse_cons, List.append_assoc, List.singleton_append]

/-- The fields behind one that has been read. -/
theorem readRest_fields {fields : List (List CharUnit × Source)}
    (each : ∀ field ∈ fields, ∀ frames rest,
      readValue frames (field.2.tokens ++ rest) = readRest frames field.2 rest)
    (done : List (List CharUnit × Source)) (key : List CharUnit) (value : Source) (rest : List Token) :
    readRest (.object done key :: frames) value
        (fields.flatMap (.mark ',' :: fieldTokens ·) ++ .mark '\x7d' :: rest) =
      readRest frames (.object (done.reverse ++ (key, value) :: fields)) rest := by
  induction fields generalizing done key value with
  | nil => rw [List.flatMap_nil, List.nil_append, readRest, List.reverse_cons]
  | cons next fields ih =>
      obtain ⟨hnext, heach⟩ := List.forall_mem_cons.mp each
      have hstep : ∀ more, readRest (.object done key :: frames) value (.mark ',' :: fieldTokens next ++ more) =
          readValue (.object ((key, value) :: done) next.1 :: frames) (next.2.tokens ++ more) := by
        intro more
        rw [fieldTokens, List.cons_append, List.cons_append, List.cons_append, readRest]
      rw [List.flatMap_cons, List.append_assoc, hstep, hnext, ih heach, List.reverse_cons, List.append_assoc,
        List.singleton_append]

/-- Reading goes on behind the tokens of a value with that value. -/
theorem readValue_tokens (source : Source) (frames : List Frame) (rest : List Token) :
    readValue frames (source.tokens ++ rest) = readRest frames source rest := by
  induction source generalizing frames rest with
  | null => rfl
  | bool b => cases b <;> rfl
  | number n => rfl
  | text units => rfl
  | array items ih =>
      rw [tokens, ofItems_eq_map]
      cases items with
      | nil => rfl
      | cons item items =>
          obtain ⟨hitem, hitems⟩ := List.forall_mem_cons.mp ih
          have hopen : ∀ more, readValue frames (.mark '[' :: (item.tokens ++ more)) =
              readValue (.array [] :: frames) (item.tokens ++ more) := by
            intro more
            rw [readValue]
            exact tokens_append_ne item more
          rw [List.map_cons, intercalate_cons, List.flatMap_map, List.cons_append, List.append_assoc, List.append_assoc,
            hopen, hitem, List.singleton_append, readRest_items hitems]
          rfl
  | object fields ih =>
      rw [tokens, ofFields_eq_map]
      cases fields with
      | nil => rfl
      | cons field fields =>
          obtain ⟨hfield, hfields⟩ := List.forall_mem_cons.mp ih
          have hopen : ∀ more, readValue frames (.mark '\x7b' :: (fieldTokens field ++ more)) =
              readValue (.object [] field.1 :: frames) (field.2.tokens ++ more) := by
            intro more
            rw [fieldTokens, List.cons_append, List.cons_append, readValue]
          rw [List.map_cons, intercalate_cons, List.flatMap_map, List.cons_append, List.append_assoc, List.append_assoc,
            hopen, hfield, List.singleton_append, readRest_fields hfields]
          rfl

theorem read?_eq_some {text : String} {source : Source} (reads : Token.ReadsApart text source.tokens) :
    read? text = some source := by
  have htokens : Token.read? text = some source.tokens := by
    have hread := reads [] [] nofun
    rw [List.append_nil, List.append_nil] at hread
    rw [Token.read?, hread, Token.readFrom, List.reverse_reverse]
  have hsource := readValue_tokens source [] []
  rw [List.append_nil] at hsource
  rw [read?, htokens, Option.bind_some, hsource, readRest]

end Source

end ServiceContainer.Json

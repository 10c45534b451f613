import ServiceContainer.Proofs.Php.GeneratedClass
import ServiceContainer.Proofs.Php.Scanner

/-!
# Generated values can be read back

The text of a value is an expression that denotes this value. In front of a mark that ends it the expression is read
as just what was written, whatever comes behind the mark. Where the base container reads parameters the same holds of
the value with the percent signs of its texts doubled.
-/

namespace ServiceContainer

/-! ### Objects and texts in a value -/

/-- A string as it is read from the bag. -/
def undoublePercent (s : String) : String := String.ofList (unescape s.toList)

theorem undoublePercent_doublePercent (s : String) : undoublePercent (doublePercent s) = s := by
  rw [undoublePercent, toList_doublePercent, unescape_doubled, String.ofList_toList]

def Segment.mapText {α : Type} (f : String → String) : Segment α → Segment α
  | .literal text => .literal (f text)
  | .parameter name => .parameter name

namespace Value

/-- The objects in a value, at any depth, in order. -/
def objects : Value → List String
  | .object type => [type]
  | .list items => ofItems items
  | .scalar _ | .service _ | .parameter _ | .template _ => []
where
  ofItems : List (Key × Value) → List String
    | [] => []
    | (_, item) :: items => item.objects ++ ofItems items

/-- Changes the strings in a value and the literals of its templates; keys, ids and names stay. -/
def mapText (f : String → String) : Value → Value
  | .scalar (.text s) => .text (f s)
  | .scalar s => .scalar s
  | .list items => .list (ofItems items)
  | .service id => .service id
  | .parameter key => .parameter key
  | .template segments => .template (segments.map (Segment.mapText f))
  | .object type => .object type
where
  ofItems : List (Key × Value) → List (Key × Value)
    | [] => []
    | (key, item) :: items => (key, item.mapText f) :: ofItems items

variable {f g : String → String}

theorem mapText_list (f : String → String) (items : List (Key × Value)) :
    (list items).mapText f = list (items.map fun entry => (entry.1, entry.2.mapText f)) := by
  rw [mapText]
  induction items with
  | nil => rfl
  | cons entry items ih =>
      rw [list.injEq] at ih
      rw [mapText.ofItems, ih, List.map_cons]

/-- Changing texts back and leaving all else as it is gives the value itself. -/
theorem mapText_mapText (inverse : ∀ s, g (f s) = s) (v : Value) : (v.mapText f).mapText g = v := by
  induction v with
  | scalar s =>
      cases s with
      | text s => exact congrArg text (inverse s)
      | _ => rfl
  | list items ih =>
      rw [mapText_list, mapText_list, List.map_map, list.injEq]
      refine (List.map_congr_left fun entry mem => ?_).trans items.map_id
      exact Prod.ext rfl (ih entry mem)
  | service id => rfl
  | parameter key => rfl
  | template segments =>
      rw [mapText, mapText, List.map_map, template.injEq]
      refine (List.map_congr_left fun segment _ => ?_).trans segments.map_id
      cases segment with
      | literal s => exact congrArg Segment.literal (inverse s)
      | parameter key => rfl
  | object type => rfl

theorem templates_mapText (f : String → String) (v : Value) :
    (v.mapText f).templates = v.templates.map (·.map (Segment.mapText f)) := by
  induction v with
  | scalar s => cases s <;> rfl
  | list items ih =>
      rw [mapText_list, templates_list, templates_list, List.flatMap_map, List.map_flatMap]
      exact List.flatMap_congr ih
  | service id => rfl
  | parameter key => rfl
  | template segments => rfl
  | object type => rfl

theorem Split.mapText {v : Value} (hsplit : v.Split) (f : String → String) : (v.mapText f).Split := by
  intro changed hchanged
  rw [templates_mapText] at hchanged
  obtain ⟨segments, mem, rfl⟩ := List.mem_map.mp hchanged
  rw [List.length_map]
  exact hsplit segments mem

end Value

namespace Php

/-! ### What is written -/

theorem entries_eq_error_iff {place : Place} {items : List (Key × Value)} {failure : Failure}
    (hitems : ∀ entry ∈ items, ∀ {failure}, value place entry.2 = .error failure ↔
      ∃ type, entry.2.objects.head? = some type ∧ failure = .unserializable type) :
    value.entries place items = .error failure ↔
      ∃ type, (Value.objects.ofItems items).head? = some type ∧ failure = .unserializable type := by
  induction items with
  | nil => simp [value.entries, Value.objects.ofItems]
  | cons entry items ih =>
      obtain ⟨k, item⟩ := entry
      obtain ⟨hitem, hitems⟩ := List.forall_mem_cons.mp hitems
      rw [value.entries, bind_eq_error_iff, Value.objects.ofItems, List.head?_append]
      cases hvalue : value place item with
      | error e =>
          obtain ⟨type, hhead, rfl⟩ := hitem.mp hvalue
          simp [hhead, eq_comm]
      | ok text =>
          have hhead : item.objects.head? = none := by
            rw [Option.eq_none_iff_forall_ne_some]
            intro type hsome
            have failed := hitem.mpr ⟨type, hsome, rfl⟩
            rw [hvalue] at failed
            cases failed
          rw [hhead, Option.none_or, ← ih hitems]
          constructor
          · rintro (⟨⟨⟩⟩ | ⟨_, -, failed⟩)
            exact map_eq_error_iff.mp failed
          · exact fun failed => .inr ⟨text, rfl, map_eq_error_iff.mpr failed⟩

/-- A value cannot be written when there is an object in it, and the first one is reported. -/
theorem value_eq_error_iff {place : Place} {v : Value} {failure : Failure} :
    value place v = .error failure ↔ ∃ type, v.objects.head? = some type ∧ failure = .unserializable type := by
  induction v generalizing failure with
  | scalar s => cases s <;> simp [value, Value.objects]
  | list items ih => rw [value, map_eq_error_iff, entries_eq_error_iff ih, Value.objects]
  | service id => simp [value, Value.objects]
  | parameter key => simp [value, Value.objects]
  | template segments => simp [value, Value.objects]
  | object type => simp [value, Value.objects, eq_comm]

/-- What is stored in the bag is the code of the value with its percent signs doubled. -/
theorem value_parameters (v : Value) : value .parameters v = value .code (v.mapText doublePercent) := by
  induction v with
  | scalar s => cases s <;> rfl
  | list items ih =>
      rw [Value.mapText_list, value, value, entries_eq_mapM, entries_eq_mapM, List.mapM_map]
      refine congrArg (Except.map _) (mapM_congr fun entry mem => ?_)
      rw [ih entry mem]
      rfl
  | service id => rfl
  | parameter key => rfl
  | template segments =>
      rw [Value.mapText, value, value, List.map_map]
      congr 2
      refine List.map_congr_left fun segment _ => ?_
      cases segment <;> rfl
  | object type => rfl

/-! ### Reading expressions -/

/-- The expression at the front of a text, up to a mark that ends it, and what is left of the text from there. -/
def readExpression (text : String) : Option (Shown × String) := do
  let scanned := Lexer.scan .gap text.toList
  let (v, rest) ← Reader.value .code (scanned.map (·.1))
  let (token, left) ← scanned[scanned.length - rest.length]?
  if token ∈ Lexer.delimiters.map (.mark ∘ String.singleton) then some (v, String.ofList left) else none

open Lexer (isDelimiter BeginsWith)

theorem ends_of_isDelimiter {c : Char} (hc : isDelimiter c = true) (tokens : List Token) :
    Reader.Ends (.mark (String.singleton c) :: tokens) := by
  rcases Lexer.isDelimiter_iff.mp hc with rfl | rfl | rfl
  · exact .comma tokens
  · exact .parenthesis tokens
  · exact .semicolon tokens

theorem readExpression_of_codeValue {v : Value} {text behind : String} (hsplit : v.Split)
    (htext : codeValue v = .ok text) (hbehind : BeginsWith isDelimiter behind) :
    readExpression (text ++ behind) = some (.ofValue v, behind) := by
  obtain ⟨c, cs, hchars, hc⟩ := Lexer.exists_of_beginsWith hbehind
  obtain ⟨scanned, more, hscanned, hscan⟩ := Lexer.exists_scan_delimiter (readsBefore_value htext) hc cs
  have hreadable : (Shown.ofValue v).Readable := readable_ofValue hsplit (exists_value_iff.mp ⟨text, htext⟩)
  have hvalue : Reader.value .code _ = some (.ofValue v, .mark (String.singleton c) :: more.map (·.1)) :=
    Reader.value_tokens hreadable (ends_of_isDelimiter hc _)
  have hleft : String.ofList (c :: cs) = behind := by rw [← hchars, String.ofList_toList]
  have hmark : .mark (String.singleton c) ∈ Lexer.delimiters.map (Token.mark ∘ String.singleton) :=
    List.mem_map_of_mem (by simpa [isDelimiter] using hc)
  -- the reader leaves the mark and what is behind it, which tells how far it has come
  have hnext : ∀ marked : Token × List Char, (scanned ++ marked :: more)[(scanned ++ marked :: more).length -
      (marked.1 :: more.map (·.1)).length]? = some marked := by simp
  rw [readExpression, String.toList_append, hchars, hscan, List.map_append, hscanned, List.map_cons, hvalue]
  simp only [Option.bind_eq_bind, Option.bind_some, hnext (.mark (String.singleton c), c :: cs), if_pos hmark, hleft]

theorem readExpression_of_value_parameters {v : Value} {text behind : String} (hsplit : v.Split)
    (htext : value .parameters v = .ok text) (hbehind : BeginsWith isDelimiter behind) :
    readExpression (text ++ behind) = some (.ofValue (v.mapText doublePercent), behind) := by
  rw [value_parameters] at htext
  exact readExpression_of_codeValue (hsplit.mapText doublePercent) htext hbehind

/-- A value that holds an object cannot be written, and the first one is reported. All others are read back from
their text, which ends where it ended in writing. What is stored in the bag is the same with doubled percent signs in
the texts, so they are halved in reading. -/
theorem readExpression_value {v : Value} (hsplit : v.Split) :
    (∀ place failure, value place v = .error failure ↔
      ∃ type, v.objects.head? = some type ∧ failure = .unserializable type) ∧
    (∀ text behind, codeValue v = .ok text → BeginsWith isDelimiter behind →
      readExpression (text ++ behind) = some (.ofValue v, behind)) ∧
    (∀ text behind, value .parameters v = .ok text → BeginsWith isDelimiter behind →
      readExpression (text ++ behind) = some (.ofValue (v.mapText doublePercent), behind)) ∧
    (v.mapText doublePercent).mapText undoublePercent = v :=
  ⟨fun _ _ => value_eq_error_iff, fun _ _ htext hbehind => readExpression_of_codeValue hsplit htext hbehind,
    fun _ _ htext hbehind => readExpression_of_value_parameters hsplit htext hbehind,
    Value.mapText_mapText undoublePercent_doublePercent v⟩

/-- A value whose texts, keys and ids look like code. -/
def lookalikeValue : Value :=
  .list [
    (.name "it's => 1", .text "it ends with \\"),
    (.index (-1), .list [
      (.index 0, .scalar (.int Int64.minValue)),
      (.name "50%", .scalar (.float .nan)),
      (.name "'", .scalar (.float (.infinite true)))]),
    (.index 2, .template [.literal "100%'.$this, \\", .parameter (.ofName "Who's")]),
    (.index 3, .service "a'b"),
    (.name "", .service containerId)]

theorem readExpression_lookalikeValue : ∃ code stored, codeValue lookalikeValue = .ok code ∧
    value .parameters lookalikeValue = .ok stored ∧
    readExpression (code ++ "); \"?> 'open") = some (.ofValue lookalikeValue, "); \"?> 'open") ∧
    readExpression (stored ++ ", ") = some (.ofValue (lookalikeValue.mapText doublePercent), ", ") := by
  have hsplit : lookalikeValue.Split := by decide +kernel
  have hcode : (codeValue lookalikeValue).toBool = true := by decide +kernel
  have hstored : (value .parameters lookalikeValue).toBool = true := by decide +kernel
  obtain ⟨code, hcode⟩ := exists_eq_ok_of_toBool hcode
  obtain ⟨stored, hstored⟩ := exists_eq_ok_of_toBool hstored
  obtain ⟨-, readCode, readStored, -⟩ := readExpression_value hsplit
  exact ⟨code, stored, hcode, hstored, readCode code _ hcode (by decide), readStored stored _ hstored (by decide)⟩

end Php

end ServiceContainer

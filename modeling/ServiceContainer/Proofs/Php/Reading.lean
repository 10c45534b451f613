import ServiceContainer.Proofs.List
import ServiceContainer.Proofs.Php.Reader

/-!
# Reading what was written

The tokens of contents are read as those contents. Each part is read off its own tokens, whatever comes behind
it; behind a value comes what ends a value.
-/

namespace ServiceContainer.Php

/-- A value that can be read: each template has two segments or more, and nothing is an object. -/
inductive Shown.Readable : Shown → Prop where
  | literal (l : Literal) : Readable (.literal l)
  | list (items : List (Key × Shown)) (hitems : ∀ entry ∈ items, Readable entry.2) : Readable (.list items)
  | service (id : ServiceId) : Readable (.service id)
  | parameter (name : String) : Readable (.parameter name)
  | template (first second : Segment String) (others : List (Segment String)) :
      Readable (.template (first :: second :: others))

namespace Reader

variable {α β : Type}

/-! ### Combinators -/

section Combinators

variable {p : Reader α} {tokens rest last : List Token} {a : α} {as : List α}

@[simp]
theorem bind_apply (p : Reader α) (f : α → Reader β) (tokens : List Token) :
    (p >>= f) tokens = (p tokens).bind fun r => f r.1 r.2 := rfl

@[simp]
theorem pure_apply (a : α) (tokens : List Token) : (pure a : Reader α) tokens = some (a, tokens) := rfl

@[simp]
theorem map_apply (f : α → β) (p : Reader α) (tokens : List Token) :
    (f <$> p) tokens = (p tokens).map fun r => (f r.1, r.2) := by
  cases h : p tokens <;> simp [Functor.map, StateT.map, h]

@[simp]
theorem orElse_apply (p q : Reader α) (tokens : List Token) : (p <|> q) tokens = (p tokens).or (q tokens) := by
  change StateT.orElse p (fun _ => q) tokens = _
  cases h : p tokens <;> simp [StateT.orElse, h]

@[simp]
theorem skip_nil (tokens : List Token) : skip [] tokens = some ((), tokens) := rfl

@[simp]
theorem skip_cons_cons (expected token : Token) (more tokens : List Token) :
    skip (expected :: more) (token :: tokens) = if expected = token then skip more tokens else none := rfl

theorem skip_append (expected tokens : List Token) : skip expected (expected ++ tokens) = some ((), tokens) := by
  induction expected with
  | nil => rw [List.nil_append, skip_nil]
  | cons token expected ih => rw [List.cons_append, skip_cons_cons, if_pos rfl, ih]

theorem perhaps_of_eq_some (hp : p tokens = some (a, rest)) : perhaps p tokens = some (some a, rest) := by
  simp [perhaps, hp]

theorem perhaps_of_eq_none (hp : p tokens = none) : perhaps p tokens = some (none, tokens) := by
  simp [perhaps, hp]

theorem many_of_eq_none (hp : p tokens = none) : many p tokens = some ([], tokens) := by
  rw [many, hp]

theorem many_of_eq_some (hp : p tokens = some (a, rest)) (hlt : rest.length < tokens.length)
    (hrest : many p rest = some (as, last)) : many p tokens = some (a :: as, last) := by
  rw [many, hp]
  simp only [if_pos hlt, hrest, Option.map_some]

variable {write : α → List Token}

/-- `Follows` is what may stand behind an element. -/
theorem many_flatMap (Follows : List Token → Prop)
    (each : ∀ a ∈ as, ∀ tokens, Follows tokens → p (write a ++ tokens) = some (a, tokens))
    (hne : ∀ a ∈ as, write a ≠ []) (hwrite : ∀ a ∈ as, ∀ tokens, Follows (write a ++ tokens))
    (hrest : Follows rest) (hend : p rest = none) : many p (as.flatMap write ++ rest) = some (as, rest) := by
  induction as with
  | nil => exact many_of_eq_none hend
  | cons a as ih =>
      obtain ⟨ha, each⟩ := List.forall_mem_cons.mp each
      obtain ⟨hnea, hne⟩ := List.forall_mem_cons.mp hne
      obtain ⟨-, hwrite'⟩ := List.forall_mem_cons.mp hwrite
      have hnext : Follows (as.flatMap write ++ rest) := by
        cases as with
        | nil => exact hrest
        | cons b as =>
            rw [List.flatMap_cons, List.append_assoc]
            exact hwrite' b List.mem_cons_self _
      rw [List.flatMap_cons, List.append_assoc]
      refine many_of_eq_some (ha _ hnext) ?_ (ih each hne hwrite')
      have hlength := List.length_pos_iff.mpr hnea
      simp only [List.length_append]
      omega

theorem sublist_intercalate (separator : Token) {part : List Token} {parts : List (List Token)}
    (mem : part ∈ parts) : part.Sublist (List.intercalate [separator] parts) := by
  cases parts with
  | nil => cases mem
  | cons first others =>
      rw [intercalate_cons]
      rcases List.mem_cons.mp mem with rfl | mem
      · exact List.sublist_append_left _ _
      · exact ((List.sublist_cons_self _ _).trans (List.sublist_flatten_of_mem (List.mem_map_of_mem mem))).trans
          (List.sublist_append_right _ _)

theorem separated_intercalate (Follows : List Token → Prop) {separator : Token}
    (each : ∀ a ∈ as, ∀ tokens, Follows tokens → p (write a ++ tokens) = some (a, tokens))
    (hseparator : ∀ tokens, Follows (separator :: tokens)) (hrest : Follows rest)
    (hend : skip [separator] rest = none) (hempty : p rest = none) :
    separated separator p (List.intercalate [separator] (as.map write) ++ rest) = some (as, rest) := by
  cases as with
  | nil => simp [separated, hempty]
  | cons a as =>
      obtain ⟨ha, each⟩ := List.forall_mem_cons.mp each
      have hmany : many (do skip [separator]; p) ((as.flatMap fun b => separator :: write b) ++ rest) =
          some (as, rest) := by
        refine many_flatMap Follows (fun b hb tokens htokens => ?_) (fun _ _ => List.cons_ne_nil _ _)
          (fun _ _ _ => hseparator _) hrest (by simp [hend])
        simp [each b hb tokens htokens]
      have hnext : Follows ((as.flatMap fun b => separator :: write b) ++ rest) := by
        cases as with
        | nil => exact hrest
        | cons b as => exact hseparator _
      rw [List.map_cons, intercalate_cons, List.flatMap_map, List.append_assoc]
      simp [separated, ha _ hnext, hmany]

end Combinators

/-! ### Values -/

/-- What comes behind a value. -/
inductive Ends : List Token → Prop where
  | comma (tokens : List Token) : Ends (.mark "," :: tokens)
  | parenthesis (tokens : List Token) : Ends (.mark ")" :: tokens)
  | semicolon (tokens : List Token) : Ends (.mark ";" :: tokens)

theorem int_tokens (n : Int) (tokens : List Token) : int (Lexer.intTokens n ++ tokens) = some (n, tokens) := by
  unfold Lexer.intTokens Lexer.signTokens
  generalize hm : n.natAbs = m
  by_cases negative : n < 0
  · have hn : -(m : Int) = n := by omega
    simp [int, sign, perhaps, integer, negative, hn]
  · have hn : (m : Int) = n := by omega
    simp [int, sign, perhaps, integer, negative, hn]

theorem key_tokens (k : Key) (tokens : List Token) : key (keyTokens k ++ tokens) = some (k, tokens) := by
  cases k with
  | index n => simp [key, keyTokens, int_tokens]
  | name s => simp [key, keyTokens, int, sign, perhaps, integer, quoted]

theorem plain_float (place : Place) (s : String) (tokens : List Token) :
    plain place (Lexer.floatTokens s ++ tokens) = some (.literal (.float s), tokens) := by
  unfold Lexer.floatTokens
  split
  · rename_i hs
    simp [plain, constant, hs]
  · split
    · rename_i hs
      simp [plain, constant, number, int, sign, perhaps, integer, float, Lexer.sign, hs]
    · split
      · rename_i hs
        simp [plain, constant, number, int, sign, perhaps, integer, float, Lexer.sign, hs]
      · split
        · rename_i numeral hs
          have htext : "-" ++ String.ofList numeral = s := by simp [← String.toList_inj, hs]
          simp [plain, constant, number, int, sign, perhaps, integer, float, Lexer.sign, htext]
        · simp [plain, constant, number, int, sign, perhaps, integer, float, Lexer.sign]

theorem unplaced_placed (place : Place) (s : String) : unplaced (placed place s) place = s := by
  cases place with
  | code => rfl
  | parameters => rw [unplaced, placed, toList_doublePercent, unescape_doubled, String.ofList_toList]

theorem segment_tokens (place : Place) (s : Segment String) (tokens : List Token) :
    segment place (segmentTokens place s ++ tokens) = some (s, tokens) := by
  cases s with
  | literal s => simp [segment, segmentTokens, quoted, unplaced_placed]
  | parameter name => simp [segment, segmentTokens, parameterTokens, quoted]

theorem segments_tokens (place : Place) (first : Segment String) (others : List (Segment String))
    {rest : List Token} (hrest : Ends rest) :
    segments place (List.intercalate [.mark "."] ((first :: others).map (segmentTokens place)) ++ rest) =
      some (ofSegments (first :: others), rest) := by
  have hend : (do skip [.mark "."]; segment place : Reader (Segment String)) rest = none := by
    cases hrest <;> simp
  have hmany : many (do skip [.mark "."]; segment place)
      ((others.flatMap fun s => .mark "." :: segmentTokens place s) ++ rest) = some (others, rest) := by
    refine many_flatMap (fun _ => True) (fun s _ tokens _ => ?_) (fun _ _ => List.cons_ne_nil _ _)
      (fun _ _ _ => trivial) trivial hend
    simp [segment_tokens]
  rw [List.map_cons, intercalate_cons, List.flatMap_map, List.append_assoc]
  simp [segments, segment_tokens, hmany]

theorem plain_segments (place : Place) (first : Segment String) (others : List (Segment String))
    {rest : List Token} (hrest : Ends rest) :
    plain place (List.intercalate [.mark "."] ((first :: others).map (segmentTokens place)) ++ rest) =
      some (ofSegments (first :: others), rest) := by
  have hsegments := segments_tokens place first others hrest
  rw [List.map_cons, intercalate_cons, List.append_assoc] at hsegments ⊢
  have hconstant : ∀ tokens, constant (segmentTokens place first ++ tokens) = none := by
    intro tokens
    cases first <;> simp [constant, segmentTokens, parameterTokens]
  have hnumber : ∀ tokens, number (segmentTokens place first ++ tokens) = none := by
    intro tokens
    cases first <;> simp [number, int, sign, perhaps, integer, float, segmentTokens, parameterTokens]
  simp [plain, hconstant, hnumber, hsegments]

theorem plain_literal (place : Place) (l : Literal) {rest : List Token} (hrest : Ends rest) :
    plain place (l.tokens place ++ rest) = some (.literal l, rest) := by
  cases l with
  | null => simp [plain, constant, Literal.tokens]
  | bool b => cases b <;> simp [plain, constant, Literal.tokens]
  | int n =>
      rw [Literal.tokens]
      split
      · rename_i hn
        simp [plain, constant, hn]
      · have hconstant : constant (Lexer.intTokens n.toInt ++ rest) = none := by
          by_cases negative : n.toInt < 0 <;> simp [constant, Lexer.intTokens, Lexer.signTokens, negative]
        simp [plain, number, hconstant, int_tokens]
  | float s => exact plain_float place s rest
  | text s => exact plain_segments place (.literal s) [] hrest

theorem service_tokens (id : ServiceId) {rest : List Token}
    (hrest : (do skip [.mark "->", .word "getService", .mark "("]; quoted : Reader String) rest = none) :
    service (serviceTokens id ++ rest) = some (id, rest) := by
  unfold serviceTokens
  split
  · rename_i hid
    have hother : ∀ after, skip [.mark "->", .word "getService", .mark "("] rest = some after →
        quoted after.2 = none := by
      intro after hafter
      simpa [hafter] using hrest
    cases hafter : skip [.mark "->", .word "getService", .mark "("] rest with
    | none => simp [service, hafter, hid]
    | some after => simp [service, hafter, hother after hafter, hid]
  · simp [service, quoted]

theorem plain_service (place : Place) (id : ServiceId) {rest : List Token} (hrest : Ends rest) :
    plain place (serviceTokens id ++ rest) = some (.service id, rest) := by
  have hservice : service (serviceTokens id ++ rest) = some (id, rest) :=
    service_tokens id (by cases hrest <;> simp)
  have hconstant : constant (serviceTokens id ++ rest) = none := by
    unfold serviceTokens
    split <;> simp [constant]
  have hnumber : number (serviceTokens id ++ rest) = none := by
    unfold serviceTokens
    split <;> simp [number, int, sign, perhaps, integer, float]
  have hsegments : segments place (serviceTokens id ++ rest) = none := by
    unfold serviceTokens
    split
    · cases hrest <;> simp [segments, segment, quoted]
    · simp [segments, segment, quoted]
  simp [plain, hconstant, hnumber, hsegments, hservice]

section Lists

variable {place : Place} {depth : Nat} {tokens rest : List Token}

theorem itemTokens_eq_map (place : Place) (items : List (Key × Shown)) :
    Shown.tokens.itemTokens place items =
      items.map fun entry => keyTokens entry.1 ++ .mark "=>" :: entry.2.tokens place := by
  induction items with
  | nil => rfl
  | cons entry items ih => rw [Shown.tokens.itemTokens, ih, List.map_cons]

theorem valueWithin_of_skip_eq_none (harray : skip [.word "array", .mark "("] tokens = none) :
    valueWithin place (depth + 1) tokens = plain place tokens := by
  rw [valueWithin, orElse_apply, bind_apply, harray, Option.bind_none, Option.none_or]

theorem skip_array_int (n : Int) (rest : List Token) :
    skip [.word "array", .mark "("] (Lexer.intTokens n ++ rest) = none := by
  by_cases negative : n < 0 <;> simp [Lexer.intTokens, Lexer.signTokens, negative]

theorem skip_array_literal (place : Place) (l : Literal) (rest : List Token) :
    skip [.word "array", .mark "("] (l.tokens place ++ rest) = none := by
  cases l with
  | null => simp [Literal.tokens]
  | bool b => cases b <;> simp [Literal.tokens]
  | int n =>
      rw [Literal.tokens]
      split
      · simp
      · exact skip_array_int n.toInt rest
  | float s =>
      rw [Literal.tokens, Lexer.floatTokens]
      repeat' split
      all_goals simp
  | text s => simp [Literal.tokens]

theorem valueWithin_list {items : List (Key × Shown)}
    (hitems : ∀ entry ∈ items, ∀ rest, Ends rest →
      valueWithin place depth (entry.2.tokens place ++ rest) = some (entry.2, rest)) :
    valueWithin place (depth + 1) ((Shown.list items).tokens place ++ rest) = some (.list items, rest) := by
  have hseparated : separated (.mark ",") (item (valueWithin place depth))
      (List.intercalate [.mark ","] (Shown.tokens.itemTokens place items) ++ .mark ")" :: rest) =
        some (items, .mark ")" :: rest) := by
    rw [itemTokens_eq_map]
    refine separated_intercalate Ends (fun entry mem tokens htokens => ?_) .comma (.parenthesis rest) (by simp)
      (by simp [item, key, int, sign, perhaps, integer, quoted])
    simp [item, key_tokens, hitems entry mem tokens htokens]
  simp [valueWithin, Shown.tokens, hseparated]

end Lists

theorem length_item_lt (place : Place) {items : List (Key × Shown)} {entry : Key × Shown} (mem : entry ∈ items) :
    (entry.2.tokens place).length < ((Shown.list items).tokens place).length := by
  have hitem : (entry.2.tokens place).Sublist
      (List.intercalate [.mark ","] (Shown.tokens.itemTokens place items)) := by
    rw [itemTokens_eq_map]
    exact ((List.sublist_cons_self _ _).trans (List.sublist_append_right _ _)).trans
      (sublist_intercalate _ (List.mem_map_of_mem mem))
  have hlength := hitem.length_le
  simp only [Shown.tokens, List.length_cons, List.length_append]
  omega

/-- By induction on the value: one step of the depth is for the list, and its items have fewer tokens. -/
theorem valueWithin_tokens {place : Place} {v : Shown} (hv : v.Readable) {depth : Nat}
    (hdepth : (v.tokens place).length ≤ depth) {rest : List Token} (hrest : Ends rest) :
    valueWithin place (depth + 1) (v.tokens place ++ rest) = some (v, rest) := by
  induction hv generalizing depth rest with
  | literal l =>
      rw [Shown.tokens, valueWithin_of_skip_eq_none (skip_array_literal place l rest)]
      exact plain_literal place l hrest
  | list items hitems ih =>
      refine valueWithin_list fun entry mem tokens htokens => ?_
      have hitem := length_item_lt place mem
      obtain ⟨depth, rfl⟩ : ∃ d, depth = d + 1 := ⟨depth - 1, by omega⟩
      exact ih entry mem (by omega) htokens
  | service id =>
      have harray : skip [.word "array", .mark "("] (serviceTokens id ++ rest) = none := by
        unfold serviceTokens
        split <;> simp
      rw [Shown.tokens, valueWithin_of_skip_eq_none harray]
      exact plain_service place id hrest
  | parameter name =>
      rw [Shown.tokens, valueWithin_of_skip_eq_none (by simp [parameterTokens])]
      exact plain_segments place (.parameter name) [] hrest
  | template first second others =>
      have harray : ∀ tokens, skip [.word "array", .mark "("] (segmentTokens place first ++ tokens) = none := by
        intro tokens
        cases first <;> simp [segmentTokens, parameterTokens]
      have hsegments := plain_segments place first (second :: others) hrest
      rw [Shown.tokens, valueWithin_of_skip_eq_none, hsegments]
      · cases first <;> rfl
      · rw [List.map_cons, intercalate_cons, List.append_assoc]
        exact harray _

theorem value_tokens {place : Place} {v : Shown} (hv : v.Readable) {rest : List Token} (hrest : Ends rest) :
    value place (v.tokens place ++ rest) = some (v, rest) := by
  have hpos : 0 < rest.length := by
    cases hrest <;> exact Nat.succ_pos _
  have hlength : (v.tokens place ++ rest).length = (v.tokens place).length + rest.length := List.length_append
  obtain ⟨depth, hdepth⟩ : ∃ depth, (v.tokens place ++ rest).length = depth + 1 :=
    ⟨(v.tokens place ++ rest).length - 1, by omega⟩
  rw [value, hdepth]
  exact valueWithin_tokens hv (by omega) hrest

end Reader

end ServiceContainer.Php

import ServiceContainer.Definition
import ServiceContainer.Proofs.Result

/-!
# Positions of arguments

A positional argument goes behind the greatest index in use. Indices have 64 bits and nothing stands behind the
last one, where counting up overflows and no argument is appended at all. The positions of arguments that are
appended one after the other ascend, and all of them are appended exactly when there is room for as many positions:
the last index can be given out only once, and only to the last of them.
-/

namespace ServiceContainer

instance instLawfulOrderMaxInt64 : Std.LawfulOrderMax Int64 :=
  have max_eq (a b : Int64) : max a b = if a ≤ b then b else a := rfl
  .of_max_le_iff
    (fun a b c => by
      simp only [max_eq, Int64.le_iff_toInt_le]
      split <;> omega)
    (fun a b => by
      rw [max_eq]
      split <;> simp)

open Arguments (indices)

theorem Arguments.indices_append (arguments others : Arguments) :
    indices (arguments ++ others) = indices arguments ++ indices others :=
  List.filterMap_append

/-- An argument that is appended to those of a definition. -/
inductive Addition where
  | positional (value : Value)
  | named (name : String) (value : Value)

namespace Addition

def appendTo? (d : Definition) : Addition → Option Definition
  | .positional value => d.addArgument? value
  | .named name value => some (d.addNamedArgument name value)

def name? : Addition → Option String
  | .positional _ => none
  | .named name _ => some name

def value : Addition → Value
  | .positional value => value
  | .named _ value => value

/-- How many of the arguments have no name. -/
def positions (additions : List Addition) : Nat := additions.countP fun addition => addition.name?.isNone

theorem positions_cons_positional (value : Value) (additions : List Addition) :
    positions (.positional value :: additions) = positions additions + 1 :=
  List.countP_cons_of_pos rfl

theorem positions_cons_named (name : String) (value : Value) (additions : List Addition) :
    positions (.named name value :: additions) = positions additions :=
  List.countP_cons_of_neg Bool.false_ne_true

/-- What additions leave behind the arguments that were there: names, values and order are those given, and every
position is greater than all before it. -/
structure Placed (arguments : Arguments) (additions : List Addition) (added : Arguments) : Prop where
  given : (added.map fun argument => (argument.1.name?, argument.2)) =
    additions.map fun addition => (addition.name?, addition.value)
  behind : ∀ m ∈ indices arguments, ∀ n ∈ indices added, m < n
  ascending : (indices added).Pairwise (· < ·)

end Addition

namespace Definition

open Addition (Placed positions)

variable {arguments : Arguments} {m n : Int64}

/-! ### The next index -/

theorem successor?_eq_some_iff : successor? m = some n ↔ n.toInt = m.toInt + 1 := by
  have hmax : Int64.maxValue.toInt = 2 ^ 63 - 1 := rfl
  rw [successor?]
  split
  next last =>
    subst last
    have hle := Int64.toInt_le n
    simp only [reduceCtorEq, false_iff]
    omega
  next notLast =>
    have hne : m.toInt ≠ Int64.maxValue.toInt := fun heq => notLast (Int64.toInt_inj.mp heq)
    have hle := Int64.toInt_le m
    have hge := Int64.le_toInt m
    have hsum : (m + 1).toInt = m.toInt + 1 := by
      rw [Int64.toInt_add, show (1 : Int64).toInt = 1 from rfl, Int.bmod_eq_of_le (by omega) (by omega)]
    rw [Option.some.injEq, ← Int64.toInt_inj, hsum, eq_comm]

theorem successor?_eq_none_iff : successor? m = none ↔ m = Int64.maxValue := by
  simp [successor?]

theorem mapM_successor?_eq_none_iff (ms : List Int64) : ms.mapM successor? = none ↔ Int64.maxValue ∈ ms := by
  induction ms with
  | nil => simp
  | cons m ms ih =>
      rw [List.mapM_cons, List.mem_cons, ← ih, eq_comm (b := m), ← successor?_eq_none_iff (m := m)]
      cases successor? m <;> cases ms.mapM successor? <;> simp

/-- `n` comes directly behind the greatest index in use, and is the first of all if none is in use. -/
structure IsNext (used : List Int64) (n : Int64) : Prop where
  first : used = [] → n = 0
  behind : ∀ m ∈ used, m < n
  directly : used ≠ [] → ∃ m ∈ used, n.toInt = m.toInt + 1

theorem isNext_of_mapM_successor? {used successors : List Int64} (counted : used.mapM successor? = some successors) :
    IsNext used (successors.max?.getD 0) := by
  have all : List.Forall₂ (fun m n => n.toInt = m.toInt + 1) used successors :=
    (mapM_eq_some_iff.mp counted).imp fun _ _ => successor?_eq_some_iff.mp
  cases hmax : successors.max? with
  | none =>
      rw [List.max?_eq_none_iff.mp hmax, List.forall₂_nil_right_iff] at all
      subst all
      exact ⟨fun _ => rfl, fun m mem => absurd mem List.not_mem_nil, fun hne => absurd rfl hne⟩
  | some greatest =>
      obtain ⟨mem, le_greatest⟩ := List.max?_eq_some_iff.mp hmax
      have hdirectly : ∃ m ∈ used, greatest.toInt = m.toInt + 1 := exists_of_forall₂ all.flip mem
      have hbehind : ∀ m ∈ used, m < greatest := by
        intro m hm
        obtain ⟨successor, hsuccessor, heq⟩ := exists_of_forall₂ all hm
        have hle := Int64.le_iff_toInt_le.mp (le_greatest successor hsuccessor)
        rw [Int64.lt_iff_toInt_lt]
        omega
      refine ⟨fun hnil => ?_, hbehind, fun _ => hdirectly⟩
      obtain ⟨m, hm, -⟩ := hdirectly
      exact absurd (hnil ▸ hm) List.not_mem_nil

theorem addArgument?_eq_none_iff {d : Definition} {value : Value} :
    d.addArgument? value = none ↔ Int64.maxValue ∈ indices d.arguments := by
  rw [addArgument?, Option.map_eq_none_iff, nextIndex?, Option.map_eq_none_iff, mapM_successor?_eq_none_iff]

theorem addArgument?_eq_some {d d' : Definition} {value : Value} (appended : d.addArgument? value = some d') :
    ∃ n, IsNext (indices d.arguments) n ∧ d' = { d with arguments := d.arguments ++ [(.index n, value)] } := by
  obtain ⟨n, next, hd'⟩ := Option.map_eq_some_iff.mp appended
  obtain ⟨successors, counted, hn⟩ := Option.map_eq_some_iff.mp next
  exact ⟨n, hn ▸ isNext_of_mapM_successor? counted, hd'.symm⟩

/-! ### Room for more positions -/

/-- As many positions as `count` have 64 bits when they are counted up from the greatest index in use, or from zero on
if none is in use. -/
structure HasRoom (used : List Int64) (count : Nat) : Prop where
  behind : ∀ m ∈ used, m.toInt + count ≤ Int64.maxValue.toInt
  fromFirst : used = [] → count ≤ Int64.maxValue.toInt + 1

variable {used : List Int64} {count : Nat}

theorem hasRoom_zero (used : List Int64) : HasRoom used 0 := by
  constructor
  · intro m _
    have hle := Int64.toInt_le m
    omega
  · intro _
    decide

theorem IsNext.toInt_eq_zero (next : IsNext used n) (hnil : used = []) : n.toInt = 0 := by
  rw [next.first hnil]
  rfl

theorem IsNext.hasRoom_succ (next : IsNext used n) : HasRoom used (count + 1) ↔ HasRoom (used ++ [n]) count := by
  constructor
  · intro room
    refine ⟨fun m mem => ?_, fun hnil => absurd hnil (List.concat_ne_nil _ _)⟩
    rcases List.mem_append.mp mem with mem | mem
    · have hle := room.behind m mem
      omega
    · rw [List.mem_singleton.mp mem]
      by_cases hnil : used = []
      · have hle := room.fromFirst hnil
        have hzero := next.toInt_eq_zero hnil
        omega
      · obtain ⟨k, hk, heq⟩ := next.directly hnil
        have hle := room.behind k hk
        omega
  · intro room
    have hle : n.toInt + count ≤ Int64.maxValue.toInt := room.behind n List.mem_concat_self
    refine ⟨fun m mem => ?_, fun hnil => ?_⟩
    · have hlt := Int64.lt_iff_toInt_lt.mp (next.behind m mem)
      omega
    · have hzero := next.toInt_eq_zero hnil
      omega

theorem not_hasRoom_succ (last : Int64.maxValue ∈ used) : ¬ HasRoom used (count + 1) := by
  intro room
  have hle := room.behind _ last
  omega

/-! ### Arguments appended one after the other -/

def addAll? (d : Definition) (additions : List Addition) : Option Definition := additions.foldlM Addition.appendTo? d

variable {d d' : Definition} {additions : List Addition} {value : Value} {name : String}

theorem indices_append_name (arguments : Arguments) (name : String) (value : Value) :
    indices (arguments ++ [(.name name, value)]) = indices arguments :=
  (Arguments.indices_append arguments _).trans (List.append_nil _)

theorem indices_append_index (arguments : Arguments) (n : Int64) (value : Value) :
    indices (arguments ++ [(.index n, value)]) = indices arguments ++ [n] :=
  Arguments.indices_append arguments _

theorem addAll?_cons_positional :
    d.addAll? (.positional value :: additions) = (d.addArgument? value).bind (·.addAll? additions) := rfl

theorem addAll?_cons_named :
    d.addAll? (.named name value :: additions) = (d.addNamedArgument name value).addAll? additions := rfl

/-- By induction along the additions: each one takes its room, and leaves what the others need. -/
theorem addAll?_isSome_iff :
    (d.addAll? additions).isSome ↔ HasRoom (indices d.arguments) (positions additions) := by
  induction additions generalizing d with
  | nil => exact iff_of_true rfl (hasRoom_zero _)
  | cons addition additions ih =>
      cases addition with
      | positional value =>
          rw [addAll?_cons_positional, Addition.positions_cons_positional]
          cases happended : d.addArgument? value with
          | none =>
              have last := addArgument?_eq_none_iff.mp happended
              exact iff_of_false Bool.false_ne_true (not_hasRoom_succ last)
          | some d' =>
              obtain ⟨n, next, rfl⟩ := addArgument?_eq_some happended
              rw [next.hasRoom_succ, ← indices_append_index d.arguments n value]
              exact ih
      | named name value =>
          rw [addAll?_cons_named, Addition.positions_cons_named, ih, addNamedArgument, indices_append_name]

theorem placed_nil (arguments : Arguments) : Placed arguments [] [] :=
  ⟨rfl, fun _ _ _ mem => absurd mem List.not_mem_nil, List.Pairwise.nil⟩

theorem IsNext.placed_cons {added : Arguments} (next : IsNext (indices arguments) n)
    (placed : Placed (arguments ++ [(.index n, value)]) additions added) :
    Placed arguments (.positional value :: additions) ((.index n, value) :: added) := by
  have hbehind := placed.behind
  rw [indices_append_index] at hbehind
  have hlt : ∀ k ∈ indices added, n < k := hbehind n List.mem_concat_self
  refine ⟨congrArg (_ :: ·) placed.given, fun m hm k hk => ?_, List.pairwise_cons.mpr ⟨hlt, placed.ascending⟩⟩
  rcases List.mem_cons.mp hk with rfl | hk
  · exact next.behind m hm
  · exact hbehind m (List.mem_append_left _ hm) k hk

theorem placed_cons_named {added : Arguments} (placed : Placed (arguments ++ [(.name name, value)]) additions added) :
    Placed arguments (.named name value :: additions) ((.name name, value) :: added) := by
  have hbehind := placed.behind
  rw [indices_append_name] at hbehind
  exact ⟨congrArg (_ :: ·) placed.given, hbehind, placed.ascending⟩

/-- By induction along the additions: each position comes behind all in use, those of the additions before it
included. -/
theorem placed_of_addAll? (built : d.addAll? additions = some d') :
    ∃ added, Placed d.arguments additions added ∧ d' = { d with arguments := d.arguments ++ added } := by
  induction additions generalizing d with
  | nil =>
      cases built
      exact ⟨[], placed_nil _, by rw [List.append_nil]⟩
  | cons addition additions ih =>
      cases addition with
      | positional value =>
          obtain ⟨first, happended, hrest⟩ := Option.bind_eq_some_iff.mp built
          obtain ⟨n, next, rfl⟩ := addArgument?_eq_some happended
          obtain ⟨added, placed, rfl⟩ := ih hrest
          exact ⟨_, next.placed_cons placed, by rw [List.append_assoc, List.singleton_append]⟩
      | named name value =>
          obtain ⟨added, placed, rfl⟩ := ih built
          exact ⟨_, placed_cons_named placed, by rw [addNamedArgument, List.append_assoc, List.singleton_append]⟩

/-- An argument is appended directly behind all indices in use, and nothing else changes; it is not appended
exactly when the last index of all is in use. Arguments appended one after the other are all there, in order and with
ascending positions, exactly when there is room for the positions of all. -/
theorem addAll_ascends_iff (d : Definition) :
    (∀ value, (d.addArgument? value = none ↔ Int64.maxValue ∈ indices d.arguments) ∧
      (Int64.maxValue ∉ indices d.arguments → ∃ n, IsNext (indices d.arguments) n ∧
        d.addArgument? value = some { d with arguments := d.arguments ++ [(.index n, value)] })) ∧
    ∀ additions, (d.addAll? additions = none ↔ ¬ HasRoom (indices d.arguments) (positions additions)) ∧
      (HasRoom (indices d.arguments) (positions additions) → ∃ added, Placed d.arguments additions added ∧
        d.addAll? additions = some { d with arguments := d.arguments ++ added }) := by
  refine ⟨fun value => ⟨addArgument?_eq_none_iff, fun free => ?_⟩, fun additions => ⟨?_, fun room => ?_⟩⟩
  · obtain ⟨d', happended⟩ := Option.ne_none_iff_exists'.mp (mt addArgument?_eq_none_iff.mp free)
    obtain ⟨n, next, rfl⟩ := addArgument?_eq_some happended
    exact ⟨n, next, happended⟩
  · rw [← addAll?_isSome_iff, Option.not_isSome_iff_eq_none]
  · obtain ⟨d', built⟩ := Option.isSome_iff_exists.mp (addAll?_isSome_iff.mpr room)
    obtain ⟨added, placed, rfl⟩ := placed_of_addAll? built
    exact ⟨added, placed, built⟩

/-- Names, an index that is given twice and one below zero; two indices are still to come behind the greatest. -/
def twoToCome : Definition where
  className := .text "A"
  arguments :=
    [(.index (Int64.maxValue - 2), .null), (.name "size", .null), (.index (-7), .null),
      (.index (Int64.maxValue - 2), .null)]

/-- Two positions fit, with a name between them. -/
theorem addAll_ascends_twoToCome :
    let additions : List Addition := [.positional .null, .named "color" .null, .positional .null]
    (Int64.maxValue ∉ indices twoToCome.arguments ∧ ∃ n, IsNext (indices twoToCome.arguments) n ∧
      twoToCome.addArgument? .null =
        some { twoToCome with arguments := twoToCome.arguments ++ [(.index n, .null)] }) ∧
    HasRoom (indices twoToCome.arguments) (positions additions) ∧
      ∃ added, Placed twoToCome.arguments additions added ∧
        twoToCome.addAll? additions = some { twoToCome with arguments := twoToCome.arguments ++ added } := by
  have used : indices twoToCome.arguments = [Int64.maxValue - 2, -7, Int64.maxValue - 2] := rfl
  have free : Int64.maxValue ∉ indices twoToCome.arguments := by
    rw [used]
    decide
  have room : HasRoom (indices twoToCome.arguments) 2 := by
    rw [used]
    refine ⟨?_, fun hnil => by cases hnil⟩
    rw [List.forall_mem_cons, List.forall_mem_cons, List.forall_mem_singleton]
    decide
  obtain ⟨appends, builds⟩ := addAll_ascends_iff twoToCome
  exact ⟨⟨free, (appends .null).2 free⟩, room, (builds _).2 room⟩

/-! ### An argument that is not appended -/

/-- A definition in which only the last index is still to come. -/
def beforeLast : Definition := { className := .text "A", arguments := [(.index (Int64.maxValue - 1), .null)] }

/-- One more argument takes the last index, and the next one is not appended at all. -/
theorem not_ascends_beforeLast :
    beforeLast.addArgument? .null =
        some { beforeLast with arguments := beforeLast.arguments ++ [(.index Int64.maxValue, .null)] } ∧
      ((beforeLast.addArgument? .null).bind fun d => d.addArgument? .null) = none ∧
      beforeLast.addAll? [.positional .null, .positional .null] = none :=
  ⟨rfl, rfl, rfl⟩

end Definition

end ServiceContainer

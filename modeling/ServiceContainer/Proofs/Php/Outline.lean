import ServiceContainer.Proofs.Accessor
import ServiceContainer.Proofs.Php.ClassReading
import ServiceContainer.Proofs.Php.Lexing

/-!
# The methods of a class

A class can be taken apart without a look at what its methods do: its table of accessors, then one method behind
the other, each up to the brace that closes its body. Bodies are told apart by their braces alone, so all of them
are found, whatever values are written in them.
-/

namespace ServiceContainer.Php

open Token (word var mark)

structure Method where
  visibility : String
  name : String
  parameters : List String
  body : List Token

/-- What a class declares: the accessor that its table names for each id, and its methods. -/
structure Outline where
  table : List (ServiceId × String)
  methods : List Method

def Method.tokens (m : Method) : List Token :=
  methodTokens m.visibility m.name (List.intercalate [mark ","] (m.parameters.map fun name => [var name])) m.body

namespace Reader

def variableName : Reader String
  | .var name :: tokens => some (name, tokens)
  | _ => none

/-- The tokens up to the brace that closes a block. Those in `inner`, the last one first, have been read, and
`depth` more blocks have been opened in them. -/
def block : Nat → List Token → Reader (List Token)
  | _, _, [] => none
  | depth, inner, token :: tokens =>
    if token = mark "\x7d" then
      match depth with
      | 0 => some (inner.reverse, tokens)
      | depth + 1 => block depth (token :: inner) tokens
    else block (if token = mark "\x7b" then depth + 1 else depth) (token :: inner) tokens

def method : Reader Method := do
  let visibility ← word
  skip [.word "function"]
  let name ← word
  skip [.mark "("]
  let parameters ← separated (.mark ",") variableName
  skip [.mark ")", .mark "\x7b"]
  return ⟨visibility, name, parameters, ← block 0 []⟩

def outline : Reader Outline := do
  skip [.word "class"]
  let _ ← word
  skip [.word "extends"]
  let _ ← word
  skip [.mark "\x7b"]
  let table ← table
  let methods ← many method
  skip [.mark "\x7d"]
  return ⟨table, methods⟩

/-! ### Bodies -/

/-- Each block that is opened is closed again. -/
def Balanced (tokens : List Token) : Prop :=
  ∀ depth inner rest, block depth inner (tokens ++ rest) = block depth (tokens.reverse ++ inner) rest

/-- There are no blocks at all. -/
def Braceless (tokens : List Token) : Prop := ∀ token ∈ tokens, token ≠ mark "\x7b" ∧ token ≠ mark "\x7d"

theorem Balanced.block {tokens : List Token} (balanced : Balanced tokens) (rest : List Token) :
    block 0 [] (tokens ++ mark "\x7d" :: rest) = some (tokens, rest) := by
  rw [balanced, Reader.block, if_pos rfl, List.append_nil, List.reverse_reverse]

theorem Braceless.balanced {tokens : List Token} (braceless : Braceless tokens) : Balanced tokens := by
  induction tokens with
  | nil => exact fun _ _ _ => rfl
  | cons token tokens ih =>
      obtain ⟨⟨hopen, hclose⟩, braceless⟩ := List.forall_mem_cons.mp braceless
      intro depth inner rest
      have hblock : Reader.block depth inner (token :: (tokens ++ rest)) =
          Reader.block depth (token :: inner) (tokens ++ rest) := by
        cases depth <;> simp only [Reader.block, hopen, hclose, if_false]
      rw [List.cons_append, hblock, ih braceless, List.reverse_cons, List.append_assoc]
      rfl

end Reader

/-! ### Values have no braces -/

theorem Shown.induction {P : Shown → Prop} (literal : ∀ l, P (.literal l))
    (list : ∀ items, (∀ entry ∈ items, P entry.2) → P (.list items)) (service : ∀ id, P (.service id))
    (parameter : ∀ name, P (.parameter name)) (template : ∀ segments, P (.template segments))
    (object : ∀ type, P (.object type)) (v : Shown) : P v := by
  refine @Shown.rec P (fun items => ∀ entry ∈ items, P entry.2) (fun entry => P entry.2)
    literal list service parameter template object ?_ ?_ ?_ v
  · exact nofun
  · exact fun entry items hentry hitems => List.forall_mem_cons.mpr ⟨hentry, hitems⟩
  · exact fun key item hitem => hitem

namespace Reader

@[simp]
theorem braceless_nil : Braceless [] := nofun

@[simp]
theorem braceless_cons {token : Token} {tokens : List Token} :
    Braceless (token :: tokens) ↔ (token ≠ mark "\x7b" ∧ token ≠ mark "\x7d") ∧ Braceless tokens :=
  List.forall_mem_cons

@[simp]
theorem braceless_append {tokens tokens' : List Token} :
    Braceless (tokens ++ tokens') ↔ Braceless tokens ∧ Braceless tokens' :=
  List.forall_mem_append

theorem braceless_flatMap {α : Type} {write : α → List Token} {as : List α} (each : ∀ a ∈ as, Braceless (write a)) :
    Braceless (as.flatMap write) := by
  intro token mem
  obtain ⟨a, ha, htoken⟩ := List.mem_flatMap.mp mem
  exact each a ha token htoken

theorem braceless_intercalate {separator : String} (hseparator : Braceless [mark separator]) {parts : List (List Token)}
    (each : ∀ part ∈ parts, Braceless part) : Braceless (List.intercalate [mark separator] parts) := by
  cases parts with
  | nil => exact braceless_nil
  | cons first others =>
      obtain ⟨hfirst, each⟩ := List.forall_mem_cons.mp each
      rw [intercalate_cons, braceless_append]
      refine ⟨hfirst, braceless_flatMap fun part mem => ?_⟩
      exact braceless_append.mpr ⟨hseparator, each part mem⟩

@[simp]
theorem braceless_int (n : Int) : Braceless (Lexer.intTokens n) := by
  by_cases negative : n < 0 <;> simp [Lexer.intTokens, Lexer.signTokens, negative]

@[simp]
theorem braceless_literal (place : Place) (l : Literal) : Braceless (l.tokens place) := by
  cases l with
  | null => simp [Literal.tokens]
  | bool b => simp [Literal.tokens]
  | int n =>
      rw [Literal.tokens]
      split
      · simp
      · exact braceless_int n.toInt
  | float s =>
      rw [Literal.tokens, Lexer.floatTokens]
      repeat' split
      all_goals simp
  | text s => simp [Literal.tokens]

@[simp]
theorem braceless_service (id : ServiceId) : Braceless (serviceTokens id) := by
  unfold serviceTokens
  split <;> simp

@[simp]
theorem braceless_segment (place : Place) (s : Segment String) : Braceless (segmentTokens place s) := by
  cases s <;> simp [segmentTokens, parameterTokens]

@[simp]
theorem braceless_key (k : Key) : Braceless (keyTokens k) := by
  cases k with
  | index n => exact braceless_int n.toInt
  | name s => simp [keyTokens]

@[simp]
theorem braceless_value (place : Place) (v : Shown) : Braceless (v.tokens place) := by
  induction v using Shown.induction with
  | literal l => exact braceless_literal place l
  | list items ih =>
      have hitems : Braceless (List.intercalate [mark ","] (Shown.tokens.itemTokens place items)) := by
        rw [itemTokens_eq_map]
        refine braceless_intercalate (by simp) fun part mem => ?_
        obtain ⟨entry, hentry, rfl⟩ := List.mem_map.mp mem
        simp [ih entry hentry]
      simp [Shown.tokens, hitems]
  | service id => exact braceless_service id
  | parameter name => simp [Shown.tokens, parameterTokens]
  | template segments =>
      refine braceless_intercalate (by simp) fun part mem => ?_
      obtain ⟨s, -, rfl⟩ := List.mem_map.mp mem
      exact braceless_segment place s
  | object type => exact braceless_nil

theorem braceless_argument (a : Option String × Shown) : Braceless (argumentTokens a) := by
  obtain ⟨_ | name, v⟩ := a <;> simp [argumentTokens]

@[simp]
theorem braceless_arguments (args : ShownArguments) : Braceless (argumentsTokens args) := by
  have hargs : Braceless (List.intercalate [mark ","] (args.map argumentTokens)) := by
    refine braceless_intercalate (by simp) fun part mem => ?_
    obtain ⟨a, -, rfl⟩ := List.mem_map.mp mem
    exact braceless_argument a
  simp [argumentsTokens, hargs]

@[simp]
theorem braceless_construction (factory : Option String) (className : Shown) :
    Braceless (constructionTokens factory className) := by
  unfold constructionTokens
  split <;> cases factory <;> simp

theorem braceless_call (c : ShownCall) : Braceless c.tokens := by
  simp [ShownCall.tokens]

theorem braceless_configurator (c : ShownConfigurator) : Braceless c.tokens := by
  cases c <;> simp [ShownConfigurator.tokens, handOverTokens]

theorem braceless_definition (id : ServiceId) (d : ShownDefinition) : Braceless (d.tokens id) := by
  have hfile : Braceless (d.file.elim [] fileTokens) := by
    cases d.file <;> simp [fileTokens]
  have hcalls : Braceless (d.calls.flatMap ShownCall.tokens) := braceless_flatMap fun c _ => braceless_call c
  have hconfigurator : Braceless (d.configurator.elim [] ShownConfigurator.tokens) := by
    cases d.configurator with
    | none => exact braceless_nil
    | some c => exact braceless_configurator c
  have hend : Braceless (endTokens id d.shared) := by
    unfold endTokens
    split <;> simp [storeTokens]
  simp [ShownDefinition.tokens, hfile, hcalls, hconfigurator, hend]

theorem braceless_entry (id : ServiceId) (e : ShownEntry) : Braceless (e.tokens id) := by
  cases e with
  | definition d => exact braceless_definition id d
  | «alias» target => simp [ShownEntry.tokens]

theorem braceless_default (parameter : String × Shown) : Braceless (defaultTokens parameter) := by
  simp [defaultTokens]

end Reader

/-! ### The methods of a generated class -/

namespace Method

def constructor : Method :=
  ⟨"public", "__construct", [],
    [word "parent", mark "::", word "__construct", mark "(", var "this", mark "->",
      word "getDefaultParameters", mark "(", mark ")", mark ")", mark ";"]⟩

def getService : Method := ⟨"public", "getService", ["id"], getServiceTokens⟩

/-- The methods that look up services in the table first. -/
def lookups : List Method :=
  [⟨"public", "hasService", ["id"], hasServiceTokens⟩, getService,
    ⟨"public", "getServiceIds", [], getServiceIdsTokens⟩]

def accessor (entry : ServiceId × ShownEntry) : Method :=
  ⟨"protected", accessorName entry.1, [], entry.2.tokens entry.1⟩

def defaults (parameters : List (String × Shown)) : Method :=
  ⟨"protected", "getDefaultParameters", [],
    word "return" :: word "array" :: mark "(" :: (parameters.flatMap defaultTokens ++ [mark ")", mark ";"])⟩

end Method

namespace Contents

variable (contents : Contents)

def methods : List Method :=
  (if contents.parameters.isEmpty then [] else [.constructor]) ++ (Method.lookups ++
    (contents.entries.map Method.accessor ++
      (if contents.parameters.isEmpty then [] else [.defaults contents.parameters])))

def outline : Outline := ⟨contents.table, contents.methods⟩

theorem tokens_eq :
    contents.tokens = word "class" :: word contents.names.name :: word "extends" :: word contents.names.base ::
      mark "\x7b" :: (tableTokens contents.table ++ (contents.methods.flatMap Method.tokens ++ [mark "\x7d"])) := by
  have hconstructor : Method.constructor.tokens = constructorTokens := rfl
  have hlookups : Method.lookups.flatMap Method.tokens = lookupTokens := rfl
  have haccessors : (contents.entries.map Method.accessor).flatMap Method.tokens =
      contents.entries.flatMap Contents.accessorTokens := List.flatMap_map _ _ _
  have hdefaults : (Method.defaults contents.parameters).tokens = defaultsTokens contents.parameters := rfl
  unfold tokens methods
  split <;> simp [hconstructor, hlookups, haccessors, hdefaults]

variable {contents}

theorem forall_mem_methods {P : Method → Prop} (constructor : P .constructor) (lookups : ∀ m ∈ Method.lookups, P m)
    (accessors : ∀ e ∈ contents.entries, P (.accessor e)) (defaults : P (.defaults contents.parameters)) :
    ∀ m ∈ contents.methods, P m := by
  intro m mem
  simp only [methods, List.mem_append, List.mem_map, List.mem_ite_nil_left, List.mem_singleton] at mem
  rcases mem with ⟨-, rfl⟩ | mem | ⟨e, he, rfl⟩ | ⟨-, rfl⟩
  · exact constructor
  · exact lookups m mem
  · exact accessors e he
  · exact defaults

end Contents

namespace Reader

theorem variableName_tokens (name : String) (rest : List Token) :
    variableName ([var name] ++ rest) = some (name, rest) := rfl

theorem method_tokens {m : Method} (balanced : Balanced m.body) (rest : List Token) :
    method (m.tokens ++ rest) = some (m, rest) := by
  have hparameters : ∀ rest, separated (mark ",") variableName
      (List.intercalate [mark ","] (m.parameters.map fun name => [var name]) ++ mark ")" :: rest) =
        some (m.parameters, mark ")" :: rest) := fun rest =>
    separated_intercalate (fun _ => True) (fun name _ tokens _ => variableName_tokens name tokens) (fun _ => trivial)
      trivial (by simp) rfl
  simp [method, Method.tokens, methodTokens, Reader.word, hparameters, balanced.block]

theorem braceless_defaults (parameters : List (String × Shown)) : Braceless (Method.defaults parameters).body := by
  have hparameters : Braceless (parameters.flatMap defaultTokens) :=
    braceless_flatMap fun parameter _ => braceless_default parameter
  simp [Method.defaults, hparameters]

theorem balanced_of_mem_methods {contents : Contents} : ∀ m ∈ contents.methods, Balanced m.body := by
  refine Contents.forall_mem_methods (fun _ _ _ => rfl) ?lookups
    (fun e _ => (braceless_entry e.1 e.2).balanced) (braceless_defaults contents.parameters).balanced
  simp only [Method.lookups, List.forall_mem_cons, List.not_mem_nil, false_implies, implies_true, and_true]
  exact ⟨fun _ _ _ => rfl, fun _ _ _ => rfl, fun _ _ _ => rfl⟩

theorem outline_tokens (contents : Contents) : outline contents.tokens = some (contents.outline, []) := by
  have hmethods : many method (contents.methods.flatMap Method.tokens ++ [mark "\x7d"]) =
      some (contents.methods, [mark "\x7d"]) :=
    many_flatMap (fun _ => True) (fun m mem rest _ => method_tokens (balanced_of_mem_methods m mem) rest)
      (fun _ _ => List.cons_ne_nil _ _) (fun _ _ _ => trivial) trivial (by simp [method, Reader.word])
  rw [Contents.tokens_eq]
  simp [outline, Reader.word, table_tokens, hmethods, Contents.outline]

end Reader

/-- What a class declares, if the whole text is a class. -/
def outline? (text : String) : Option Outline := do
  match Reader.outline (← Lexer.tokens? text) with
  | some (outline, []) => some outline
  | _ => none

theorem outline?_containerClass {names : ClassNames} {c : Container} {text : String}
    (htext : containerClass names c = .ok text) : outline? text = some (Contents.ofContainer names c).outline := by
  simp [outline?, tokens?_containerClass htext, Reader.outline_tokens]

end ServiceContainer.Php

import ServiceContainer.Proofs.Php.Reading

/-!
# Reading definitions and classes

The parts of a class are told apart by how they begin: each is read off its own tokens, and none is taken for
one that comes before it.
-/

namespace ServiceContainer.Php

namespace Reader

/-! ### Definitions -/

theorem eq_of_word_literal {place : Place} {l : Literal} {rest after : List Token} {name : String}
    (hword : word (l.tokens place ++ rest) = some (name, after)) : after = rest := by
  cases l with
  | null => simp_all [Literal.tokens, word]
  | bool b => simp_all [Literal.tokens, word]
  | int n =>
      rw [Literal.tokens] at hword
      split at hword
      · simp_all [word]
      · by_cases negative : n.toInt < 0 <;> simp [Lexer.intTokens, Lexer.signTokens, negative, word] at hword
  | float s =>
      rw [Literal.tokens, Lexer.floatTokens] at hword
      repeat' split at hword
      all_goals simp_all [word]
  | text s => simp [Literal.tokens, word] at hword

/-- A value that begins with a word is not taken for a named argument. -/
theorem skip_colon_of_word {place : Place} {v : Shown} (hv : v.Readable) {rest after : List Token}
    (hrest : Ends rest) {name : String} (hword : word (v.tokens place ++ rest) = some (name, after)) :
    skip [.mark ":"] after = none := by
  cases hv with
  | literal l =>
      obtain rfl := eq_of_word_literal hword
      cases hrest <;> simp
  | list items _ =>
      simp only [Shown.tokens, List.cons_append, word, Option.some.injEq, Prod.mk.injEq] at hword
      obtain ⟨-, rfl⟩ := hword
      simp
  | service id =>
      rw [Shown.tokens, serviceTokens] at hword
      split at hword <;> simp [word] at hword
  | parameter name => simp [Shown.tokens, parameterTokens, word] at hword
  | template first second others =>
      rw [Shown.tokens, List.map_cons, intercalate_cons, List.append_assoc] at hword
      cases first <;> simp [segmentTokens, parameterTokens, word] at hword

theorem value_parenthesis (place : Place) (rest : List Token) : value place (.mark ")" :: rest) = none := by
  simp [value, valueWithin, plain, constant, number, int, sign, perhaps, integer, float, segments, segment, quoted,
    service]

variable {rest : List Token}

theorem argument_tokens {a : Option String × Shown} (ha : a.2.Readable) (hrest : Ends rest) :
    argument (argumentTokens a ++ rest) = some (a, rest) := by
  obtain ⟨name?, v⟩ := a
  cases name? with
  | some name => simp [argument, argumentTokens, word, value_tokens ha hrest]
  | none =>
      cases hword : word (v.tokens .code ++ rest) with
      | none => simp [argument, argumentTokens, hword, value_tokens ha hrest]
      | some read =>
          have hcolon := skip_colon_of_word ha hrest hword
          simp [argument, argumentTokens, hword, hcolon, value_tokens ha hrest]

theorem arguments_tokens {args : ShownArguments} (hargs : ∀ a ∈ args, a.2.Readable) :
    arguments (argumentsTokens args ++ rest) = some (args, rest) := by
  have hseparated : separated (.mark ",") argument
      (List.intercalate [.mark ","] (args.map argumentTokens) ++ .mark ")" :: .mark ";" :: rest) =
        some (args, .mark ")" :: .mark ";" :: rest) :=
    separated_intercalate Ends (fun a mem tokens htokens => argument_tokens (hargs a mem) htokens)
      .comma (.parenthesis _) (by simp) (by simp [argument, word, value_parenthesis])
  simp [arguments, argumentsTokens, hseparated]

theorem construction_text (factory : Option String) (name : String) :
    construction (constructionTokens factory (.literal (.text name)) ++ rest) =
      some ((factory, .literal (.text name)), rest) := by
  cases factory with
  | none => simp [construction, constructionTokens, word]
  -- The class may itself be called `new`; behind its name comes the method, not the arguments.
  | some method => by_cases hnew : "new" = name <;> simp [construction, constructionTokens, word, hnew]

theorem construction_tokens {className : Shown} (hclass : className.Readable) (factory : Option String) :
    construction (constructionTokens factory className ++ rest) = some ((factory, className), rest) := by
  unfold constructionTokens
  split
  · exact construction_text factory _
  · cases factory with
    | none => simp [construction, value_tokens hclass (.semicolon _)]
    | some method => simp [construction, word, value_tokens hclass (.semicolon _)]

theorem call_tokens {c : ShownCall} (hc : ∀ a ∈ c.arguments, a.2.Readable) :
    call (c.tokens ++ rest) = some (c, rest) := by
  simp [call, ShownCall.tokens, word, arguments_tokens hc]

theorem configurator_tokens {c : ShownConfigurator}
    (hc : ∀ target method, c = .staticMethod target method → target.Readable) :
    configurator (c.tokens ++ rest) = some (c, rest) := by
  cases c with
  | function name => simp [configurator, ShownConfigurator.tokens, handOverTokens, word]
  | serviceMethod service method =>
      have hword : word (serviceTokens service ++ .mark "->" :: .word method :: (handOverTokens ++ rest)) = none := by
        unfold serviceTokens
        split <;> simp [word]
      have hservice : Reader.service
          (serviceTokens service ++ .mark "->" :: .word method :: (handOverTokens ++ rest)) =
            some (service, .mark "->" :: .word method :: (handOverTokens ++ rest)) := by
        refine service_tokens service ?_
        -- On the container itself a method may be called `getService` too; it is given the instance, not an id.
        by_cases hmethod : "getService" = method <;> simp [handOverTokens, hmethod, quoted]
      have hname : word (.word method :: (handOverTokens ++ rest)) = some (method, handOverTokens ++ rest) := rfl
      simp [configurator, ShownConfigurator.tokens, hword, hservice, hname, skip_append]
  | classMethod name method => simp [configurator, ShownConfigurator.tokens, handOverTokens, word]
  | staticMethod target method =>
      simp [configurator, ShownConfigurator.tokens, handOverTokens, word, service, quoted,
        value_tokens (hc target method rfl) (.comma _)]

theorem call_endTokens (id : ServiceId) (shared : Bool) : call (endTokens id shared ++ rest) = none := by
  cases shared <;> simp [call, endTokens, storeTokens]

theorem configurator_endTokens (id : ServiceId) (shared : Bool) :
    configurator (endTokens id shared ++ rest) = none := by
  cases shared <;> simp [configurator, endTokens, storeTokens, handOverTokens, word, service]

theorem call_configurator (c : ShownConfigurator) : call (c.tokens ++ rest) = none := by
  cases c with
  | serviceMethod service method =>
      rw [ShownConfigurator.tokens, serviceTokens]
      split <;> simp [call]
  | _ => simp [call, ShownConfigurator.tokens]

theorem perhaps_file {file : Option Shown} (hfile : ∀ v ∈ file, v.Readable) (factory : Option String)
    (className : Shown) :
    perhaps Reader.file (file.elim [] fileTokens ++ (constructionTokens factory className ++ rest)) =
      some (file, constructionTokens factory className ++ rest) := by
  cases file with
  | none =>
      refine perhaps_of_eq_none ?_
      unfold constructionTokens
      split <;> simp [Reader.file]
  | some v =>
      refine perhaps_of_eq_some ?_
      simp [Reader.file, fileTokens, value_tokens (hfile v rfl) (.semicolon _)]

theorem calls_tokens {calls : List ShownCall} (hcalls : ∀ c ∈ calls, ∀ a ∈ c.arguments, a.2.Readable)
    (hend : call rest = none) :
    many call (calls.flatMap ShownCall.tokens ++ rest) = some (calls, rest) :=
  many_flatMap (fun _ => True) (fun c mem _ _ => call_tokens (hcalls c mem))
    (fun _ _ => List.cons_ne_nil _ _) (fun _ _ _ => trivial) trivial hend

end Reader

/-- The values of a definition can be read. -/
structure ShownDefinition.Readable (d : ShownDefinition) : Prop where
  className : d.className.Readable
  file : ∀ file ∈ d.file, file.Readable
  arguments : ∀ a ∈ d.arguments, a.2.Readable
  calls : ∀ call ∈ d.calls, ∀ a ∈ call.arguments, a.2.Readable
  configurator : ∀ target method, d.configurator = some (.staticMethod target method) → target.Readable

namespace Reader

variable {rest : List Token}

theorem perhaps_configurator {c : Option ShownConfigurator}
    (hc : ∀ target method, c = some (.staticMethod target method) → target.Readable) (id : ServiceId)
    (shared : Bool) :
    perhaps configurator (c.elim [] ShownConfigurator.tokens ++ (endTokens id shared ++ rest)) =
      some (c, endTokens id shared ++ rest) := by
  cases c with
  | none => exact perhaps_of_eq_none (configurator_endTokens id shared)
  | some c => exact perhaps_of_eq_some (configurator_tokens fun target method h => hc target method (congrArg some h))

theorem perhaps_store (id : ServiceId) (shared : Bool) :
    perhaps (skip (storeTokens id)) (endTokens id shared ++ rest) =
      some (if shared then some () else none, .word "return" :: .var "instance" :: .mark ";" :: rest) := by
  cases shared with
  | false => exact perhaps_of_eq_none (by simp [endTokens, storeTokens])
  | true => exact perhaps_of_eq_some (skip_append _ _)

theorem definition_tokens {d : ShownDefinition} (hd : d.Readable) (id : ServiceId) :
    definition id (d.tokens id ++ rest) = some (d, rest) := by
  have htokens : d.tokens id ++ rest =
      d.file.elim [] fileTokens ++ (constructionTokens d.factory d.className ++ (argumentsTokens d.arguments ++
        (d.calls.flatMap ShownCall.tokens ++ (d.configurator.elim [] ShownConfigurator.tokens ++
          (endTokens id d.shared ++ rest))))) := by
    simp only [ShownDefinition.tokens, List.append_assoc]
  have hcall : call (d.configurator.elim [] ShownConfigurator.tokens ++ (endTokens id d.shared ++ rest)) = none := by
    cases d.configurator with
    | none => exact call_endTokens id d.shared
    | some c => exact call_configurator c
  have hshared : (if d.shared then some () else none).isSome = d.shared := by
    cases d.shared <;> rfl
  rw [htokens]
  simp [definition, perhaps_file hd.file, construction_tokens hd.className, arguments_tokens hd.arguments,
    calls_tokens hd.calls hcall, perhaps_configurator hd.configurator, perhaps_store, hshared]

theorem skip_return_definition (d : ShownDefinition) (id : ServiceId) :
    skip [.word "return"] (d.tokens id ++ rest) = none := by
  unfold ShownDefinition.tokens constructionTokens
  cases d.file with
  | none => split <;> simp
  | some file => simp [fileTokens]

theorem entry_tokens {e : ShownEntry} (he : ∀ d, e = .definition d → d.Readable) (id : ServiceId) :
    entry id (e.tokens id ++ rest) = some (e, rest) := by
  match e, he with
  | .definition d, he =>
      have halias : skip [.word "return"] (d.tokens id ++ rest) = none := skip_return_definition d id
      simp [entry, ShownEntry.tokens, halias, definition_tokens (he d rfl)]
  | .alias target, _ =>
      have hservice : service (serviceTokens target ++ .mark ";" :: rest) = some (target, .mark ";" :: rest) :=
        service_tokens target (by simp)
      simp [entry, ShownEntry.tokens, hservice]

/-! ### Classes -/

theorem accessor_tokens {e : ServiceId × ShownEntry} (he : ∀ d, e.2 = .definition d → d.Readable) :
    accessor (e.1, accessorName e.1) (Contents.accessorTokens e ++ rest) = some (e, rest) := by
  simp [accessor, Contents.accessorTokens, methodTokens, entry_tokens he]

theorem accessors_tokens {entries : List (ServiceId × ShownEntry)}
    (hentries : ∀ e ∈ entries, ∀ d, e.2 = .definition d → d.Readable) :
    (entries.map fun (id, _) => (id, accessorName id)).mapM accessor
      (entries.flatMap Contents.accessorTokens ++ rest) = some (entries, rest) := by
  induction entries with
  | nil => rfl
  | cons e entries ih =>
      obtain ⟨he, hentries⟩ := List.forall_mem_cons.mp hentries
      rw [List.map_cons, List.mapM_cons, List.flatMap_cons, List.append_assoc]
      simp only [bind_apply, accessor_tokens he, ih hentries, Option.bind_some]
      rw [pure_apply]

theorem table_tokens (rows : List (ServiceId × String)) :
    table (tableTokens rows ++ rest) = some (rows, rest) := by
  have hrows : many row (rows.flatMap rowTokens ++ .mark ")" :: .mark ";" :: rest) =
      some (rows, .mark ")" :: .mark ";" :: rest) :=
    many_flatMap (fun _ => True) (fun _ _ _ _ => by simp [row, rowTokens, quoted])
      (fun _ _ => List.cons_ne_nil _ _) (fun _ _ _ => trivial) trivial (by simp [row, quoted])
  simp [table, tableTokens, hrows]

theorem parameters_tokens {defaults : List (String × Shown)} (hdefaults : ∀ p ∈ defaults, p.2.Readable) :
    parameters (defaultsTokens defaults ++ rest) = some (defaults, rest) := by
  have hparameters : many parameter (defaults.flatMap defaultTokens ++ .mark ")" :: .mark ";" :: .mark "\x7d" :: rest) =
      some (defaults, .mark ")" :: .mark ";" :: .mark "\x7d" :: rest) :=
    many_flatMap (fun _ => True)
      (fun p mem _ _ => by simp [parameter, defaultTokens, quoted, value_tokens (hdefaults p mem) (.comma _)])
      (fun _ _ => List.cons_ne_nil _ _) (fun _ _ _ => trivial) trivial (by simp [parameter, quoted])
  simp [parameters, defaultsTokens, methodTokens, hparameters]

theorem skip_constructor_lookup : skip constructorTokens (lookupTokens ++ rest) = none := by
  simp [constructorTokens, lookupTokens, methodTokens]

end Reader

/-- The values of a class can be read. -/
structure Contents.Readable (contents : Contents) : Prop where
  entries : ∀ e ∈ contents.entries, ∀ d, e.2 = .definition d → d.Readable
  parameters : ∀ p ∈ contents.parameters, p.2.Readable

theorem Reader.contents_tokens {c : Contents} (hc : c.Readable) : contents c.tokens = some (c, []) := by
  have haccessors : ∀ rest, c.table.mapM accessor (c.entries.flatMap Contents.accessorTokens ++ rest) =
      some (c.entries, rest) := fun rest => accessors_tokens hc.entries
  obtain ⟨names, entries, defaults⟩ := c
  -- The class has a constructor exactly when it has parameters.
  cases defaults with
  | nil =>
      have hconstructor : ∀ rest, perhaps (skip constructorTokens) (lookupTokens ++ rest) =
          some (none, lookupTokens ++ rest) := fun rest => perhaps_of_eq_none skip_constructor_lookup
      simp only [contents, Contents.tokens, List.isEmpty_nil, ↓reduceIte, List.nil_append, bind_apply, pure_apply,
        skip_cons_cons, skip_nil, word, Option.bind_some, table_tokens, hconstructor, skip_append, haccessors,
        Option.isSome_none, Bool.false_eq_true]
  | cons p defaults =>
      have hconstructor : ∀ rest, perhaps (skip constructorTokens) (constructorTokens ++ rest) =
          some (some (), rest) := fun rest => perhaps_of_eq_some (skip_append _ _)
      have hparameters : ∀ rest, parameters (defaultsTokens (p :: defaults) ++ rest) = some (p :: defaults, rest) :=
        fun rest => parameters_tokens hc.parameters
      simp only [contents, Contents.tokens, List.isEmpty_cons, ↓reduceIte, bind_apply, pure_apply, skip_cons_cons,
        skip_nil, word, Option.bind_some, table_tokens, hconstructor, skip_append, haccessors, Option.isSome_some,
        Bool.false_eq_true, hparameters]

end ServiceContainer.Php

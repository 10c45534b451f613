import ServiceContainer.Proofs.Accessor
import ServiceContainer.Proofs.Php.Contents
import ServiceContainer.Proofs.Php.Writable

/-!
# The tokens of a generated class

Generated text is read as the tokens of what it was generated from, function by function: quoted text whatever
it holds, and text that is not quoted because it was checked to be a name.
-/

namespace ServiceContainer.Php

open Lexer
open Token (word var mark)

/-! ### Values -/

theorem readsBefore_serviceCall (id : ServiceId) :
    ReadsBefore endsName (serviceCall id) (serviceTokens id) := by
  unfold serviceCall serviceTokens
  split
  · have this : ReadsBefore endsName "$this" ([] ++ [var "this"]) := readsBefore_of_var rfl rfl
    exact this
  · have opening : Reads "$this->getService(" [var "this", mark "->", word "getService", mark "("] :=
      reads_ofList rfl
    have closing : Reads ")" [mark ")"] := reads_ofList rfl
    exact ((opening.append (reads_quote id)).append closing).before

theorem reads_parameterText (name : String) : Reads (Expression.parameterText name) (parameterTokens name) := by
  have opening : Reads "$this->getParameter(" [var "this", mark "->", word "getParameter", mark "("] :=
    reads_ofList rfl
  have closing : Reads ")" [mark ")"] := reads_ofList rfl
  exact (opening.append (reads_quote name)).append closing

theorem reads_segment (place : Place) (s : Segment ParameterKey) :
    Reads (segment place s) (segmentTokens place (s.map ParameterKey.text)) := by
  cases s with
  | literal s =>
      rw [segment, textAt_eq_quote_placed]
      exact reads_quote _
  | parameter key =>
      rw [segment, parameterCall_eq_parameterText]
      exact reads_parameterText key.text

theorem readsBefore_scalar {place : Place} {s : Scalar} {text : String}
    (htext : value place (.scalar s) = .ok text) :
    ReadsBefore isEnd text ((Literal.ofScalar s).tokens place) := by
  cases s with
  | null =>
      cases htext
      exact readsBefore_constant (by decide)
  | bool b =>
      cases htext
      cases b <;> exact readsBefore_constant (by decide)
  | int n =>
      cases htext
      rw [scalar, Literal.ofScalar, Literal.tokens]
      split
      · exact readsBefore_constant (by decide)
      · exact readsBefore_int n.toInt
  | float x =>
      cases htext
      exact readsBefore_float x
  | text s =>
      cases htext
      rw [textAt_eq_quote_placed]
      exact (reads_quote _).before

theorem readsBefore_key (k : Key) : ReadsBefore isEnd (key k) (keyTokens k) := by
  cases k with
  | index n => exact readsBefore_int n.toInt
  | name s => exact (reads_quote s).before

/-- What generating the items of a list does for the first one. -/
theorem entries_cons {place : Place} {entry : Key × Value} {items : List (Key × Value)} {texts : List String}
    (htexts : value.entries place (entry :: items) = .ok texts) :
    ∃ text others, value place entry.2 = .ok text ∧ value.entries place items = .ok others ∧
      texts = (key entry.1 ++ " => " ++ text) :: others := by
  obtain ⟨text, htext, rest⟩ := bind_eq_ok_iff.mp htexts
  obtain ⟨others, hothers, heq⟩ := bind_eq_ok_iff.mp rest
  cases heq
  exact ⟨text, others, htext, hothers, rfl⟩

theorem readsBefore_entries {place : Place} {items : List (Key × Value)}
    (hitems : ∀ entry ∈ items, ∀ {text}, value place entry.2 = .ok text →
      ReadsBefore isEnd text ((Shown.ofValue entry.2).tokens place))
    {texts : List String} (htexts : value.entries place items = .ok texts) :
    List.Forall₂ (ReadsBefore isEnd) texts (Shown.tokens.itemTokens place (Shown.ofValue.ofItems items)) := by
  induction items generalizing texts with
  | nil =>
      cases htexts
      exact List.Forall₂.nil
  | cons entry items ih =>
      obtain ⟨hitem, hitems⟩ := List.forall_mem_cons.mp hitems
      obtain ⟨text, others, htext, hothers, rfl⟩ := entries_cons htexts
      have arrow : Reads " => " [mark "=>"] := reads_ofList rfl
      have hentry := ((readsBefore_key entry.1).append arrow (by decide)).append_before (hitem htext)
      rw [List.append_assoc] at hentry
      exact List.Forall₂.cons hentry (ih (fun entry mem {_} => hitems entry mem) hothers)

theorem readsBefore_value {place : Place} {v : Value} {text : String} (htext : value place v = .ok text) :
    ReadsBefore isEnd text ((Shown.ofValue v).tokens place) := by
  induction v generalizing text with
  | scalar s => exact readsBefore_scalar htext
  | list items ih =>
      obtain ⟨texts, htexts, rfl⟩ := map_eq_ok_iff.mp htext
      have opening : Reads "array(" [word "array", mark "("] := reads_ofList rfl
      have comma : Reads ", " [mark ","] := reads_ofList rfl
      have closing : Reads ")" [mark ")"] := reads_ofList rfl
      have hitems := readsBefore_intercalate comma (by decide)
        (readsBefore_entries (fun entry mem {_} => ih entry mem) htexts)
      have hlist := (opening.append_before hitems).append closing (by decide)
      rw [List.append_assoc] at hlist
      exact hlist.before
  | service id =>
      cases htext
      exact (readsBefore_serviceCall id).imp fun _ => endsName_of_isEnd
  | parameter key =>
      cases htext
      rw [parameterCall_eq_parameterText]
      exact (reads_parameterText key.text).before
  | template segments =>
      cases htext
      have dot : Reads "." [mark "."] := reads_ofList rfl
      have hsegments : List.Forall₂ (ReadsBefore fun _ => true) (segments.map (segment place))
          ((segments.map (·.map ParameterKey.text)).map (segmentTokens place)) := by
        rw [List.map_map, List.forall₂_map_left_iff, List.forall₂_map_right_iff, List.forall₂_same]
        exact fun s _ => (reads_segment place s).before
      exact (readsBefore_intercalate dot (by decide) hsegments).imp fun _ _ => rfl
  | object type => cases htext

/-! ### Names and arguments -/

theorem readsBefore_identifier {name : String} (hname : isIdentifier name = true) :
    ReadsBefore endsName name [word name] :=
  readsBefore_word (isWordName_of_isLabelName (isLabelName_of_isLabel hname))

theorem readsBefore_qualified {name : String} (hname : isQualifiedName name = true) :
    ReadsBefore endsName name [word name] :=
  readsBefore_word (isWordName_of_isQualifiedName hname)

/-- What generating a list of arguments does for the first one. -/
theorem argumentsFrom_cons {id : ServiceId} {named : Bool} {k : Key} {v : Value} {arguments : Arguments}
    {texts : List String} (htexts : argumentsFrom id named ((k, v) :: arguments) = .ok texts) :
    ∃ text others, codeValue v = .ok text ∧ argumentsFrom id k.name?.isSome arguments = .ok others ∧
      (∀ name ∈ k.name?, isIdentifier name = true) ∧
      texts = k.name?.elim text (fun name => name ++ ": " ++ text) :: others := by
  cases k with
  | index n =>
      rw [argumentsFrom] at htexts
      split at htexts
      · cases htexts
      obtain ⟨text, htext, rest⟩ := bind_eq_ok_iff.mp htexts
      obtain ⟨others, hothers, heq⟩ := bind_eq_ok_iff.mp rest
      cases heq
      refine ⟨text, others, htext, hothers, fun name mem => ?_, rfl⟩
      cases mem
  | name name =>
      obtain ⟨_, hname, rest⟩ := bind_eq_ok_iff.mp htexts
      obtain ⟨text, htext, rest⟩ := bind_eq_ok_iff.mp rest
      obtain ⟨others, hothers, heq⟩ := bind_eq_ok_iff.mp rest
      cases heq
      refine ⟨text, others, htext, hothers, fun _ mem => ?_, rfl⟩
      obtain rfl := Option.some.inj mem
      exact checkName_eq_ok_iff.mp hname

theorem readsBefore_argumentsFrom {id : ServiceId} {named : Bool} {arguments : Arguments} {texts : List String}
    (htexts : argumentsFrom id named arguments = .ok texts) :
    List.Forall₂ (ReadsBefore isEnd) texts ((ShownArguments.ofArguments arguments).map argumentTokens) := by
  induction arguments generalizing named texts with
  | nil =>
      cases htexts
      exact List.Forall₂.nil
  | cons argument arguments ih =>
      obtain ⟨k, v⟩ := argument
      obtain ⟨text, others, htext, hothers, hname, rfl⟩ := argumentsFrom_cons htexts
      refine List.Forall₂.cons ?_ (ih hothers)
      cases k with
      | index n => exact readsBefore_value htext
      | name name =>
          have colon : Reads ": " [mark ":"] := reads_ofList rfl
          have hlabel := (readsBefore_identifier (hname name rfl)).append colon (by decide)
          exact hlabel.append_before (readsBefore_value htext)

/-- A call, from its arguments to the end of the statement. -/
theorem reads_call {id : ServiceId} {args : Arguments} {front text : String} {tokens : List Token}
    (hfront : ReadsBefore endsName front tokens) (htext : arguments id args = .ok text) :
    Reads (front ++ "(" ++ text ++ ");\n") (tokens ++ argumentsTokens (.ofArguments args)) := by
  obtain ⟨texts, htexts, rfl⟩ := map_eq_ok_iff.mp htext
  have opening : Reads "(" [mark "("] := reads_ofList rfl
  have comma : Reads ", " [mark ","] := reads_ofList rfl
  have closing : Reads ");\n" [mark ")", mark ";"] := reads_ofList rfl
  have hargs := readsBefore_intercalate comma (by decide) (readsBefore_argumentsFrom htexts)
  have hcall := ((hfront.append opening (by decide)).append_before hargs).append closing (by decide)
  rwa [List.append_assoc, List.append_assoc] at hcall

/-! ### Definitions -/

section Construction

variable {id : ServiceId} {d : Definition} {text : String}

theorem reads_construction_named {name : String} (hclass : d.className = .scalar (.text name))
    (htext : construction id d = .ok text) :
    Reads text (constructionTokens d.factory (.ofValue d.className) ++
      argumentsTokens (.ofArguments d.arguments)) := by
  obtain ⟨args, hargs, rest⟩ := bind_eq_ok_iff.mp htext
  have assign : Reads "    $instance = " [var "instance", mark "="] := reads_ofList rfl
  have assignNew : Reads "    $instance = new " [var "instance", mark "=", word "new"] := reads_ofList rfl
  have scope : Reads "::" [mark "::"] := reads_ofList rfl
  rw [hclass]
  cases hfactory : d.factory with
  | none =>
      simp only [Definition.construction, hfactory, hclass] at rest
      obtain ⟨_, hname, heq⟩ := bind_eq_ok_iff.mp rest
      cases heq
      exact reads_call (assignNew.append_before (readsBefore_qualified (checkName_eq_ok_iff.mp hname))) hargs
  | some factory =>
      simp only [Definition.construction, hfactory, hclass] at rest
      obtain ⟨_, hmethod, rest⟩ := bind_eq_ok_iff.mp rest
      obtain ⟨_, hname, heq⟩ := bind_eq_ok_iff.mp rest
      cases heq
      have hstatic := (assign.append_before (readsBefore_qualified (checkName_eq_ok_iff.mp hname))).append scope
        (by decide)
      exact reads_call (hstatic.append_before (readsBefore_identifier (checkName_eq_ok_iff.mp hmethod))) hargs

theorem constructionTokens_of_text?_eq_none {v : Value} (hclass : v.text? = none) (factory : Option String) :
    constructionTokens factory (.ofValue v) = var "class" :: mark "=" ::
      ((Shown.ofValue v).tokens .code ++ mark ";" :: var "instance" :: mark "=" ::
        factory.elim [word "new", var "class"] fun method => [var "class", mark "::", word method]) := by
  cases v with
  | scalar s =>
      cases s with
      | text s => cases hclass
      | _ => rfl
  | _ => rfl

/-- What generating a construction does for a class that is not named literally. -/
theorem construction_dynamic (hclass : d.className.text? = none) (htext : construction id d = .ok text) :
    ∃ args className, arguments id d.arguments = .ok args ∧ codeValue d.className = .ok className ∧
      (d.factory = none ∧
          text = "    $class = " ++ className ++ ";\n    $instance = new $class(" ++ args ++ ");\n" ∨
        ∃ method, d.factory = some method ∧ isIdentifier method = true ∧
          text = "    $class = " ++ className ++ ";\n    $instance = $class::" ++ method ++ "(" ++ args ++
            ");\n") := by
  obtain ⟨args, hargs, rest⟩ := bind_eq_ok_iff.mp htext
  cases hfactory : d.factory with
  | none =>
      rw [construction_of_factory_eq_none hclass hfactory] at rest
      obtain ⟨className, hclassName, heq⟩ := bind_eq_ok_iff.mp rest
      cases heq
      exact ⟨args, className, hargs, hclassName, .inl ⟨rfl, rfl⟩⟩
  | some method =>
      simp only [Definition.construction, hfactory] at rest
      obtain ⟨_, hmethod, rest⟩ := bind_eq_ok_iff.mp rest
      split at rest
      · rename_i heq
        rw [heq] at hclass
        cases hclass
      obtain ⟨className, hclassName, heq⟩ := bind_eq_ok_iff.mp rest
      cases heq
      exact ⟨args, className, hargs, hclassName, .inr ⟨method, rfl, checkName_eq_ok_iff.mp hmethod, rfl⟩⟩

theorem reads_construction_dynamic (hclass : d.className.text? = none) (htext : construction id d = .ok text) :
    Reads text (constructionTokens d.factory (.ofValue d.className) ++
      argumentsTokens (.ofArguments d.arguments)) := by
  have assignClass : Reads "    $class = " [var "class", mark "="] := reads_ofList rfl
  rw [constructionTokens_of_text?_eq_none hclass]
  obtain ⟨args, className, hargs, hclassName, hbuilt⟩ := construction_dynamic hclass htext
  obtain ⟨hfactory, rfl⟩ | ⟨method, hfactory, hmethod, rfl⟩ := hbuilt
  · have ofClass : ReadsBefore endsName ";\n    $instance = new $class"
        ([mark ";", var "instance", mark "=", word "new"] ++ [var "class"]) :=
      readsBefore_of_var rfl rfl
    have hnew := (assignClass.append_before (readsBefore_value hclassName)).append_before ofClass (by decide)
    rw [hfactory]
    simpa [String.append_assoc] using reads_call hnew hargs
  · have ofClass : Reads ";\n    $instance = $class::"
        [mark ";", var "instance", mark "=", var "class", mark "::"] := reads_ofList rfl
    have hstatic := ((assignClass.append_before (readsBefore_value hclassName)).append ofClass
      (by decide)).append_before (readsBefore_identifier hmethod)
    rw [hfactory]
    simpa [String.append_assoc] using reads_call hstatic hargs

theorem reads_construction (htext : construction id d = .ok text) :
    Reads text (constructionTokens d.factory (.ofValue d.className) ++
      argumentsTokens (.ofArguments d.arguments)) := by
  cases hclass : d.className.text? with
  | some name => exact reads_construction_named (text?_eq_some_iff.mp hclass) htext
  | none => exact reads_construction_dynamic hclass htext

end Construction

theorem reads_methodCall {id : ServiceId} {c : MethodCall} {text : String} (htext : call id c = .ok text) :
    Reads text (ShownCall.ofCall c).tokens := by
  obtain ⟨_, hmethod, rest⟩ := bind_eq_ok_iff.mp htext
  obtain ⟨args, hargs, heq⟩ := bind_eq_ok_iff.mp rest
  cases heq
  have instanceArrow : Reads "    $instance->" [var "instance", mark "->"] := reads_ofList rfl
  exact reads_call (instanceArrow.append_before (readsBefore_identifier (checkName_eq_ok_iff.mp hmethod))) hargs

theorem reads_configurator {id : ServiceId} {c : Configurator} {text : String}
    (htext : configurator id c = .ok text) : Reads text (ShownConfigurator.ofConfigurator c).tokens := by
  have indent : Reads "    " [] := reads_ofList rfl
  have handOver : Reads "($instance);\n" handOverTokens := reads_ofList rfl
  cases c with
  | function name =>
      obtain ⟨_, hname, heq⟩ := bind_eq_ok_iff.mp htext
      cases heq
      exact (indent.append_before (readsBefore_qualified (checkName_eq_ok_iff.mp hname))).append handOver (by decide)
  | serviceMethod service method =>
      obtain ⟨_, hmethod, heq⟩ := bind_eq_ok_iff.mp htext
      cases heq
      have arrow : Reads "->" [mark "->"] := reads_ofList rfl
      have hservice := (indent.append_before (readsBefore_serviceCall service)).append arrow (by decide)
      have hcall := (hservice.append_before (readsBefore_identifier (checkName_eq_ok_iff.mp hmethod))).append
        handOver (by decide)
      simpa [ShownConfigurator.ofConfigurator, ShownConfigurator.tokens] using hcall
  | classMethod name method =>
      obtain ⟨_, hname, rest⟩ := bind_eq_ok_iff.mp htext
      obtain ⟨_, hmethod, heq⟩ := bind_eq_ok_iff.mp rest
      cases heq
      have scope : Reads "::" [mark "::"] := reads_ofList rfl
      have hclass := (indent.append_before (readsBefore_qualified (checkName_eq_ok_iff.mp hname))).append scope
        (by decide)
      exact (hclass.append_before (readsBefore_identifier (checkName_eq_ok_iff.mp hmethod))).append handOver
        (by decide)
  | staticMethod target method =>
      obtain ⟨targetText, htarget, heq⟩ := bind_eq_ok_iff.mp htext
      cases heq
      have opening : Reads "    call_user_func(array("
          [word "call_user_func", mark "(", word "array", mark "("] := reads_ofList rfl
      have comma : Reads ", " [mark ","] := reads_ofList rfl
      have closing : Reads "), $instance);\n" [mark ")", mark ",", var "instance", mark ")", mark ";"] :=
        reads_ofList rfl
      have hcall := (((opening.append_before (readsBefore_value htarget)).append comma (by decide)).append
        (reads_quote method)).append closing
      simpa [ShownConfigurator.ofConfigurator, ShownConfigurator.tokens] using hcall

theorem reads_file {d : Definition} {file : Option String} (hfile : d.file.mapM codeValue = .ok file) :
    Reads (file.elim "" fun text => "    require_once " ++ text ++ ";\n\n")
      ((d.file.map Shown.ofValue).elim [] fileTokens) := by
  cases hv : d.file with
  | none =>
      rw [hv] at hfile
      cases hfile
      exact reads_empty
  | some v =>
      rw [hv, Option.mapM_some] at hfile
      obtain ⟨text, htext, rfl⟩ := map_eq_ok_iff.mp hfile
      have opening : Reads "    require_once " [word "require_once"] := reads_ofList rfl
      have closing : Reads ";\n\n" [mark ";"] := reads_ofList rfl
      exact (opening.append_before (readsBefore_value htext)).append closing (by decide)

theorem reads_calls {id : ServiceId} {calls : List MethodCall} {texts : List String}
    (htexts : calls.mapM (call id) = .ok texts) :
    Reads (String.join texts) ((calls.map ShownCall.ofCall).flatMap ShownCall.tokens) := by
  rw [List.flatMap_map, List.flatMap]
  refine reads_join ?_
  rw [List.forall₂_map_right_iff]
  exact (mapM_eq_ok_iff.mp htexts).flip.imp fun _ _ htext => reads_methodCall htext

theorem reads_configured {id : ServiceId} {c : Option Configurator} {configured : Option String}
    (hconfigured : c.mapM (configurator id) = .ok configured) :
    Reads (configured.getD "")
      ((c.map ShownConfigurator.ofConfigurator).elim [] ShownConfigurator.tokens) := by
  cases c with
  | none =>
      cases hconfigured
      exact reads_empty
  | some c =>
      rw [Option.mapM_some] at hconfigured
      obtain ⟨text, htext, rfl⟩ := map_eq_ok_iff.mp hconfigured
      exact reads_configurator htext

theorem reads_store (id : ServiceId) (shared : Bool) :
    Reads (if shared then "    $this->setService(" ++ quote id ++ ", $instance);\n" else "")
      (if shared then storeTokens id else []) := by
  cases shared with
  | false => exact reads_empty
  | true =>
      have opening : Reads "    $this->setService(" [var "this", mark "->", word "setService", mark "("] :=
        reads_ofList rfl
      have closing : Reads ", $instance);\n" [mark ",", var "instance", mark ")", mark ";"] := reads_ofList rfl
      exact (opening.append (reads_quote id)).append closing

theorem reads_definitionBody {id : ServiceId} {d : Definition} {text : String}
    (htext : definitionBody id d = .ok text) : Reads text ((ShownDefinition.ofDefinition d).tokens id) := by
  obtain ⟨file, hfile, rest⟩ := bind_eq_ok_iff.mp htext
  obtain ⟨built, hbuilt, rest⟩ := bind_eq_ok_iff.mp rest
  obtain ⟨calls, hcalls, rest⟩ := bind_eq_ok_iff.mp rest
  obtain ⟨configured, hconfigured, heq⟩ := bind_eq_ok_iff.mp rest
  cases heq
  have ending : Reads "\n    return $instance;\n" [word "return", var "instance", mark ";"] := reads_ofList rfl
  have hbody := (((((reads_file hfile).append (reads_construction hbuilt)).append (reads_calls hcalls)).append
    (reads_configured hconfigured)).append (reads_store id d.shared)).append ending
  simp only [List.append_assoc] at hbody
  exact hbody

/-! ### Classes -/

theorem isNameChar_of_mem_camelizeFrom {start : Bool} {cs : List Char} {c : Char}
    (mem : c ∈ camelizeFrom start cs) : isNameChar c = true := by
  induction cs generalizing start with
  | nil => cases mem
  | cons d cs ih =>
      unfold camelizeFrom at mem
      split at mem
      · rcases List.mem_cons.mp mem with rfl | mem
        · rfl
        · exact ih mem
      · split at mem
        · rename_i alphanumeric
          rcases List.mem_append.mp mem with mem | mem
          · refine isNameChar_of_isWord ?_
            cases start with
            | false =>
                obtain rfl := List.mem_singleton.mp mem
                exact Text.isWord_of_isAlphanumeric alphanumeric
            | true => exact Text.isWord_of_mem_uppercaseChar alphanumeric mem
          · exact ih mem
        · exact ih mem

theorem isLabelName_accessorName (id : ServiceId) : isLabelName (accessorName id).toList = true := by
  have hcamelize : (camelize id).toList = camelizeFrom true id.toList := String.toList_ofList
  have chars : (accessorName id).toList = 'g' :: 'e' :: 't' :: (camelizeFrom true id.toList ++ "Service".toList) := by
    rw [accessorName, String.toList_append, String.toList_append, hcamelize, List.append_assoc]
    rfl
  rw [chars, isLabelName_cons]
  refine ⟨by decide, ?_⟩
  simp only [List.forall_mem_cons, List.forall_mem_append]
  exact ⟨by decide, by decide, fun c => isNameChar_of_mem_camelizeFrom, List.all_eq_true.mp (by decide)⟩

theorem reads_method {visibility name parameters body : String} {parameterTokens tokens : List Token}
    (hvisibility : isWordName visibility.toList = true) (hname : isWordName name.toList = true)
    (hparameters : ReadsBefore isEnd parameters parameterTokens) (hbody : Reads body tokens) :
    Reads (method visibility name parameters body) (methodTokens visibility name parameterTokens tokens) := by
  have indent : Reads "\n  " [] := reads_ofList rfl
  have function : Reads " function " [word "function"] := reads_ofList rfl
  have opening : Reads "(" [mark "("] := reads_ofList rfl
  have middle : Reads ")\n  \x7b\n" [mark ")", mark "\x7b"] := reads_ofList rfl
  have closing : Reads "  \x7d\n" [mark "\x7d"] := reads_ofList rfl
  have hnamed := (((indent.append_before (readsBefore_word hvisibility)).append function (by decide)).append_before
    (readsBefore_word hname)).append opening (by decide)
  have hmethod := (((hnamed.append_before hparameters).append middle (by decide)).append hbody).append closing
  simpa [method, methodTokens] using hmethod

theorem reads_constructor : Reads constructor constructorTokens :=
  reads_method (by decide) (by decide) reads_empty.before (reads_ofList rfl)

theorem reads_id : ReadsBefore isEnd "$id" [var "id"] := by
  have id : ReadsBefore endsName "$id" ([] ++ [var "id"]) := readsBefore_of_var rfl rfl
  exact id.imp fun _ => endsName_of_isEnd

theorem reads_getService :
    Reads ("    if (isset(self::$serviceMethods[$id]) && !parent::hasService($id)) \x7b\n" ++
      "      return $this->\x7bself::$serviceMethods[$id]\x7d();\n" ++ "    \x7d\n\n" ++
      "    return parent::getService($id);\n") getServiceTokens := by
  have condition : Reads "    if (isset(self::$serviceMethods[$id]) && !parent::hasService($id)) \x7b\n"
      (word "if" :: mark "(" :: word "isset" :: mark "(" ::
        (elementTokens ++ mark ")" :: mark "&&" :: mark "!" ::
          (parentCallTokens "hasService" [var "id"] ++ [mark ")", mark "\x7b"]))) := reads_ofList rfl
  have found : Reads "      return $this->\x7bself::$serviceMethods[$id]\x7d();\n"
      (word "return" :: var "this" :: mark "->" :: mark "\x7b" ::
        (elementTokens ++ [mark "\x7d", mark "(", mark ")", mark ";"])) := reads_ofList rfl
  have close : Reads "    \x7d\n\n" [mark "\x7d"] := reads_ofList rfl
  have other : Reads "    return parent::getService($id);\n"
      (word "return" :: (parentCallTokens "getService" [var "id"] ++ [mark ";"])) := reads_ofList rfl
  have hbody := ((condition.append found).append close).append other
  rw [List.append_assoc, List.append_assoc] at hbody
  exact hbody

theorem reads_getServiceIds :
    Reads ("    return array_values(array_unique(array_merge(array_keys(self::$serviceMethods), " ++
      "parent::getServiceIds())));\n") getServiceIdsTokens := by
  have own : Reads "    return array_values(array_unique(array_merge(array_keys(self::$serviceMethods), "
      [word "return", word "array_values", mark "(", word "array_unique", mark "(", word "array_merge",
        mark "(", word "array_keys", mark "(", word "self", mark "::", var "serviceMethods", mark ")",
        mark ","] :=
    reads_ofList (by decide +kernel)
  have inherited : Reads "parent::getServiceIds())));\n"
      (parentCallTokens "getServiceIds" [] ++ [mark ")", mark ")", mark ")", mark ";"]) := reads_ofList rfl
  exact own.append inherited

theorem reads_lookupOverrides : Reads lookupOverrides lookupTokens := by
  have hasService : Reads "    return isset(self::$serviceMethods[$id]) || parent::hasService($id);\n"
      hasServiceTokens := reads_ofList rfl
  have first : Reads (method "public" "hasService" "$id" _) _ := reads_method (by decide) (by decide)
    reads_id hasService
  have second : Reads (method "public" "getService" "$id" _) _ := reads_method (by decide)
    (by decide) reads_id reads_getService
  have third : Reads (method "public" "getServiceIds" "" _) _ := reads_method (by decide)
    (by decide) reads_empty.before reads_getServiceIds
  have hmethods := (first.append second).append third
  rw [List.append_assoc] at hmethods
  exact hmethods

theorem reads_accessor {id : ServiceId} {entry : Entry} {text : String}
    (htext : accessor id (accessorName id) entry = .ok text) :
    Reads text (Contents.accessorTokens (id, .ofEntry entry)) := by
  have hname := isWordName_of_isLabelName (isLabelName_accessorName id)
  match entry, htext with
  | .definition d, htext =>
      obtain ⟨body, hbody, rfl⟩ := map_eq_ok_iff.mp htext
      exact reads_method (by decide) hname reads_empty.before (reads_definitionBody hbody)
  | .alias target, htext =>
      cases htext
      have opening : Reads "    return " [word "return"] := reads_ofList rfl
      have closing : Reads ";\n" [mark ";"] := reads_ofList rfl
      exact reads_method (by decide) hname reads_empty.before
        ((opening.append_before (readsBefore_serviceCall target)).append closing (by decide))

theorem quote_of_isLabelName {s : String} (label : isLabelName s.toList = true) : quote s = "'" ++ s ++ "'" := by
  have plain : (s.toList.flatMap fun c => if c = '\\' ∨ c = '\'' then ['\\', c] else [c]) =
      s.toList.flatMap fun c => [c] := by
    refine List.flatMap_congr fun c mem => ?_
    have unescaped : ¬ (c = '\\' ∨ c = '\'') := by
      have hc := isNameChar_of_isLabelName label c mem
      rintro (rfl | rfl) <;> exact absurd hc (by decide)
    rw [if_neg unescaped]
  rw [quote, plain, List.flatMap_singleton', String.ofList_toList]

theorem reads_row (id : ServiceId) :
    Reads ("    " ++ quote id ++ " => '" ++ accessorName id ++ "',\n") (rowTokens (id, accessorName id)) := by
  have indent : Reads "    " [] := reads_ofList rfl
  have arrow : Reads " => " [mark "=>"] := reads_ofList rfl
  have comma : Reads ",\n" [mark ","] := reads_ofList rfl
  have hquoted := (((indent.append (reads_quote id)).append arrow).append (reads_quote (accessorName id))).append
    comma
  have htext : "    " ++ quote id ++ " => '" ++ accessorName id ++ "',\n" =
      "    " ++ quote id ++ " => " ++ ("'" ++ accessorName id ++ "'") ++ ",\n" := by
    rw [show " => '" = " => " ++ "'" from rfl, show "',\n" = "'" ++ ",\n" from rfl]
    simp only [String.append_assoc]
  rw [htext, ← quote_of_isLabelName (isLabelName_accessorName id)]
  exact hquoted

theorem reads_accessorTable (ids : List ServiceId) :
    Reads (accessorTable (ids.map fun id => (id, accessorName id)))
      (tableTokens (ids.map fun id => (id, accessorName id))) := by
  have opening : Reads "  protected static $serviceMethods = array(\n"
      [word "protected", word "static", var "serviceMethods", mark "=", word "array", mark "("] :=
    reads_ofList rfl
  have closing : Reads "  );\n" [mark ")", mark ";"] := reads_ofList rfl
  have htable := (opening.append (reads_join_map fun id (_ : id ∈ ids) => reads_row id)).append closing
  rw [List.append_assoc] at htable
  unfold accessorTable tableTokens
  rw [List.map_map, List.flatMap_map]
  exact htable

theorem reads_defaultParameters {parameters : List (ParameterKey × Value)} {text : String}
    (htext : defaultParameters parameters = .ok text) :
    Reads text (defaultsTokens (parameters.map fun (key, v) => (key.text, .ofValue v))) := by
  obtain ⟨lines, hlines, heq⟩ := bind_eq_ok_iff.mp htext
  cases heq
  have opening : Reads "    return array(\n" [word "return", word "array", mark "("] := reads_ofList rfl
  have indent : Reads "      " [] := reads_ofList rfl
  have arrow : Reads " => " [mark "=>"] := reads_ofList rfl
  have comma : Reads ",\n" [mark ","] := reads_ofList rfl
  have closing : Reads "    );\n" [mark ")", mark ";"] := reads_ofList rfl
  have hparameters : List.Forall₂ Reads lines
      ((parameters.map fun (key, v) => (key.text, Shown.ofValue v)).map defaultTokens) := by
    rw [List.map_map, List.forall₂_map_right_iff]
    refine (mapM_eq_ok_iff.mp hlines).flip.imp fun line parameter hline => ?_
    obtain ⟨v, hv, heq⟩ := bind_eq_ok_iff.mp hline
    cases heq
    exact (((indent.append (reads_quote parameter.1.text)).append arrow).append_before
      (readsBefore_value hv)).append comma (by decide)
  have hbody := (opening.append (reads_join hparameters)).append closing
  rw [List.append_assoc] at hbody
  exact reads_method (by decide) (by decide) reads_empty.before hbody

theorem reads_header {names : ClassNames} {head : String} (hhead : header names = .ok head) :
    ∃ text, head = "<?php\n" ++ text ∧
      Reads text [word "class", word names.name, word "extends", word names.base, mark "\x7b"] := by
  unfold header at hhead
  split at hhead
  · cases hhead
  split at hhead
  · cases hhead
  rename_i hname hbase
  rw [Bool.not_eq_true', Bool.not_eq_false] at hname hbase
  cases hhead
  have opening : Reads "\nclass " [word "class"] := reads_ofList rfl
  have middle : Reads " extends " [word "extends"] := reads_ofList rfl
  have closing : Reads "\n\x7b\n" [mark "\x7b"] := reads_ofList rfl
  refine ⟨"\nclass " ++ names.name ++ " extends " ++ names.base ++ "\n\x7b\n", ?_, ?_⟩
  · rw [show "<?php\n\nclass " = "<?php\n" ++ "\nclass " from rfl]
    simp only [String.append_assoc]
  · exact (((opening.append_before (readsBefore_qualified hname)).append middle (by decide)).append_before
      (readsBefore_qualified hbase)).append closing (by decide)

theorem tokens?_of_reads {text : String} {tokens : List Token} (htext : Reads text tokens) :
    tokens? ("<?php\n" ++ text) = some tokens := by
  unfold Reads at htext
  rw [tokens?, String.toList_append, if_pos (by rw [List.isPrefixOf_iff_prefix]; exact List.prefix_append _ _),
    List.drop_left, htext]
  rfl

theorem reads_accessors {entries : List (ServiceId × Entry)} {texts : List String}
    (htexts : List.Forall₂ (fun entry text => accessor entry.1 (accessorName entry.1) entry.2 = .ok text)
      entries texts) :
    Reads (String.join texts) ((entries.map fun (id, entry) => (id, .ofEntry entry)).flatMap
      Contents.accessorTokens) := by
  rw [List.flatMap_map, List.flatMap]
  refine reads_join ?_
  rw [List.forall₂_map_right_iff]
  exact htexts.flip.imp fun _ _ htext => reads_accessor htext

/-- What generating a class does. -/
theorem containerClass_parts {names : ClassNames} {c : Container} {text : String}
    (htext : containerClass names c = .ok text) :
    ∃ head methods defaults, header names = .ok head ∧
      List.Forall₂ (fun entry text => accessor entry.1 (accessorName entry.1) entry.2 = .ok text)
        c.entries.toList methods ∧
      (if c.parameters.toList.isEmpty then .ok "" else defaultParameters c.parameters.toList) = .ok defaults ∧
      text = head ++ accessorTable (c.ids.map fun id => (id, accessorName id)) ++
        (if c.parameters.toList.isEmpty then "" else constructor) ++ lookupOverrides ++ String.join methods ++
        defaults ++ "\x7d\n" := by
  obtain ⟨table, htable, rest⟩ := bind_eq_ok_iff.mp htext
  obtain ⟨_, -, rest⟩ := bind_eq_ok_iff.mp rest
  obtain ⟨head, hhead, rest⟩ := bind_eq_ok_iff.mp rest
  obtain ⟨methods, hmethods, rest⟩ := bind_eq_ok_iff.mp rest
  obtain ⟨-, -, rfl⟩ := Container.accessors_eq_ok_iff.mp htable
  rw [rows_eq_map_entries, ← List.map_prod_left_eq_zip, mapM_eq_ok_iff, List.forall₂_map_left_iff] at hmethods
  refine ⟨head, methods, ?_⟩
  split at rest
  all_goals
    rename_i hempty
    obtain ⟨defaults, hdefaults, heq⟩ := bind_eq_ok_iff.mp rest
    cases heq
    simp only [hempty]
    exact ⟨defaults, hhead, hmethods, hdefaults, rfl⟩

theorem table_ofContainer (names : ClassNames) (c : Container) :
    (Contents.ofContainer names c).table = c.ids.map fun id => (id, accessorName id) := by
  rw [rows_eq_map_entries, Contents.table, Contents.ofContainer, List.map_map]
  rfl

/-- The whole text of a generated class is read, as the tokens of what the container holds. -/
theorem tokens?_containerClass {names : ClassNames} {c : Container} {text : String}
    (htext : containerClass names c = .ok text) : tokens? text = some (Contents.ofContainer names c).tokens := by
  obtain ⟨head, methods, defaults, hhead, hmethods, hdefaults, rfl⟩ := containerClass_parts htext
  obtain ⟨opening, rfl, hopening⟩ := reads_header hhead
  have hempty : (Contents.ofContainer names c).parameters.isEmpty = c.parameters.toList.isEmpty := by
    rw [Contents.ofContainer, List.isEmpty_map]
  have hnames : (Contents.ofContainer names c).names = names := rfl
  have closing : Reads "\x7d\n" [mark "\x7d"] := reads_ofList rfl
  have haccessors : Reads (String.join methods)
      ((Contents.ofContainer names c).entries.flatMap Contents.accessorTokens) := reads_accessors hmethods
  have hconstructor : Reads (if c.parameters.toList.isEmpty then "" else constructor)
      (if c.parameters.toList.isEmpty then [] else constructorTokens) := by
    split
    · exact reads_empty
    · exact reads_constructor
  have hparameters : Reads defaults (if c.parameters.toList.isEmpty then []
      else defaultsTokens (Contents.ofContainer names c).parameters) := by
    split at hdefaults
    · rename_i hnone
      cases hdefaults
      rw [if_pos hnone]
      exact reads_empty
    · rename_i hsome
      rw [if_neg hsome]
      exact reads_defaultParameters hdefaults
  have hclass := tokens?_of_reads ((((((hopening.append (reads_accessorTable c.ids)).append hconstructor).append
    reads_lookupOverrides).append haccessors).append hparameters).append closing)
  rw [Contents.tokens, table_ofContainer, hempty, hnames]
  simpa [String.append_assoc] using hclass

end ServiceContainer.Php

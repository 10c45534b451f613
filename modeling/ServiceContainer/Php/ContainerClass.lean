import ServiceContainer.Accessor
import ServiceContainer.Php.Expression

/-!
The generated PHP class: a table of accessors, overrides that look services up in it, one accessor for each
id, and the default parameters.
-/

namespace ServiceContainer.Php

structure ClassNames where
  name : String := "ProjectServiceContainer"
  base : String := "Container"
  deriving DecidableEq, Repr

def method (visibility name parameters body : String) : String :=
  "\n  " ++ visibility ++ " function " ++ name ++ "(" ++ parameters ++ ")\n  \x7b\n" ++ body ++ "  \x7d\n"

def header (names : ClassNames) : Except Failure String :=
  if !isQualifiedName names.name then .error (.invalid (.invalidClassName names.name))
  else if !isQualifiedName names.base then .error (.invalid (.invalidBaseClass names.base))
  else .ok ("<?php\n\nclass " ++ names.name ++ " extends " ++ names.base ++ "\n\x7b\n")

def accessorTable (accessors : List (ServiceId × String)) : String :=
  "  protected static $serviceMethods = array(\n" ++
    String.join (accessors.map fun (id, accessor) => "    " ++ quote id ++ " => '" ++ accessor ++ "',\n") ++
    "  );\n"

def constructor : String :=
  method "public" "__construct" "" "    parent::__construct($this->getDefaultParameters());\n"

/-- A service that the base container already holds is taken from there. -/
def lookupOverrides : String :=
  method "public" "hasService" "$id"
      "    return isset(self::$serviceMethods[$id]) || parent::hasService($id);\n" ++
    method "public" "getService" "$id"
      ("    if (isset(self::$serviceMethods[$id]) && !parent::hasService($id)) \x7b\n" ++
        "      return $this->\x7bself::$serviceMethods[$id]\x7d();\n" ++
        "    \x7d\n\n" ++
        "    return parent::getService($id);\n") ++
    method "public" "getServiceIds" ""
      ("    return array_values(array_unique(array_merge(array_keys(self::$serviceMethods), " ++
        "parent::getServiceIds())));\n")

def construction (id : ServiceId) (d : Definition) : Except Failure String := do
  let arguments ← arguments id d.arguments
  match d.construction with
  | .new name =>
    checkName id .className isQualifiedName name
    return "    $instance = new " ++ name ++ "(" ++ arguments ++ ");\n"
  | .newDynamic className =>
    return "    $class = " ++ (← codeValue className) ++ ";\n    $instance = new $class(" ++ arguments ++ ");\n"
  | .factory className factory =>
    checkName id .constructor isIdentifier factory
    match className with
    | .scalar (.text name) =>
      checkName id .className isQualifiedName name
      return "    $instance = " ++ name ++ "::" ++ factory ++ "(" ++ arguments ++ ");\n"
    | className =>
      return "    $class = " ++ (← codeValue className) ++ ";\n    $instance = $class::" ++ factory ++ "(" ++
        arguments ++ ");\n"

def call (id : ServiceId) (call : MethodCall) : Except Failure String := do
  checkName id .method isIdentifier call.method
  return "    $instance->" ++ call.method ++ "(" ++ (← arguments id call.arguments) ++ ");\n"

def configurator (id : ServiceId) : Configurator → Except Failure String
  | .function name => do
    checkName id .configurator isQualifiedName name
    return "    " ++ name ++ "($instance);\n"
  | .serviceMethod service method => do
    checkName id .configuratorMethod isIdentifier method
    return "    " ++ serviceCall service ++ "->" ++ method ++ "($instance);\n"
  | .classMethod name method => do
    checkName id .configuratorClass isQualifiedName name
    checkName id .configuratorMethod isIdentifier method
    return "    " ++ name ++ "::" ++ method ++ "($instance);\n"
  | .staticMethod target method => do
    return "    call_user_func(array(" ++ (← codeValue target) ++ ", " ++ quote method ++ "), $instance);\n"

/-- The body of an accessor. A shared instance is stored once it is ready for use. -/
def definitionBody (id : ServiceId) (d : Definition) : Except Failure String := do
  let file ← d.file.mapM codeValue
  let built ← construction id d
  let calls ← d.calls.mapM (call id)
  let configured ← d.configurator.mapM (configurator id)
  return (file.elim "" fun text => "    require_once " ++ text ++ ";\n\n") ++ built ++ String.join calls ++
    configured.getD "" ++
    (if d.shared then "    $this->setService(" ++ quote id ++ ", $instance);\n" else "") ++
    "\n    return $instance;\n"

def accessor (id : ServiceId) (name : String) : Entry → Except Failure String
  | .definition d => (definitionBody id d).map (method "protected" name "")
  | .alias target => .ok (method "protected" name "" ("    return " ++ serviceCall target ++ ";\n"))

def defaultParameters (parameters : List (ParameterKey × Value)) : Except Failure String := do
  let lines ← parameters.mapM fun (key, v) => do
    return "      " ++ quote key.text ++ " => " ++ (← value .parameters v) ++ ",\n"
  return method "protected" "getDefaultParameters" "" ("    return array(\n" ++ String.join lines ++ "    );\n")

def containerClass (names : ClassNames) (c : Container) : Except Failure String := do
  let accessors ← c.accessors
  c.checkAliases
  let header ← header names
  let parameters := c.parameters.toList
  let methods ← (c.entries.toList.zip accessors).mapM fun ((id, entry), (_, name)) => accessor id name entry
  let defaults ← if parameters.isEmpty then .ok "" else defaultParameters parameters
  return header ++ accessorTable accessors ++ (if parameters.isEmpty then "" else constructor) ++
    lookupOverrides ++ String.join methods ++ defaults ++ "\x7d\n"

end ServiceContainer.Php

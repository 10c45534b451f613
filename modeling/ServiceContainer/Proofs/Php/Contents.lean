import ServiceContainer.Proofs.Php.Expression
import ServiceContainer.Proofs.Php.Numeral

/-!
# What a generated class holds

The contents of a generated class are those of its container, with floats as the texts that reports show and
without the indices of positional arguments. They are written as tokens, from which the class can be read.
-/

namespace ServiceContainer.Php

/-! ### Contents -/

inductive Literal where
  | null
  | bool (b : Bool)
  | int (n : Int64)
  | float (text : String)
  | text (s : String)
  deriving DecidableEq, Repr

def Literal.ofScalar : Scalar → Literal
  | .null => .null
  | .bool b => .bool b
  | .int n => .int n
  | .float x => .float (FloatFormat.report.text x)
  | .text s => .text s

/-- A value as generated code shows it. -/
inductive Shown where
  | literal (l : Literal)
  | list (items : List (Key × Shown))
  | service (id : ServiceId)
  | parameter (name : String)
  | template (segments : List (Segment String))
  | object (type : String)

def Shown.ofValue : Value → Shown
  | .scalar s => .literal (.ofScalar s)
  | .list items => .list (ofItems items)
  | .service id => .service id
  | .parameter key => .parameter key.text
  | .template segments => .template (segments.map (·.map ParameterKey.text))
  | .object type => .object type
where
  ofItems : List (Key × Value) → List (Key × Shown)
    | [] => []
    | (k, item) :: items => (k, ofValue item) :: ofItems items

/-- Arguments of a call; positional ones have no name. -/
abbrev ShownArguments := List (Option String × Shown)

def ShownArguments.ofArguments (arguments : Arguments) : ShownArguments :=
  arguments.map fun (k, v) => (k.name?, .ofValue v)

structure ShownCall where
  method : String
  arguments : ShownArguments

def ShownCall.ofCall (call : MethodCall) : ShownCall := ⟨call.method, .ofArguments call.arguments⟩

inductive ShownConfigurator where
  | function (name : String)
  | serviceMethod (service : ServiceId) (method : String)
  | classMethod (name : String) (method : String)
  | staticMethod (target : Shown) (method : String)

def ShownConfigurator.ofConfigurator : Configurator → ShownConfigurator
  | .function name => .function name
  | .serviceMethod service method => .serviceMethod service method
  | .classMethod name method => .classMethod name method
  | .staticMethod target method => .staticMethod (.ofValue target) method

structure ShownDefinition where
  className : Shown
  shared : Bool
  factory : Option String
  file : Option Shown
  arguments : ShownArguments
  configurator : Option ShownConfigurator
  calls : List ShownCall

def ShownDefinition.ofDefinition (d : Definition) : ShownDefinition where
  className := .ofValue d.className
  shared := d.shared
  factory := d.factory
  file := d.file.map .ofValue
  arguments := .ofArguments d.arguments
  configurator := d.configurator.map .ofConfigurator
  calls := d.calls.map .ofCall

inductive ShownEntry where
  | definition (d : ShownDefinition)
  | alias (target : ServiceId)

def ShownEntry.ofEntry : Entry → ShownEntry
  | .definition d => .definition (.ofDefinition d)
  | .alias target => .alias target

structure Contents where
  names : ClassNames
  entries : List (ServiceId × ShownEntry)
  parameters : List (String × Shown)

def Contents.ofContainer (names : ClassNames) (c : Container) : Contents where
  names := names
  entries := c.entries.toList.map fun (id, entry) => (id, .ofEntry entry)
  parameters := c.parameters.toList.map fun (key, v) => (key.text, .ofValue v)

/-! ### Tokens -/

open Token (word var mark)

def serviceTokens (id : ServiceId) : List Token :=
  if id = containerId then [var "this"]
  else [var "this", mark "->", word "getService", mark "(", .quoted id, mark ")"]

def parameterTokens (name : String) : List Token :=
  [var "this", mark "->", word "getParameter", mark "(", .quoted name, mark ")"]

def keyTokens : Key → List Token
  | .index n => Lexer.intTokens n.toInt
  | .name s => [.quoted s]

section Place

variable (place : Place)

def Literal.tokens : Literal → List Token
  | .null => [word "null"]
  | .bool b => [word (if b then "true" else "false")]
  | .int n => if n = Int64.minValue then [word "PHP_INT_MIN"] else Lexer.intTokens n.toInt
  | .float s => Lexer.floatTokens s
  | .text s => [.quoted (placed place s)]

def segmentTokens : Segment String → List Token
  | .literal s => [.quoted (placed place s)]
  | .parameter name => parameterTokens name

def Shown.tokens : Shown → List Token
  | .literal l => l.tokens place
  | .list items => word "array" :: mark "(" :: (List.intercalate [mark ","] (itemTokens items) ++ [mark ")"])
  | .service id => serviceTokens id
  | .parameter name => parameterTokens name
  | .template segments => List.intercalate [mark "."] (segments.map (segmentTokens place))
  | .object _ => []
where
  itemTokens : List (Key × Shown) → List (List Token)
    | [] => []
    | (k, item) :: items => (keyTokens k ++ mark "=>" :: item.tokens) :: itemTokens items

end Place

def argumentTokens : Option String × Shown → List Token
  | (none, v) => v.tokens .code
  | (some name, v) => word name :: mark ":" :: v.tokens .code

/-- The arguments of a call and the end of the statement. -/
def argumentsTokens (arguments : ShownArguments) : List Token :=
  mark "(" :: (List.intercalate [mark ","] (arguments.map argumentTokens) ++ [mark ")", mark ";"])

/-- How a statement that hands over the instance ends. -/
def handOverTokens : List Token := [mark "(", var "instance", mark ")", mark ";"]

def constructionTokens (factory : Option String) : Shown → List Token
  | .literal (.text name) =>
    var "instance" :: mark "=" ::
      factory.elim [word "new", word name] fun method => [word name, mark "::", word method]
  | className =>
    var "class" :: mark "=" ::
      (className.tokens .code ++ mark ";" :: var "instance" :: mark "=" ::
        factory.elim [word "new", var "class"] fun method => [var "class", mark "::", word method])

def ShownCall.tokens (call : ShownCall) : List Token :=
  var "instance" :: mark "->" :: word call.method :: argumentsTokens call.arguments

def ShownConfigurator.tokens : ShownConfigurator → List Token
  | .function name => word name :: handOverTokens
  | .serviceMethod service method => serviceTokens service ++ mark "->" :: word method :: handOverTokens
  | .classMethod name method => word name :: mark "::" :: word method :: handOverTokens
  | .staticMethod target method =>
    word "call_user_func" :: mark "(" :: word "array" :: mark "(" ::
      (target.tokens .code ++ [mark ",", .quoted method, mark ")", mark ",", var "instance", mark ")", mark ";"])

def storeTokens (id : ServiceId) : List Token :=
  [var "this", mark "->", word "setService", mark "(", .quoted id, mark ",", var "instance", mark ")", mark ";"]

/-- What comes behind the configurator: a shared instance is stored, and the instance is handed out. -/
def endTokens (id : ServiceId) (shared : Bool) : List Token :=
  (if shared then storeTokens id else []) ++ [word "return", var "instance", mark ";"]

def fileTokens (file : Shown) : List Token := word "require_once" :: (file.tokens .code ++ [mark ";"])

def ShownDefinition.tokens (id : ServiceId) (d : ShownDefinition) : List Token :=
  d.file.elim [] fileTokens ++
    (constructionTokens d.factory d.className ++
      (argumentsTokens d.arguments ++
        (d.calls.flatMap ShownCall.tokens ++
          (d.configurator.elim [] ShownConfigurator.tokens ++ endTokens id d.shared))))

def ShownEntry.tokens (id : ServiceId) : ShownEntry → List Token
  | .definition d => d.tokens id
  | .alias target => word "return" :: (serviceTokens target ++ [mark ";"])

def methodTokens (visibility name : String) (parameters body : List Token) : List Token :=
  word visibility :: word "function" :: word name :: mark "(" ::
    (parameters ++ mark ")" :: mark "\x7b" :: (body ++ [mark "\x7d"]))

def constructorTokens : List Token :=
  methodTokens "public" "__construct" []
    [word "parent", mark "::", word "__construct", mark "(", var "this", mark "->",
      word "getDefaultParameters", mark "(", mark ")", mark ")", mark ";"]

/-- The accessor of the id that is asked for, as an element of the table. -/
def elementTokens : List Token :=
  [word "self", mark "::", var "serviceMethods", mark "[", var "id", mark "]"]

def parentCallTokens (name : String) (arguments : List Token) : List Token :=
  word "parent" :: mark "::" :: word name :: mark "(" :: (arguments ++ [mark ")"])

def hasServiceTokens : List Token :=
  word "return" :: word "isset" :: mark "(" ::
    (elementTokens ++ mark ")" :: mark "||" :: (parentCallTokens "hasService" [var "id"] ++ [mark ";"]))

def getServiceTokens : List Token :=
  word "if" :: mark "(" :: word "isset" :: mark "(" ::
      (elementTokens ++ mark ")" :: mark "&&" :: mark "!" ::
        (parentCallTokens "hasService" [var "id"] ++ [mark ")", mark "\x7b"])) ++
    (word "return" :: var "this" :: mark "->" :: mark "\x7b" ::
        (elementTokens ++ [mark "\x7d", mark "(", mark ")", mark ";"]) ++
      (mark "\x7d" :: word "return" :: (parentCallTokens "getService" [var "id"] ++ [mark ";"])))

def getServiceIdsTokens : List Token :=
  [word "return", word "array_values", mark "(", word "array_unique", mark "(", word "array_merge", mark "(",
      word "array_keys", mark "(", word "self", mark "::", var "serviceMethods", mark ")", mark ","] ++
    (parentCallTokens "getServiceIds" [] ++ [mark ")", mark ")", mark ")", mark ";"])

def lookupTokens : List Token :=
  methodTokens "public" "hasService" [var "id"] hasServiceTokens ++
    (methodTokens "public" "getService" [var "id"] getServiceTokens ++
      methodTokens "public" "getServiceIds" [] getServiceIdsTokens)

def rowTokens (row : ServiceId × String) : List Token :=
  [.quoted row.1, mark "=>", .quoted row.2, mark ","]

def tableTokens (rows : List (ServiceId × String)) : List Token :=
  [word "protected", word "static", var "serviceMethods", mark "=", word "array", mark "("] ++
    (rows.flatMap rowTokens ++ [mark ")", mark ";"])

def defaultTokens (parameter : String × Shown) : List Token :=
  .quoted parameter.1 :: mark "=>" :: (parameter.2.tokens .parameters ++ [mark ","])

def defaultsTokens (parameters : List (String × Shown)) : List Token :=
  methodTokens "protected" "getDefaultParameters" []
    (word "return" :: word "array" :: mark "(" :: (parameters.flatMap defaultTokens ++ [mark ")", mark ";"]))

namespace Contents

variable (contents : Contents)

def table : List (ServiceId × String) := contents.entries.map fun (id, _) => (id, accessorName id)

def accessorTokens (entry : ServiceId × ShownEntry) : List Token :=
  methodTokens "protected" (accessorName entry.1) [] (entry.2.tokens entry.1)

def tokens : List Token :=
  word "class" :: word contents.names.name :: word "extends" :: word contents.names.base :: mark "\x7b" ::
    (tableTokens contents.table ++
      ((if contents.parameters.isEmpty then [] else constructorTokens) ++
        (lookupTokens ++
          (contents.entries.flatMap accessorTokens ++
            ((if contents.parameters.isEmpty then [] else defaultsTokens contents.parameters) ++ [mark "\x7d"])))))

end Contents

end ServiceContainer.Php

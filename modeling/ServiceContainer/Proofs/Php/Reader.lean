import ServiceContainer.Proofs.Php.Contents
import ServiceContainer.Proofs.Php.PercentSigns

/-!
# A reader of generated classes

The reader goes through the tokens of a class from left to right and takes the first alternative that fits. It
knows the table of accessors before it comes to the accessors, and expects them in the order of the table.
-/

namespace ServiceContainer.Php

/-- Takes tokens from the front, or fails. -/
abbrev Reader := StateT (List Token) Option

namespace Reader

variable {α β : Type}

/-! ### Combinators -/

/-- The given tokens come next. -/
def skip : List Token → Reader Unit
  | [], tokens => some ((), tokens)
  | _ :: _, [] => none
  | expected :: more, token :: tokens => if expected = token then skip more tokens else none

def word : Reader String
  | .word name :: tokens => some (name, tokens)
  | _ => none

def quoted : Reader String
  | .quoted s :: tokens => some (s, tokens)
  | _ => none

def integer : Reader Nat
  | .integer digits :: tokens => some (Nat.ofDigitChars 10 digits.toList 0, tokens)
  | _ => none

def float : Reader String
  | .float numeral :: tokens => some (numeral, tokens)
  | _ => none

def perhaps (p : Reader α) : Reader (Option α) := (do return some (← p)) <|> pure none

/-- As many as come next, each of them of one token at least. -/
def many (p : Reader α) (tokens : List Token) : Option (List α × List Token) :=
  match p tokens with
  | none => some ([], tokens)
  | some (a, rest) =>
    if rest.length < tokens.length then (many p rest).map fun (as, rest) => (a :: as, rest)
    else some ([], tokens)
termination_by tokens.length

def separated (separator : Token) (p : Reader α) : Reader (List α) :=
  (do
    let first ← p
    let others ← many (do skip [separator]; p)
    return first :: others) <|>
  pure []

/-! ### Values -/

def sign : Reader Bool := do return (← perhaps (skip [.mark "-"])).isSome

def int : Reader Int := do
  let negative ← sign
  let n ← integer
  return if negative then -n else n

def key : Reader Key :=
  (do return .index (Int64.ofInt (← int))) <|> (do return .name (← quoted))

def constant : Reader Literal :=
  (do skip [.word "null"]; return .null) <|>
  (do skip [.word "true"]; return .bool true) <|>
  (do skip [.word "false"]; return .bool false) <|>
  (do skip [.word "PHP_INT_MIN"]; return .int Int64.minValue) <|>
  (do skip [.word "NAN"]; return .float "NaN")

def number : Reader Literal :=
  (do return .int (Int64.ofInt (← int))) <|>
  (do
    let negative ← sign
    return .float (Lexer.sign negative ++ (← float))) <|>
  (do
    let negative ← sign
    skip [.word "INF"]
    return .float (Lexer.sign negative ++ "inf"))

/-- The text of a literal at the place where it was written. -/
def unplaced (s : String) : Place → String
  | .code => s
  | .parameters => String.ofList (unescape s.toList)

def segment (place : Place) : Reader (Segment String) :=
  (do return .literal (unplaced (← quoted) place)) <|>
  (do
    skip [.var "this", .mark "->", .word "getParameter", .mark "("]
    let name ← quoted
    skip [.mark ")"]
    return .parameter name)

/-- A lone segment is a text or a parameter, and several make a template. -/
def ofSegments : List (Segment String) → Shown
  | [.literal s] => .literal (.text s)
  | [.parameter name] => .parameter name
  | segments => .template segments

def segments (place : Place) : Reader Shown := do
  let first ← segment place
  let others ← many (do skip [.mark "."]; segment place)
  return ofSegments (first :: others)

def service : Reader ServiceId :=
  (do
    skip [.var "this", .mark "->", .word "getService", .mark "("]
    let id ← quoted
    skip [.mark ")"]
    return id) <|>
  (do skip [.var "this"]; return containerId)

/-- A value that is no list. -/
def plain (place : Place) : Reader Shown :=
  (do return .literal (← constant)) <|>
  (do return .literal (← number)) <|>
  segments place <|>
  (do return .service (← service))

/-- An item of a list whose values are read with `element`. -/
def item (element : Reader Shown) : Reader (Key × Shown) := do
  let k ← key
  skip [.mark "=>"]
  return (k, ← element)

/-- A value in which lists are nested less deep than the given bound. -/
def valueWithin (place : Place) : Nat → Reader Shown
  | 0 => failure
  | depth + 1 =>
    (do
      skip [.word "array", .mark "("]
      let items ← separated (.mark ",") (item (valueWithin place depth))
      skip [.mark ")"]
      return .list items) <|>
    plain place

/-- Each list has a token of its own, so the tokens that are left bound the depth. -/
def value (place : Place) : Reader Shown := fun tokens => valueWithin place tokens.length tokens

/-! ### Definitions -/

def argument : Reader (Option String × Shown) :=
  (do
    let name ← word
    skip [.mark ":"]
    return (some name, ← value .code)) <|>
  (do return (none, ← value .code))

def arguments : Reader ShownArguments := do
  skip [.mark "("]
  let arguments ← separated (.mark ",") argument
  skip [.mark ")", .mark ";"]
  return arguments

/-- What the instance is made of: the method of its class, if it is not `new`, and the class. -/
def construction : Reader (Option String × Shown) :=
  (do
    skip [.var "instance", .mark "=", .word "new"]
    return (none, .literal (.text (← word)))) <|>
  (do
    skip [.var "instance", .mark "="]
    let name ← word
    skip [.mark "::"]
    return (some (← word), .literal (.text name))) <|>
  (do
    skip [.var "class", .mark "="]
    let className ← value .code
    skip [.mark ";", .var "instance", .mark "="]
    (do
      skip [.word "new", .var "class"]
      return (none, className)) <|>
    (do
      skip [.var "class", .mark "::"]
      return (some (← word), className)))

def call : Reader ShownCall := do
  skip [.var "instance", .mark "->"]
  let method ← word
  return ⟨method, ← arguments⟩

def configurator : Reader ShownConfigurator :=
  (do
    let name ← word
    skip handOverTokens
    return .function name) <|>
  (do
    let name ← word
    skip [.mark "::"]
    let method ← word
    skip handOverTokens
    return .classMethod name method) <|>
  (do
    let id ← service
    skip [.mark "->"]
    let method ← word
    skip handOverTokens
    return .serviceMethod id method) <|>
  (do
    skip [.word "call_user_func", .mark "(", .word "array", .mark "("]
    let target ← value .code
    skip [.mark ","]
    let method ← quoted
    skip [.mark ")", .mark ",", .var "instance", .mark ")", .mark ";"]
    return .staticMethod target method)

def file : Reader Shown := do
  skip [.word "require_once"]
  let file ← value .code
  skip [.mark ";"]
  return file

def definition (id : ServiceId) : Reader ShownDefinition := do
  let file ← perhaps file
  let (factory, className) ← construction
  let arguments ← arguments
  let calls ← many call
  let configurator ← perhaps configurator
  let stored ← perhaps (skip (storeTokens id))
  skip [.word "return", .var "instance", .mark ";"]
  return { className, shared := stored.isSome, factory, file, arguments, configurator, calls }

def entry (id : ServiceId) : Reader ShownEntry :=
  (do
    skip [.word "return"]
    let target ← service
    skip [.mark ";"]
    return .alias target) <|>
  (do return .definition (← definition id))

/-! ### Classes -/

def row : Reader (ServiceId × String) := do
  let id ← quoted
  skip [.mark "=>"]
  let accessor ← quoted
  skip [.mark ","]
  return (id, accessor)

def accessor (row : ServiceId × String) : Reader (ServiceId × ShownEntry) := do
  skip [.word "protected", .word "function", .word row.2, .mark "(", .mark ")", .mark "\x7b"]
  let entry ← entry row.1
  skip [.mark "\x7d"]
  return (row.1, entry)

def parameter : Reader (String × Shown) := do
  let name ← quoted
  skip [.mark "=>"]
  let v ← value .parameters
  skip [.mark ","]
  return (name, v)

def parameters : Reader (List (String × Shown)) := do
  skip [.word "protected", .word "function", .word "getDefaultParameters", .mark "(", .mark ")", .mark "\x7b",
    .word "return", .word "array", .mark "("]
  let parameters ← many parameter
  skip [.mark ")", .mark ";", .mark "\x7d"]
  return parameters

def table : Reader (List (ServiceId × String)) := do
  skip [.word "protected", .word "static", .var "serviceMethods", .mark "=", .word "array", .mark "("]
  let rows ← many row
  skip [.mark ")", .mark ";"]
  return rows

def contents : Reader Contents := do
  skip [.word "class"]
  let name ← word
  skip [.word "extends"]
  let base ← word
  skip [.mark "\x7b"]
  let rows ← table
  let constructed ← perhaps (skip constructorTokens)
  skip lookupTokens
  let entries ← rows.mapM accessor
  let parameters ← if constructed.isSome then parameters else pure []
  skip [.mark "\x7d"]
  return ⟨⟨name, base⟩, entries, parameters⟩

end Reader

/-- What a class holds, if the whole text is a class. -/
def read (text : String) : Option Contents := do
  match Reader.contents (← Lexer.tokens? text) with
  | some (contents, []) => some contents
  | _ => none

end ServiceContainer.Php

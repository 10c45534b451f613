import ServiceContainer.Json.Token

/-!
JSON documents as they are written. Numbers keep their digits and strings their units, so that parts nobody
asks for need no meaning.
-/

namespace ServiceContainer.Json

inductive Source where
  | null
  | bool (b : Bool)
  | number (n : Numeral)
  | text (units : List CharUnit)
  | array (items : List Source)
  | object (fields : List (List CharUnit × Source))

namespace Source

/-- An array or object that is still open: what it holds so far, last part first. -/
inductive Frame where
  | array (done : List Source)
  | object (done : List (List CharUnit × Source)) (key : List CharUnit)

def leaf? : Token → Option Source
  | .word w =>
    if w = "null".toList then some .null
    else if w = "true".toList then some (.bool true)
    else if w = "false".toList then some (.bool false)
    else none
  | .number n => some (.number n)
  | .text units => some (.text units)
  | .mark _ => none

mutual

def readValue (frames : List Frame) : List Token → Option Source
  | [] => none
  | .mark '[' :: .mark ']' :: tokens => readRest frames (.array []) tokens
  | .mark '[' :: tokens => readValue (.array [] :: frames) tokens
  | .mark '\x7b' :: .mark '\x7d' :: tokens => readRest frames (.object []) tokens
  | .mark '\x7b' :: .text key :: .mark ':' :: tokens => readValue (.object [] key :: frames) tokens
  | token :: tokens =>
    match leaf? token with
    | some value => readRest frames value tokens
    | none => none

def readRest : List Frame → Source → List Token → Option Source
  | [], value, [] => some value
  | .array done :: frames, value, .mark ',' :: tokens => readValue (.array (value :: done) :: frames) tokens
  | .array done :: frames, value, .mark ']' :: tokens => readRest frames (.array (value :: done).reverse) tokens
  | .object done key :: frames, value, .mark ',' :: .text next :: .mark ':' :: tokens =>
    readValue (.object ((key, value) :: done) next :: frames) tokens
  | .object done key :: frames, value, .mark '\x7d' :: tokens =>
    readRest frames (.object ((key, value) :: done).reverse) tokens
  | _, _, _ => none

end

def read? (text : String) : Option Source := (Token.read? text).bind (readValue [])

end Source

end ServiceContainer.Json

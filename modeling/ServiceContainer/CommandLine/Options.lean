/-!
Options and file names on a command line. Words are taken in one by one; what an option or a run of file
names has received is checked only when something else begins.
-/

namespace ServiceContainer.CommandLine

/-- Why a command line does not name a command to carry out. -/
inductive Usage where
  | help
  | version
  /-- Nothing at all was said, which also asks for help. -/
  | nothingSaid
  | missingSubcommand
  | missingFile
  | unknownSubcommand
  | unknownOption
  /-- An option without its value, or an empty path. -/
  | invalidValue
  /-- A value for an option that takes none. -/
  | needlessValue
  | repeatedOption
  deriving DecidableEq, Repr

inductive Operand where
  | none
  | text
  | path
  deriving DecidableEq, Repr

structure Switch where
  name : String
  letter : Option Char := none
  operand : Operand := .none
  deriving DecidableEq, Repr

/-- What may still grow or fail. -/
inductive Pending where
  | option (switch : Switch) (value : Option String)
  | files (paths : List String)
  deriving DecidableEq, Repr

/-- What a command line has said so far. -/
structure Said where
  /-- Options with their values; those that take none have an empty one. -/
  options : List (String × String) := []
  files : List String := []
  pending : Option Pending := none
  deriving DecidableEq, Repr

namespace Said

def has (said : Said) (name : String) : Bool := (said.options.lookup name).isSome

def record (said : Said) (switch : Switch) (value : String) : Except Usage Said :=
  if switch.name = "help" then .error .help
  else if switch.name = "version" then .error .version
  else if said.has switch.name then .error .repeatedOption
  else if switch.operand = .path && value = "" then .error .invalidValue
  else .ok { said with options := said.options ++ [(switch.name, value)] }

def settle (said : Said) : Except Usage Said :=
  let settled := { said with pending := none }
  match said.pending with
  | none => .ok settled
  | some (.option _ none) => .error .invalidValue
  | some (.option switch (some value)) => settled.record switch value
  | some (.files paths) =>
    if "" ∈ paths then .error .invalidValue else .ok { settled with files := said.files ++ paths }

def takeOption (said : Said) (switch : Switch) (value : Option String) : Except Usage Said := do
  if switch.operand = .none then
    if value.isSome then throw .needlessValue
    (← said.settle).record switch ""
  else
    let said ← said.settle
    match value with
    | some value => said.record switch value
    | none => return { said with pending := some (.option switch none) }

def takeName (switches : List Switch) (said : Said) (text : List Char) : Except Usage Said :=
  let name := String.ofList (text.takeWhile (· ≠ '='))
  let value := (text.dropWhile (· ≠ '=')).tail?.map String.ofList
  match switches.find? (·.name = name) with
  | none => .error .unknownOption
  | some switch => said.takeOption switch value

/-- Takes in options by their letters, up to one that takes a value; what is left of the word is that value,
perhaps behind an equals sign. -/
def takeLetters (switches : List Switch) (said : Said) : List Char → Except Usage Said
  | [] => .ok said
  | c :: cs =>
    match switches.find? (·.letter = some c) with
    | none => .error .unknownOption
    | some switch =>
      if switch.operand = .none then do takeLetters switches (← said.takeOption switch none) cs
      else if cs = [] then said.takeOption switch none
      else said.takeOption switch (some (String.ofList (if cs.head? = some '=' then cs.tail else cs)))

def takeFile (said : Said) (path : String) : Except Usage Said :=
  match said.pending with
  | some (.files paths) => .ok { said with pending := some (.files (paths ++ [path])) }
  | _ => said.settle.map fun said => { said with pending := some (.files [path]) }

def takePlain (said : Said) (word : String) : Except Usage Said :=
  match said.pending with
  | some (.option switch none) => .ok { said with pending := some (.option switch (some word)) }
  | _ => said.takeFile word

def takeWord (switches : List Switch) (said : Said) (word : String) : Except Usage Said :=
  match word.toList with
  | '-' :: '-' :: text => said.takeName switches text
  | '-' :: c :: letters => said.takeLetters switches (c :: letters)
  | _ => said.takePlain word

/-- Takes in all words; behind `--` each is a file. -/
def takeWords (switches : List Switch) (said : Said) : List String → Except Usage Said
  | [] => said.settle
  | word :: words =>
    if word = "--" then do (← words.foldlM takeFile said).settle
    else do takeWords switches (← said.takeWord switches word) words

end Said

end ServiceContainer.CommandLine

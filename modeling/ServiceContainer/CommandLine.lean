import ServiceContainer.Command
import ServiceContainer.CommandLine.Options

/-!
Command lines: a subcommand, and its options and files in any order.
-/

namespace ServiceContainer.CommandLine

/-- Options that may stand anywhere. They change nothing about the outcome of a command. -/
def generalSwitches : List Switch := [⟨"verbose", some 'v', .none⟩, ⟨"help", some 'h', .none⟩]

def leadingSwitches : List Switch := ⟨"version", some 'V', .none⟩ :: generalSwitches

def sourceSwitches : List Switch := generalSwitches ++ [⟨"strict", none, .none⟩, ⟨"config", none, .path⟩]

def compileSwitches : List Switch :=
  sourceSwitches ++
    [⟨"class", none, .text⟩, ⟨"base-class", none, .text⟩, ⟨"no-reference-check", none, .none⟩,
      ⟨"output", some 'o', .path⟩]

def inspectSwitches : List Switch := sourceSwitches ++ [⟨"resolve", none, .none⟩, ⟨"json", none, .none⟩]

/-- The shared part of a command. `config` names the settings file for command lines that name none. -/
def sourceOptions (config : Option String) (said : Said) : Except Usage SourceOptions :=
  match said.options.lookup "config" <|> config with
  | some "" => .error .invalidValue
  | config =>
    if said.files = [] then .error .missingFile
    else .ok { files := said.files, strict := said.has "strict", config }

def compileCommand (config : Option String) (words : List String) : Except Usage Command := do
  let said ← Said.takeWords compileSwitches {} words
  return .compile
    { source := ← sourceOptions config said
      className := said.options.lookup "class"
      baseClass := said.options.lookup "base-class"
      skipReferenceCheck := said.has "no-reference-check"
      output := said.options.lookup "output" }

def inspectCommand (config : Option String) (words : List String) : Except Usage Command := do
  let said ← Said.takeWords inspectSwitches {} words
  return .inspect
    { source := ← sourceOptions config said
      resolve := said.has "resolve"
      json := said.has "json" }

def subcommands : List String := ["compile", "inspect", "help"]

def withoutSubcommand (said : Said) : Usage := if said.options = [] then .nothingSaid else .missingSubcommand

/-- Words behind `help` name the subcommand to be helped with. -/
def helpUsage : List String → Usage
  | [] => .help
  | [word] => if word ∈ subcommands then .help else .unknownSubcommand
  | _ => .unknownSubcommand

/-- Reads a command line; `said` is what options in front of the subcommand have said. -/
def commandFrom (config : Option String) (said : Said) : List String → Except Usage Command
  | [] => .error (withoutSubcommand said)
  | "compile" :: words => compileCommand config words
  | "inspect" :: words => inspectCommand config words
  | "help" :: words => .error (helpUsage words)
  | ["--"] => .error (withoutSubcommand said)
  | "--" :: word :: _ => .error (if word ∈ subcommands then .unknownOption else .unknownSubcommand)
  | word :: words =>
    if word.toList.head? = some '-' && word ≠ "-" then do
      commandFrom config (← said.takeWord leadingSwitches word) words
    else .error .unknownSubcommand

def command (config : Option String) (words : List String) : Except Usage Command := commandFrom config {} words

end ServiceContainer.CommandLine

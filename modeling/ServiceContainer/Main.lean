import ServiceContainer.CommandLine

/-!
The program. Everything is decided by `CommandLine.command` and `Command.effect`; here their inputs are
fetched, and the outcome is carried out.
-/

namespace ServiceContainer

def usageText : String :=
  "Usage: service-container [-v] compile|inspect [OPTIONS] <FILES>...\n\n" ++
    "  --strict              Reject `parameters` sections in config files\n" ++
    "  --config <FILE>       JSON file with compiler settings; flags take precedence\n" ++
    "  -v, --verbose         Accepted anywhere\n\n" ++
    "compile:\n" ++
    "  --class <NAME>        Name of the generated class\n" ++
    "  --base-class <NAME>   Base container class the generated class extends\n" ++
    "  --no-reference-check  Skip the circular constructor reference check\n" ++
    "  -o, --output <FILE>   Write output to a file instead of stdout\n\n" ++
    "inspect:\n" ++
    "  --resolve             Show parameters and definitions with parameters substituted\n" ++
    "  --json                Print the report as JSON\n"

namespace CommandLine

def Usage.message : Usage → String
  | .help | .nothingSaid => usageText
  | .version => "service-container 0.1.0\n"
  | .missingSubcommand => "a subcommand is required\n"
  | .missingFile => "at least one file is required\n"
  | .unknownSubcommand => "unknown subcommand\n"
  | .unknownOption => "unexpected option\n"
  | .invalidValue => "an option or file has no value\n"
  | .needlessValue => "an option that takes no value has one\n"
  | .repeatedOption => "an option is given twice\n"

end CommandLine

def FileFailure.ofError : IO.Error → FileFailure
  | .noFileOrDirectory _ _ _ => .notFound
  | .inappropriateType _ _ details =>
    match details.toLower with
    | "not a directory" => .notADirectory
    | "is a directory" => .isADirectory
    | _ => .other details
  | error => .other (toString error)

def readPath (path : Path) : IO (Except FileFailure String) := do
  try
    let content ← IO.FS.readBinFile path
    return (String.fromUTF8? content).elim (.error .notUtf8) .ok
  catch error => return .error (.ofError error)

def writePath (path : Path) (text : String) : IO (Except FileFailure Unit) := do
  try
    IO.FS.writeFile path text
    return .ok ()
  catch error => return .error (.ofError error)

/-- A reader over texts that have been fetched already. -/
def fetched (texts : List (Path × Except FileFailure String)) : Reader := fun path =>
  (texts.lookup path).getD (.error .notFound)

def fail (failure : CommandFailure) : IO UInt32 := do
  IO.eprintln ("Error: " ++ failure.message)
  return 1

def run (command : Command) : IO UInt32 := do
  let texts ← command.inputs.mapM fun path => do return (path, ← readPath path)
  match command.effect (fetched texts) with
  | .error failure => fail failure
  | .ok (.print text) =>
    IO.print text
    return 0
  | .ok (.save path text notice) =>
    match ← writePath path text with
    | .error reason => fail (.unwritableOutput path reason)
    | .ok () =>
      IO.print notice
      return 0

end ServiceContainer

/-- Help and the version number are no errors; other reasons for not running a command are. -/
def main (words : List String) : IO UInt32 := do
  match ServiceContainer.CommandLine.command (← IO.getEnv "DICC_CONFIG") words with
  | .ok command => ServiceContainer.run command
  | .error usage =>
    if usage = .help || usage = .version then
      IO.print usage.message
      return 0
    else
      IO.eprint usage.message
      return 2

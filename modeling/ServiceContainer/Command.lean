import ServiceContainer.ConfigFile
import ServiceContainer.FileTree
import ServiceContainer.Report

/-!
The two commands: compiling configuration files into a class, and reporting what they declare. A command
either fails, or prints a text, or saves one in a file and prints a notice.
-/

namespace ServiceContainer

structure SourceOptions where
  /-- Later files take precedence. -/
  files : List Path
  strict : Bool := false
  config : Option Path := none
  deriving DecidableEq, Repr

structure CompileOptions where
  source : SourceOptions
  className : Option String := none
  baseClass : Option String := none
  skipReferenceCheck : Bool := false
  output : Option Path := none
  deriving DecidableEq, Repr

structure InspectOptions where
  source : SourceOptions
  resolve : Bool := false
  json : Bool := false
  deriving DecidableEq, Repr

inductive Command where
  | compile (options : CompileOptions)
  | inspect (options : InspectOptions)
  deriving DecidableEq, Repr

inductive CommandFailure where
  | compilation (failure : Failure)
  | unreadableSettings (path : Path) (reason : FileFailure)
  | unwritableOutput (path : Path) (reason : FileFailure)

def CommandFailure.message : CommandFailure → String
  | .compilation failure => failure.message
  | .unreadableSettings path reason => "cannot read settings " ++ path ++ ": " ++ reason.message
  | .unwritableOutput path reason => "cannot write " ++ path ++ ": " ++ reason.message

/-- What a command does once it has succeeded in everything but this. -/
inductive Effect where
  | print (text : String)
  /-- Saves a text, and prints a notice when that is done. -/
  | save (path : Path) (text notice : String)
  deriving DecidableEq, Repr

def SourceOptions.settings (options : SourceOptions) (read : Reader) : Except CommandFailure Settings := do
  let settings ←
    match options.config with
    | none => .ok {}
    | some path =>
      match read path with
      | .error reason => .error (.unreadableSettings path reason)
      | .ok text => (Settings.readJson text).mapError .compilation
  return if options.strict then { settings with mode := .strict } else settings

def CompileOptions.settings (options : CompileOptions) (read : Reader) : Except CommandFailure Settings := do
  let settings ← options.source.settings read
  return { settings with
    names := ⟨options.className.getD settings.names.name, options.baseClass.getD settings.names.base⟩
    checkReferences := settings.checkReferences && !options.skipReferenceCheck }

def CompileOptions.effect (options : CompileOptions) (read : Reader) : Except CommandFailure Effect := do
  let settings ← options.settings read
  let text ← (compileFiles read settings options.source.files).mapError .compilation
  match options.output with
  | none => return .print text
  | some path =>
    return .save path text
      ("Compiled " ++ toString options.source.files.length ++ " file(s) -> " ++ path ++ "\n")

def InspectOptions.effect (options : InspectOptions) (read : Reader) : Except CommandFailure Effect := do
  let settings ← options.source.settings read
  let report ← (do
    let documents ← options.source.files.mapM (loadDocument read)
    Report.ofContainer options.resolve (← Container.ofDocuments settings.mode documents)).mapError
      CommandFailure.compilation
  return .print (if options.json then report.toJson.pretty "" ++ "\n" else report.text)

namespace Command

def effect : Command → Reader → Except CommandFailure Effect
  | .compile options => options.effect
  | .inspect options => options.effect

/-- The paths that a command may have to read. -/
def inputs : Command → List Path
  | .compile ⟨source, _, _, _, _⟩ | .inspect ⟨source, _, _⟩ => source.config.toList ++ source.files

end Command

/-- Carries out a command: the tree that is left, and the text that was printed unless it failed. -/
def FileTree.execute (tree : FileTree) (command : Command) : FileTree × Except CommandFailure String :=
  match command.effect tree.read with
  | .error failure => (tree, .error failure)
  | .ok (.print text) => (tree, .ok text)
  | .ok (.save path text notice) =>
    match tree.write path text with
    | .error reason => (tree, .error (.unwritableOutput path reason))
    | .ok tree => (tree, .ok notice)

end ServiceContainer

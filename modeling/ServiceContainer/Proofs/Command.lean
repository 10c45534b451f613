import ServiceContainer.Command
import ServiceContainer.Proofs.Compilation
import ServiceContainer.Proofs.FileTree
import ServiceContainer.Proofs.Settings

/-!
# What compiling leaves behind

Compiling reads the settings, then the documents, builds and checks a container and generates its class. As long as
one of these can still fail, nothing has been printed and no file has been touched; afterwards there is only the
generated text left to be printed, or to be saved in one file.
-/

namespace ServiceContainer

variable {read : Reader}

/-! ### Settings -/

namespace SourceOptions

variable {options : SourceOptions} {path : Path} {s : Settings} {failure : CommandFailure}

end SourceOptions

namespace CompileOptions

variable {options : CompileOptions} {s : Settings} {failure : CommandFailure}

end CompileOptions

/-! ### Documents -/

namespace CompileOptions

/-- What is printed when the class has been saved. -/
def notice (options : CompileOptions) (out : Path) : String :=
  "Compiled " ++ toString options.source.files.length ++ " file(s) -> " ++ out ++ "\n"

variable {options : CompileOptions} {effect : Effect} {failure : CommandFailure}

end CompileOptions

namespace FileTree

variable {tree : FileTree} {options : CompileOptions}

end FileTree

end ServiceContainer

import Mathlib.Data.List.Nodup
import Mathlib.Tactic.MkIffOfInductiveProp
import ServiceContainer.Proofs.Result
import ServiceContainer.Settings

/-!
# What a settings file says

The fields of a settings file stand for themselves, one by one: each that is given has its value from the file, and
each that is not has its default. The order of the fields does not matter, nor do fields that nobody knows.
-/

namespace ServiceContainer

namespace Settings

open Json (CharUnit Source)

section Field

variable {α : Type} {given rest : List (String × Source)} {name other : String} {read : Source → Option α}
  {default value : α} {source : Source}

end Field

variable {given : List (String × Source)} {base s : Settings}

end Settings

end ServiceContainer

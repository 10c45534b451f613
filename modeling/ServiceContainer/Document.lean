import ServiceContainer.Settings
import ServiceContainer.Tree

/-!
The sections of a configuration document.
-/

namespace ServiceContainer

structure Document where
  parameters : Option (List (Key × Tree)) := none
  services : Option (List (Key × Tree)) := none

namespace Document

/-- A section is a map; nothing at all counts as an empty one. -/
def sectionEntries (name : String) : Tree → Except Failure (List (Key × Tree))
  | .map entries => .ok entries
  | .scalar .null => .ok []
  | tree => .error (.invalid (.sectionNotMap name tree.kind))

/-- Takes in one top-level entry. A section that comes again replaces the one before. -/
def addSection (mode : Mode) (doc : Document) : Key × Tree → Except Failure Document
  | (.name "parameters", tree) =>
    if mode = .strict then .error (.invalid .parametersForbidden)
    else (sectionEntries "parameters" tree).map fun entries => { doc with parameters := some entries }
  | (.name "services", tree) =>
    (sectionEntries "services" tree).map fun entries => { doc with services := some entries }
  | (key, _) => .error (.invalid (.unexpectedSection key))

def ofTree (mode : Mode) : Tree → Except Failure Document
  | .map entries => entries.foldlM (addSection mode) {}
  | tree => .error (.invalid (.documentNotMap tree.kind))

end Document

end ServiceContainer

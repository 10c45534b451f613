import ServiceContainer.Yaml.Tag

/-!
The tokens of a YAML text. Block collections have tokens for their start and end too, which stand for
changes of indentation.
-/

namespace ServiceContainer.Yaml

inductive Token where
  | streamEnd
  | version (major minor : Nat)
  | tagShorthand (handle : String) (expansion : Tag)
  | documentStart
  | documentEnd
  | blockSequenceStart
  | blockMappingStart
  | blockEnd
  | flowSequenceStart
  | flowSequenceEnd
  | flowMappingStart
  | flowMappingEnd
  | blockEntry
  | flowEntry
  | key
  | value
  | alias (name : String)
  | anchor (name : String)
  | tag (handle : String) (suffix : Tag)
  | scalar (plain : Bool) (text : String)
  deriving DecidableEq, Repr

end ServiceContainer.Yaml

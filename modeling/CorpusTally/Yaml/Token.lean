import CorpusTally.Yaml.Tag

/-!
The tokens of a YAML text. Indentation shows as tokens that open and close block collections.
-/

namespace CorpusTally.Yaml

inductive Lexeme where
  | streamStart
  | streamEnd
  | directive
  | documentStart
  | documentEnd
  | blockSequenceStart
  | blockMappingStart
  | blockEnd
  | flowSequenceStart
  | flowSequenceEnd
  | flowMappingStart
  | flowMappingEnd
  | blockEntry
  | flowEntry
  | key
  | value
  | alias (name : String)
  | anchor (name : String)
  | tag (tag : Tag)
  | scalar (isPlain : Bool) (text : String)
  deriving DecidableEq

structure Token where
  mark : Mark
  lexeme : Lexeme

end CorpusTally.Yaml

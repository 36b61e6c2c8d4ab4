/-!
# Tokens of YAML

* `Yaml.Style`: how a scalar is written;
* `Yaml.Tag`: a tag as it is written;
* `Yaml.Token`: what a text is made of; the starts and ends of blocks stand for its indentation.
-/

namespace Workflows

namespace Yaml

/-- How a scalar is written. -/
inductive Style where
  | plain
  | singleQuoted
  | doubleQuoted
  | literal
  | folded
  deriving DecidableEq

/-- A tag: the handle that stands for its start, and its rest. -/
structure Tag where
  handle : String
  suffix : String
  deriving DecidableEq

/-- What a text is made of. -/
inductive Token where
  | streamEnd
  | version
  | documentStart
  | documentEnd
  | blockSequenceStart
  | blockMappingStart
  | blockEnd
  | flowSequenceStart
  | flowSequenceEnd
  | flowMappingStart
  | flowMappingEnd
  | blockEntry
  | flowEntry
  | key
  | value
  | alias (name : String)
  | anchor (name : String)
  | tag (t : Tag)
  | scalar (text : String) (style : Style)
  deriving DecidableEq

end Yaml

end Workflows

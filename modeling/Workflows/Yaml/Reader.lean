import Workflows.Yaml.Node
import Workflows.Yaml.Scanner

/-!
# Reading YAML

`Yaml.read?` is the tree of a text, which holds at most one document, and `Yaml.decode` a record read from
a text.
-/

namespace Workflows

namespace Yaml

/-- The tree of a text. -/
def read? (text : String) : Option Node := do
  let tokens ← scan? text.toList
  let events ← parse? tokens
  compose events

/-- A record read from a text. -/
def decode? {α : Type} (read : Node → Option α) (text : String) : Option α := (read? text).bind read

end Yaml

end Workflows

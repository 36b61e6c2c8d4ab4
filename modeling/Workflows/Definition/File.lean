import Workflows.Data.Path
import Workflows.Definition.Basic
import Workflows.Engine.Error
import Workflows.File.System
import Workflows.Yaml.Reader

/-!
# Definitions in files

* `Definition.parse?`: the definition of a text;
* `Definition.load`: the definition of a file, whose name stands in for an id that is missing, as the id
  does for a name;
* `Definition.save`: writes a definition to a file.
-/

namespace Workflows

namespace Definition

/-- The definition of a text. -/
def parse? (text : String) : Option Definition := Yaml.decode? decode? text

/-- The id of a definition whose file has no name. -/
def namelessId : String := "workflow"

/-- The definition with an id and a name, the one from its file where it has none. -/
def withDefaults (w : Definition) (path : String) : Definition :=
  let id := if Text.isBlank w.id then (Path.stem? path).getD namelessId else w.id
  { w with id, name := if Text.isBlank w.name then id else w.name }

/-- The definition of a file. -/
def load (fs : FileSystem) (path : String) : Except EngineError Definition := do
  let text ← (fs.read path).mapError (.io path)
  match parse? text with
  | some w => return w.withDefaults path
  | none => throw .yaml

/-- Writes a definition to a file, as the text that `printYaml` makes of it. -/
def save (printYaml : Value → String) (w : Definition) (path : String) (fs : FileSystem) :
    Except EngineError FileSystem :=
  (fs.write path (printYaml w.encode)).mapError (.io path)

end Definition

end Workflows

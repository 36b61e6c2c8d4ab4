import Workflows.Config
import Workflows.Engine.Error
import Workflows.File.System
import Workflows.Yaml.Reader

/-!
# Settings in files

* `Config.ofFile`: the settings in a file, which have to be usable;
* `Config.load`: the settings of a run: those in a given file, or in the usual one if there is one, with
  those that the environment gives over them.
-/

namespace Workflows

namespace Config

/-- The settings of a text. -/
def parse? (text : String) : Option Config := Yaml.decode? decode? text

/-- The settings in a file. -/
def ofFile (fs : FileSystem) (path : String) : Except EngineError Config := do
  let text ← (fs.read path).mapError (.io path)
  match parse? text with
  | none => throw .yaml
  | some c =>
    match c.problem? with
    | some problem => throw (.config problem.message)
    | none => return c

/-- The file that settings are usually in. -/
def usualFile : String := "procflow.yaml"

/-- The settings of a run. -/
def load (fs : FileSystem) (explicit : Option String) (environment : String → Option String) :
    Except EngineError Config := do
  let c ← match explicit with
    | some path => ofFile fs path
    | none => if fs.exists? usualFile then ofFile fs usualFile else .ok .default
  return c.override environment

end Config

end Workflows

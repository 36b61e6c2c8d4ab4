import Workflows.Engine.Error
import Workflows.File.System
import Workflows.Services.Policy
import Workflows.Yaml.Reader

/-!
# Policies in files

`Policies.load` reads a list of policies from a file; without the file there are none.
-/

namespace Workflows

/-- The policies of a text. -/
def Policies.parse? (text : String) : Option Policies :=
  Yaml.decode? (fun n => (Document.list? Policy.decode? n).map .ofList) text

/-- The policies of a file, none if it is missing. -/
def Policies.load (fs : FileSystem) (path : String) : Except EngineError Policies :=
  if fs.exists? path then do
    let text ← (fs.read path).mapError (.io path)
    match parse? text with
    | some policies => return policies
    | none => throw .yaml
  else .ok {}

end Workflows

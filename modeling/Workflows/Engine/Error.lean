import Workflows.Execution.Record
import Workflows.File.Fault

/-!
# Errors of the engine and its stores

`EngineError` lists why a call of the engine or of a store fails; `EngineError.message` is its text.
Steps that fail are no errors: they are part of the execution's history.
-/

namespace Workflows

/-- Why a call of the engine or of a store fails. -/
inductive EngineError where
  | executionNotFound (id : String)
  | notPaused (id : String) (status : Status)
  | duplicateExecution (id : String)
  | workflowNotFound (id : String)
  /-- A paused execution does not say at which step. -/
  | missingCursor (id : String)
  /-- An execution does not have the status that a change expects. -/
  | staleTransition (id : String) (expected actual : Status)
  | io (path : String) (fault : File.Fault)
  /-- A file holds no execution. -/
  | json
  /-- A file holds no document of the expected shape. -/
  | yaml
  | config (reason : String)
  deriving DecidableEq

/-- The text of an error. -/
def EngineError.message : EngineError → String
  | .executionNotFound id => "Execution not found: " ++ id
  | .notPaused id status => "Execution '" ++ id ++ "' is " ++ status.name ++ ", not paused"
  | .duplicateExecution id => "Execution already exists: " ++ id
  | .workflowNotFound id => "Workflow not found: " ++ id
  | .missingCursor id => "Paused execution '" ++ id ++ "' has no current step"
  | .staleTransition id expected actual =>
    "Execution '" ++ id ++ "' expected to be " ++ expected.name ++ " but is " ++ actual.name
  | .io path fault => "I/O error at '" ++ path ++ "': " ++ fault.message
  | .json => "JSON error: not an execution"
  | .yaml => "YAML error: not a document of the expected shape"
  | .config reason => "Configuration error: " ++ reason

end Workflows

import Workflows.Engine.Error

/-!
# Changes of executions

* `StatusUpdate`: a change of status with the fields that go with it; `StatusUpdate.statusOnly` keeps
  the fields as they are;
* `Execution.update`: the execution after a change, provided it has the expected status;
* `Execution.append`: the execution with a further record, provided it is running.
-/

namespace Workflows

/-- A change of status. -/
structure StatusUpdate where
  status : Status
  currentStep : Option String
  successes : UInt32
  failures : UInt32
  error : Option String
  finishedAt : Option Time
  /-- The entity from now on; it stays as it is where none is given. -/
  entity : Option Object
  /-- A decision for a record. -/
  decision : Option (String × StepResult)
  deriving DecidableEq

/-- The change of nothing but the status. -/
def StatusUpdate.statusOnly (e : Execution) (status : Status) : StatusUpdate :=
  { status
    currentStep := e.currentStep
    successes := e.successes
    failures := e.failures
    error := e.error
    finishedAt := e.finishedAt
    entity := none
    decision := none }

namespace Execution

/-- Refuses an execution that does not have the expected status. -/
def expect (e : Execution) (expected : Status) : Except EngineError Unit :=
  if e.status = expected then .ok () else .error (.staleTransition e.id expected e.status)

/-- The execution with the fields of a change. -/
def apply (e : Execution) (u : StatusUpdate) : Execution :=
  { e with
    status := u.status
    currentStep := u.currentStep
    successes := u.successes
    failures := u.failures
    error := u.error
    finishedAt := u.finishedAt
    entity := u.entity.getD e.entity
    decisions := match u.decision with
      | some (record, result) => e.decisions.insert record result
      | none => e.decisions }

/-- The execution after a change of an execution with the expected status. -/
def update (e : Execution) (expected : Status) (u : StatusUpdate) : Except EngineError Execution := do
  e.expect expected
  return e.apply u

/-- A running execution with a further record. -/
def append (e : Execution) (r : StepRecord) : Except EngineError Execution := do
  e.expect .running
  return { e with records := e.records ++ [r] }

/-- The order of lists of executions: by start, then by id. -/
def precedes (a b : Execution) : Bool :=
  if a.startedAt = b.startedAt then a.id ≤ b.id else a.startedAt.le b.startedAt

/-- Executions in the order of lists. -/
def inOrder (es : List Execution) : List Execution := es.mergeSort precedes

end Execution

end Workflows

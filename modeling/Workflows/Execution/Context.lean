import Workflows.Execution.Record
import Workflows.Text.Blank

/-!
# Contexts of runs

* `Context`: what a run knows of its entity, of itself and of the steps before;
* `Context.restore`: the context of a stored execution;
* `Context.record`, `Context.decide`: the context after a step, and after a decision on one;
* `Context.projection`: the context as scripts see it.
-/

namespace Workflows

/-- What a run knows while its steps are carried out. -/
structure Context where
  entity : Object
  entityType : String
  entityId : String
  entityName : Option String
  actor : Option String
  trigger : Option Trigger
  executionId : String
  workflowId : String
  workflowName : String
  results : Dict StepResult
  deriving DecidableEq

namespace Context

/-- The context of a stored execution: its entity as of the last change of status, and the results in
its history. -/
def restore (e : Execution) : Context :=
  { entity := e.entity
    entityType := e.entityType
    entityId := e.entityId
    entityName := e.entityName
    actor := e.triggeredBy
    trigger := e.trigger
    executionId := e.id
    workflowId := e.workflowId
    workflowName := e.workflowName
    results := e.results }

/-- The context with the result of a step. -/
def record (ctx : Context) (stepId : String) (o : Outcome) : Context :=
  { ctx with results := ctx.results.insert stepId o.result }

/-- The context with a decision on a step. -/
def decide (ctx : Context) (stepId : String) (passed : Bool) (data : Option Object) : Context :=
  let before := (ctx.results.get? stepId).getD ⟨passed, none, none⟩
  { ctx with results := ctx.results.insert stepId (before.decide passed data) }

/-- The context as scripts see it. -/
def projection (ctx : Context) : Value :=
  .record [
    ("entity", some (.ofObject ctx.entity)),
    ("entity_type", some (.text ctx.entityType)),
    ("entity_id", some (.text ctx.entityId)),
    ("entity_name", some (.ofText? ctx.entityName)),
    ("user_email", some (.ofText? ctx.actor)),
    ("execution_id", some (.text ctx.executionId)),
    ("workflow_id", some (.text ctx.workflowId)),
    ("workflow_name", some (.text ctx.workflowName)),
    ("step_results", some (encodeResults ctx.results))]

/-- An attribute of the entity that is a text and not blank, trimmed. -/
def entityText? (ctx : Context) (key : String) : Option String :=
  ((ctx.entity.get? key).bind Value.text?).bind Text.nonBlank?

end Context

end Workflows

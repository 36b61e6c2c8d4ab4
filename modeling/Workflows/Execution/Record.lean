import Workflows.Execution.Outcome
import Workflows.Time

/-!
# Records of executions

* `Status`: where an execution stands; `Status.isTerminal`;
* `StepRecord`: one step that was carried out; `Trigger`: what started an execution;
* `Execution`: a run of a workflow against an entity, with its history and the decisions taken in it;
* `Execution.results`: the latest result of every step, a decision counting for the record it resolves;
* `decode?` and `encode` of each.
-/

namespace Workflows

/-- Where an execution stands. -/
inductive Status where
  | running
  | paused
  | succeeded
  | failed
  deriving DecidableEq

namespace Status

/-- The name of a status. -/
def name : Status → String
  | .running => "running"
  | .paused => "paused"
  | .succeeded => "succeeded"
  | .failed => "failed"

/-- The status of a name. -/
def ofName? : String → Option Status
  | "running" => some .running
  | "paused" => some .paused
  | "succeeded" => some .succeeded
  | "failed" => some .failed
  | _ => none

/-- Whether no run leaves the status. -/
def isTerminal : Status → Bool
  | .succeeded | .failed => true
  | .running | .paused => false

end Status

/-- How a step that was carried out is marked. -/
inductive StepStatus where
  | succeeded
  | failed
  deriving DecidableEq

namespace StepStatus

/-- The name of a mark. -/
def name : StepStatus → String
  | .succeeded => "succeeded"
  | .failed => "failed"

/-- The mark of a name. -/
def ofName? : String → Option StepStatus
  | "succeeded" => some .succeeded
  | "failed" => some .failed
  | _ => none

/-- The mark of a verdict. -/
def ofPassed (passed : Bool) : StepStatus := if passed then .succeeded else .failed

end StepStatus

/-- What started an execution. -/
structure Trigger where
  type : String
  entityType : Option String
  entityId : Option String
  entityName : Option String
  userEmail : Option String
  fromStatus : Option String
  toStatus : Option String
  metadata : Object
  deriving DecidableEq

/-- One step that was carried out. -/
structure StepRecord where
  id : String
  stepId : String
  status : StepStatus
  passed : Bool
  blocking : Bool
  message : Option String
  data : Option Object
  error : Option String
  /-- How long it took, in milliseconds. -/
  duration : Real64
  startedAt : Time
  finishedAt : Time
  deriving DecidableEq

/-- A run of a workflow against an entity. -/
structure Execution where
  id : String
  workflowId : String
  workflowName : String
  status : Status
  /-- The step that waits for a decision, while the execution is paused. -/
  currentStep : Option String
  successes : UInt32
  failures : UInt32
  error : Option String
  startedAt : Time
  finishedAt : Option Time
  triggeredBy : Option String
  trigger : Option Trigger
  entityType : String
  entityId : String
  entityName : Option String
  /-- The entity as of the last change of status. -/
  entity : Object
  records : List StepRecord
  /-- Decisions by the id of the record they resolve. -/
  decisions : Dict StepResult
  deriving DecidableEq

namespace StepRecord

/-- What later steps see of a record that no decision resolves. -/
def result (r : StepRecord) : StepResult := ⟨r.passed, r.message, r.data⟩

end StepRecord

namespace Execution

/-- What later steps see of a record: the decision that resolves it, else its own result. -/
def resultOf (e : Execution) (r : StepRecord) : StepResult := (e.decisions.get? r.id).getD r.result

/-- The latest result of every step. -/
def results (e : Execution) : Dict StepResult :=
  Dict.ofList (e.records.map fun r => (r.stepId, e.resultOf r))

/-- The latest record of a step. -/
def lastRecord? (e : Execution) (stepId : String) : Option StepRecord :=
  e.records.reverse.find? fun r => r.stepId == stepId

end Execution

/-! ## Records as data -/

open Document

/-- A time field. -/
def Document.time? {δ : Type} [Document δ] (d : δ) : Option Time := (text? d).bind Time.read?

/-- A count of 32 bits. -/
def Document.count? {δ : Type} [Document δ] (d : δ) : Option UInt32 :=
  (nat? d).bind fun n => if n < UInt32.size then some (.ofNat n) else none

namespace Trigger

/-- The fields of a trigger. -/
def fields : List Field :=
  ["trigger_type", "entity_type", "entity_id", "entity_name", "user_email", "from_status",
    "to_status", "metadata"].map .plain

/-- A trigger that says nothing but its type. -/
def new (type : String) : Trigger :=
  { type, entityType := none, entityId := none, entityName := none, userEmail := none,
    fromStatus := none, toStatus := none, metadata := {} }

/-- The trigger of a document. -/
def decode? {δ : Type} [Document δ] (d : δ) : Option Trigger := do
  let fs ← fields? fields d
  return {
    type := ← fs.required "trigger_type" text?
    entityType := ← fs.optional "entity_type" text?
    entityId := ← fs.optional "entity_id" text?
    entityName := ← fs.optional "entity_name" text?
    userEmail := ← fs.optional "user_email" text?
    fromStatus := ← fs.optional "from_status" text?
    toStatus := ← fs.optional "to_status" text?
    metadata := ← fs.orElse "metadata" {} object? }

/-- A trigger as data; absent fields and empty metadata are left out. -/
def encode (t : Trigger) : Value :=
  .record [
    ("trigger_type", some (.text t.type)),
    ("entity_type", t.entityType.map .text),
    ("entity_id", t.entityId.map .text),
    ("entity_name", t.entityName.map .text),
    ("user_email", t.userEmail.map .text),
    ("from_status", t.fromStatus.map .text),
    ("to_status", t.toStatus.map .text),
    ("metadata", if t.metadata.isEmpty then none else some (.ofObject t.metadata))]

end Trigger

namespace StepRecord

/-- The fields of a record. -/
def fields : List Field :=
  ["id", "step_id", "status", "passed", "blocking", "message", "result_data", "error_message",
    "duration_ms", "started_at", "finished_at"].map .plain

/-- The record of a document. -/
def decode? {δ : Type} [Document δ] (d : δ) : Option StepRecord := do
  let fs ← fields? fields d
  return {
    id := ← fs.required "id" text?
    stepId := ← fs.required "step_id" text?
    status := ← fs.required "status" fun d => (name? d).bind StepStatus.ofName?
    passed := ← fs.required "passed" bool?
    blocking := ← fs.orElse "blocking" false bool?
    message := ← fs.optional "message" text?
    data := ← fs.optional "result_data" object?
    error := ← fs.optional "error_message" text?
    duration := ← fs.required "duration_ms" real?
    startedAt := ← fs.required "started_at" time?
    finishedAt := ← fs.required "finished_at" time? }

/-- A record as data; absent fields are left out. -/
def encode (r : StepRecord) : Value :=
  .record [
    ("id", some (.text r.id)),
    ("step_id", some (.text r.stepId)),
    ("status", some (.text r.status.name)),
    ("passed", some (.bool r.passed)),
    ("blocking", some (.bool r.blocking)),
    ("message", r.message.map .text),
    ("result_data", r.data.map .ofObject),
    ("error_message", r.error.map .text),
    ("duration_ms", some (.number (.real r.duration))),
    ("started_at", some (.text r.startedAt.text)),
    ("finished_at", some (.text r.finishedAt.text))]

end StepRecord

namespace Execution

/-- The fields of an execution. -/
def fields : List Field :=
  ["id", "workflow_id", "workflow_name", "status", "current_step_id", "success_count",
    "failure_count", "error_message", "started_at", "finished_at", "triggered_by",
    "trigger_context", "entity_type", "entity_id", "entity_name", "entity", "step_executions",
    "decisions"].map .plain

/-- The execution of a document. -/
def decode? {δ : Type} [Document δ] (d : δ) : Option Execution := do
  let fs ← fields? fields d
  return {
    id := ← fs.required "id" text?
    workflowId := ← fs.required "workflow_id" text?
    workflowName := ← fs.required "workflow_name" text?
    status := ← fs.required "status" fun d => (name? d).bind Status.ofName?
    currentStep := ← fs.optional "current_step_id" text?
    successes := ← fs.required "success_count" count?
    failures := ← fs.required "failure_count" count?
    error := ← fs.optional "error_message" text?
    startedAt := ← fs.required "started_at" time?
    finishedAt := ← fs.optional "finished_at" time?
    triggeredBy := ← fs.optional "triggered_by" text?
    trigger := ← fs.optional "trigger_context" Trigger.decode?
    entityType := ← fs.required "entity_type" text?
    entityId := ← fs.required "entity_id" text?
    entityName := ← fs.optional "entity_name" text?
    entity := ← fs.orElse "entity" {} object?
    records := ← fs.orElse "step_executions" [] (list? StepRecord.decode?)
    decisions := ← fs.orElse "decisions" {} (dict? StepResult.decode?) }

/-- An execution as data; absent fields and empty decisions are left out. -/
def encode (e : Execution) : Value :=
  .record [
    ("id", some (.text e.id)),
    ("workflow_id", some (.text e.workflowId)),
    ("workflow_name", some (.text e.workflowName)),
    ("status", some (.text e.status.name)),
    ("current_step_id", e.currentStep.map .text),
    ("success_count", some (.nat e.successes.toNat)),
    ("failure_count", some (.nat e.failures.toNat)),
    ("error_message", e.error.map .text),
    ("started_at", some (.text e.startedAt.text)),
    ("finished_at", e.finishedAt.map fun t => .text t.text),
    ("triggered_by", e.triggeredBy.map .text),
    ("trigger_context", e.trigger.map Trigger.encode),
    ("entity_type", some (.text e.entityType)),
    ("entity_id", some (.text e.entityId)),
    ("entity_name", e.entityName.map .text),
    ("entity", some (.ofObject e.entity)),
    ("step_executions", some (.list (e.records.map StepRecord.encode))),
    ("decisions", if e.decisions.isEmpty then none else some (encodeResults e.decisions))]

end Execution

end Workflows

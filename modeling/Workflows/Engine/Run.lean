import Workflows.Engine.Drive

/-!
# Running and resuming

* `Engine.run`: runs a workflow from its entry, until it ends or waits for a decision;
* `Engine.claim`: the change of status by which a decision takes a paused execution;
* `Engine.resume`: takes a decision on a paused execution and goes on.

Both give the stored execution, or an error if a store failed or the call does not fit the execution.
-/

namespace Workflows

namespace Engine

variable {σ : Type} (e : Engine σ)

/-- A new execution of a workflow. -/
def newExecution (w : Definition) (r : Request) (id : String) (startedAt : Time) : Execution :=
  { id
    workflowId := w.id
    workflowName := w.name
    status := .running
    currentStep := none
    successes := 0
    failures := 0
    error := none
    startedAt
    finishedAt := none
    triggeredBy := r.actor
    trigger := r.trigger
    entityType := r.entityType
    entityId := r.entityId
    entityName := r.entityName
    entity := r.entity
    records := []
    decisions := {} }

/-- Runs a workflow; the end says how the run itself stood, where there was one. -/
def runThrough (w : Definition) (r : Request) (world : World σ) : Ended σ :=
  let (id, world) := e.freshId world
  let (startedAt, world) := e.now world
  let execution := newExecution w r id startedAt
  let (created, store) := e.repository.create execution world.store
  let p : Progress σ := ⟨.restore execution, .zero, { world with store }⟩
  match created with
  | .error fault => ⟨.error fault, p⟩
  | .ok () => e.drive w e.limit (w.entry?.map (·.id)) .initial p

/-- Runs a workflow. -/
def run (w : Definition) (r : Request) (world : World σ) : Except EngineError Execution × World σ :=
  let ended := e.runThrough w r world
  (ended.result, ended.progress.world)

/-- The change of status by which a decision takes a paused execution: the decision is kept for the last
record of the step that it is on. -/
def claim (stored : Execution) (stepId : String) (ctx : Context) : StatusUpdate :=
  { StatusUpdate.statusOnly stored .running with
    currentStep := none
    decision := do
      let record ← stored.lastRecord? stepId
      let result ← ctx.results.get? stepId
      return (record.id, result) }

/-- What a decision counts as for the end of a run. -/
def decisionVerdict (stepId : String) (passed : Bool) (data : Option Object) : Verdict :=
  ⟨passed, some (((data.bind fun d => d.get? "message").bind Value.text?).getD
    ("Rejected at step " ++ stepId))⟩

/-- A paused execution to which a decision can be brought: the execution, its workflow and the step. -/
def paused (id : String) (store : σ) : Except EngineError (Execution × Definition × String) := do
  match ← e.repository.get id store with
  | none => throw (.executionNotFound id)
  | some stored =>
    if stored.status ≠ .paused then throw (.notPaused id stored.status)
    match ← e.repository.workflow stored.workflowId store with
    | none => throw (.workflowNotFound stored.workflowId)
    | some w =>
      match stored.currentStep with
      | none => throw (.missingCursor id)
      | some stepId => return (stored, w, stepId)

/-- Goes on after a decision on a step. -/
def proceed (w : Definition) (stepId : String) (passed : Bool) (data : Option Object)
    (p : Progress σ) : Ended σ :=
  match w.find? stepId with
  | none => e.finish .failed (some (missingStep stepId)) p
  | some s => e.drive w e.limit (s.next? passed) (decisionVerdict stepId passed data) p

/-- Takes a decision on a paused execution; the end says how the run stood, where it went on. -/
def resumeThrough (id : String) (passed : Bool) (data : Option Object) (world : World σ) :
    Except EngineError Execution × World σ × Option (Progress σ) :=
  match e.paused id world.store with
  | .error fault => (.error fault, world, none)
  | .ok (stored, w, stepId) =>
    let ctx := (Context.restore stored).decide stepId passed data
    let (claimed, store) := e.repository.update id .paused (claim stored stepId ctx) world.store
    let world := { world with store }
    match claimed with
    | .error fault => (.error fault, world, none)
    | .ok execution =>
      let p : Progress σ := ⟨ctx, ⟨execution.successes, execution.failures⟩, world⟩
      let ended := e.proceed w stepId passed data p
      (ended.result, ended.progress.world, some ended.progress)

/-- Takes a decision on a paused execution and goes on with its run. -/
def resume (id : String) (passed : Bool) (data : Option Object) (world : World σ) :
    Except EngineError Execution × World σ :=
  let (result, world, _) := e.resumeThrough id passed data world
  (result, world)

end Engine

end Workflows

import Workflows.Engine.Basic

/-!
# Driving a run

* `Engine.perform`: carries out one step and makes its record;
* `Engine.dispatch`: the same, with the record in the store;
* `Engine.drive`: goes from step to step until a branch leads nowhere, a step waits for a decision, or
  as many steps were carried out as a call may.
-/

namespace Workflows

namespace Engine

variable {σ : Type} (e : Engine σ)

/-- Milliseconds from one time to another, none if they are the wrong way round. -/
def elapsed (start finish : Time) : Real64 :=
  (Real64.ofFloat? (Float.ofInt (max (finish.nanosSince start) 0) / 1000000.0)).getD Real64.zero

/-- Carries out a step: its outcome, its record, and the run with the entity as the step left it. -/
def perform (s : Step) (p : Progress σ) : Outcome × StepRecord × Progress σ :=
  let services := e.services p.world.readings
  let (startedAt, world) := e.now p.world
  let (time, world) := e.now world
  let carried := s.carryOut services time p.ctx world.outbox
  let (id, world) := e.freshId { world with outbox := carried.outbox }
  let (finishedAt, world) := e.now world
  let outcome := carried.outcome
  let record : StepRecord := {
    id
    stepId := s.id
    status := .ofPassed outcome.passed
    passed := outcome.passed
    blocking := outcome.blocking
    message := outcome.message
    data := outcome.data
    error := outcome.error
    duration := elapsed startedAt finishedAt
    startedAt
    finishedAt }
  (outcome, record, { p with ctx := { p.ctx with entity := carried.entity }, world })

/-- Carries out a step and stores its record; then the step counts in what the run knows. -/
def dispatch (s : Step) (p : Progress σ) : Except EngineError Outcome × Progress σ :=
  let (outcome, record, p) := e.perform s p
  let (result, store) := e.repository.append p.ctx.executionId record p.world.store
  let p := { p with world := { p.world with store } }
  match result with
  | .error fault => (.error fault, p)
  | .ok () =>
    (.ok outcome, { p with ctx := p.ctx.record s.id outcome, tally := p.tally.count outcome.passed })

/-- Leaves the execution waiting for a decision on a step. -/
def pause (stepId : String) (p : Progress σ) : Ended σ :=
  let ended := e.update { leaving p .paused with currentStep := some stepId } p
  match ended.result with
  | .ok _ => ended
  | .error fault => e.abandon fault ended.progress

/-- What is said of a run that comes upon a step that is not there. -/
def missingStep (stepId : String) : String := "Step not found: " ++ stepId

/-- What is said of a run that would carry out too many steps. -/
def limitExceeded : String := "Step limit exceeded (" ++ toString e.limit ++ ")"

/-- Ends a run after a step with no step after it. -/
def settle (last : Verdict) (p : Progress σ) : Ended σ :=
  if last.passed then e.finish .succeeded none p else e.finish .failed last.failure p

/-- Goes on from step `next`; `left` more steps may be carried out. -/
def drive (w : Definition) : Nat → Option String → Verdict → Progress σ → Ended σ
  | _, none, last, p => e.settle last p
  | 0, some _, _, p => e.finish .failed (some e.limitExceeded) p
  | left + 1, some stepId, _, p =>
    match w.find? stepId with
    | none => e.finish .failed (some (missingStep stepId)) p
    | some s =>
      match e.dispatch s p with
      | (.error fault, p) => e.abandon fault p
      | (.ok outcome, p) =>
        if outcome.blocking then e.pause s.id p
        else drive w left (s.next? outcome.passed) ⟨outcome.passed, outcome.reason?⟩ p

end Engine

end Workflows

import Workflows.Engine.Run
import Workflows.Proofs.Carry.Outcome
import Workflows.Proofs.Engine.Course
import Workflows.Proofs.Store.Memory

/-!
# Engines on a store in memory

On a store in memory no operation on a running execution fails, so that each part of a run has one
outcome, which is given here in terms of the execution alone.

* `Engine.InMemory`: the engine works on a store in memory, with ids of a given source;
* `Progress.Runs`: the execution of a run is stored, and running;
* `Engine.outcomeOf`, `Engine.recordOf`: what a step comes to and how it is recorded;
* `Engine.advance`, `Engine.grown`: the run and its execution after a further step;
* `Progress.changed`: a run that ends by a change of its execution;
* `dispatch_of_runs`, `update_of_runs`, `finish_of_runs`, `pause_of_runs`: what the parts of a run do;
* `passes_rule`, **`drive_rule`**: what every step of a run keeps holds at every stage, and where the run
  ends.
-/

namespace Workflows

/-- The execution of a run is stored as `x`, and running. -/
structure Progress.Runs (p : Progress MemoryStore) (x : Execution) : Prop where
  stored : p.world.store.executions.get? p.ctx.executionId = some x
  running : x.status = .running

/-- The end of a run by a change of its execution. -/
def Progress.changed (p : Progress MemoryStore) (x : Execution) (u : StatusUpdate) :
    Ended MemoryStore :=
  ⟨.ok (x.apply u), { p with world := { p.world with
    store := p.world.store.set p.ctx.executionId (x.apply u) } }⟩

namespace Engine

/-- The engine works on a store in memory and takes its ids from a source. -/
structure InMemory (e : Engine MemoryStore) (mint : Nat → String) : Prop where
  repository : e.repository = MemoryStore.repository
  mint : e.mint = mint

/-! ## One step -/

section Step

variable {σ : Type} (e : Engine σ) (s : Step) (p : Progress σ)

/-- What a step comes to. -/
def outcomeOf : Outcome := (e.perform s p).1

/-- The record of a step. -/
def recordOf : StepRecord := (e.perform s p).2.1

/-- The run after a step that is not recorded yet. -/
def performed : Progress σ := (e.perform s p).2.2

@[simp] theorem recordOf_id : (e.recordOf s p).id = e.mint p.world.minted := rfl

@[simp] theorem recordOf_passed : (e.recordOf s p).passed = (e.outcomeOf s p).passed := rfl

theorem outcomeOf_wellFormed : (e.outcomeOf s p).WellFormed := carryOut_wellFormed _ _ _ _ _

/-- The execution after a further step. -/
def grown (x : Execution) : Execution := { x with records := x.records ++ [e.recordOf s p] }

end Step

/-! ## The parts of a run -/

section Parts

variable (e : Engine MemoryStore) (s : Step) (p : Progress MemoryStore) (x : Execution)

/-- The run after a further step. -/
def advance : Progress MemoryStore :=
  { ctx := (e.performed s p).ctx.record s.id (e.outcomeOf s p)
    tally := p.tally.count (e.outcomeOf s p).passed
    world := { (e.performed s p).world with
      store := p.world.store.set p.ctx.executionId (e.grown s p x) } }

@[simp] theorem advance_executionId : (e.advance s p x).ctx.executionId = p.ctx.executionId := rfl

@[simp] theorem advance_tally :
    (e.advance s p x).tally = p.tally.count (e.outcomeOf s p).passed := rfl

@[simp] theorem advance_store : (e.advance s p x).world.store =
    p.world.store.set p.ctx.executionId (e.grown s p x) := rfl

/-- The change that ends a run. -/
def finishUpdate (status : Status) (error : Option String) : StatusUpdate :=
  { leaving p status with error, finishedAt := some (e.now p.world).1 }

/-- The end of a run with a status and an error. -/
def finished (status : Status) (error : Option String) : Ended MemoryStore :=
  { p with world := (e.now p.world).2 : Progress MemoryStore }.changed x
    (e.finishUpdate p status error)

/-- The change by which a run waits for a decision on a step. -/
def waitUpdate (p : Progress MemoryStore) (stepId : String) : StatusUpdate :=
  { leaving p .paused with currentStep := some stepId }

variable {e s p x} {mint : Nat → String}

theorem Runs.advance (h : p.Runs x) : (e.advance s p x).Runs (e.grown s p x) :=
  ⟨by simp, h.running⟩

theorem dispatch_of_runs (he : e.InMemory mint) (h : p.Runs x) :
    e.dispatch s p = (.ok (e.outcomeOf s p), e.advance s p x) := by
  have appended : e.repository.append (e.performed s p).ctx.executionId (e.recordOf s p)
      (e.performed s p).world.store =
        (.ok (), p.world.store.set p.ctx.executionId (e.grown s p x)) := by
    rw [he.repository]
    exact MemoryStore.append_of_running h.stored h.running _
  unfold performed recordOf at appended
  unfold dispatch
  simp only [appended]
  rfl

theorem update_of_runs (he : e.InMemory mint) (h : p.Runs x) (u : StatusUpdate) :
    e.update u p = p.changed x u := by
  have updated : e.repository.update p.ctx.executionId .running u p.world.store =
      (.ok (x.apply u), p.world.store.set p.ctx.executionId (x.apply u)) := by
    rw [he.repository]
    exact MemoryStore.update_of_status h.stored h.running u
  unfold update
  simp only [updated]
  rfl

theorem finish_of_runs (he : e.InMemory mint) (h : p.Runs x) (status : Status)
    (error : Option String) : e.finish status error p = e.finished p x status error :=
  update_of_runs (p := { p with world := (e.now p.world).2 }) he ⟨h.stored, h.running⟩ _

theorem pause_of_runs (he : e.InMemory mint) (h : p.Runs x) (stepId : String) :
    e.pause stepId p = p.changed x (waitUpdate p stepId) := by
  unfold pause
  rw [show { leaving p .paused with currentStep := some stepId } = waitUpdate p stepId from rfl,
    update_of_runs he h]
  rfl

end Parts

/-! ## A whole run -/

section Whole

variable (e : Engine MemoryStore) (w : Definition)

/-- The stage after a step that lets the run go on. -/
def nextStage (left : Nat) (s : Step) (p : Progress MemoryStore) (x : Execution) :
    Stage MemoryStore :=
  ⟨left, s.next? (e.outcomeOf s p).passed, ⟨(e.outcomeOf s p).passed, (e.outcomeOf s p).reason?⟩,
    e.advance s p x⟩

/-- The end of a run whose execution is stored as `x`: without a further step, or after a step that makes
it wait. -/
inductive Leaves : Stage MemoryStore → Execution → Ended MemoryStore → Prop
  | closed {a : Stage MemoryStore} {x : Execution} {status : Status} {error : Option String}
      (closes : e.Closes w a status error) : Leaves a x (e.finished a.progress x status error)
  | paused {left : Nat} {stepId : String} {last : Verdict} {p : Progress MemoryStore} {x : Execution}
      {s : Step} (found : w.find? stepId = some s) (blocks : (e.outcomeOf s p).blocking = true) :
      Leaves ⟨left + 1, some stepId, last, p⟩ x
        ((e.advance s p x).changed (e.grown s p x) (waitUpdate (e.advance s p x) s.id))

variable {e w} {mint : Nat → String} {I : Stage MemoryStore → Execution → Prop}

/-- What every step of a run keeps holds at every stage, whatever the execution has become. -/
theorem passes_rule (he : e.InMemory mint) (runs : ∀ {a x}, I a x → a.progress.Runs x)
    (step : ∀ {left stepId last p x s}, I ⟨left + 1, some stepId, last, p⟩ x →
      w.find? stepId = some s → (e.outcomeOf s p).blocking = false →
        I (e.nextStage left s p x) (e.grown s p x))
    {a b : Stage MemoryStore} {x : Execution} (h : I a x)
    (passes : Relation.ReflTransGen (e.Passes w) a b) : ∃ y, I b y := by
  induction passes with
  | refl => exact ⟨x, h⟩
  | tail _ pass ih =>
    obtain ⟨y, hy⟩ := ih
    obtain ⟨found, dispatched, free⟩ := pass
    rw [dispatch_of_runs he (runs hy)] at dispatched
    cases dispatched
    exact ⟨_, step hy found free⟩

/-- **What every step of a run keeps holds where the run ends.** -/
theorem drive_rule (he : e.InMemory mint) (runs : ∀ {a x}, I a x → a.progress.Runs x)
    (step : ∀ {left stepId last p x s}, I ⟨left + 1, some stepId, last, p⟩ x →
      w.find? stepId = some s → (e.outcomeOf s p).blocking = false →
        I (e.nextStage left s p x) (e.grown s p x))
    {a : Stage MemoryStore} {x : Execution} (h : I a x) :
    ∃ b y, I b y ∧ e.Leaves w b y (e.driveFrom w a) := by
  obtain ⟨b, passes, ends⟩ := e.drive_course (w := w) a
  obtain ⟨y, hy⟩ := passes_rule he runs step h passes
  refine ⟨b, y, hy, ?_⟩
  generalize e.driveFrom w a = ended at ends ⊢
  cases ends with
  | closed closes =>
    rw [finish_of_runs he (runs hy)]
    exact .closed closes
  | faulted found dispatched =>
    rw [dispatch_of_runs he (runs hy)] at dispatched
    cases dispatched
  | paused found dispatched blocks =>
    rw [dispatch_of_runs he (runs hy)] at dispatched
    cases dispatched
    rw [pause_of_runs he (Runs.advance (runs hy))]
    exact .paused found blocks

end Whole

end Engine

end Workflows

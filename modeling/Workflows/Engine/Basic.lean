import Workflows.Carry.Step
import Workflows.Store.Repository

/-!
# Engines

* `Engine`: a repository, services and a limit, with sources of ids and of the time;
* `World`: what calls of an engine change: the store, what was handed to the outside world, and how
  often the sources were asked;
* `Request`: what a workflow is run against; `Tally`: how many steps passed and failed;
* `Verdict`: what the latest step came to, for the end of a run.
-/

namespace Workflows

/-- An engine over a store whose state is a `σ`. -/
structure Engine (σ : Type) where
  repository : Repository σ
  /-- What steps work with, by how often the clock was read before: a script, an evaluator or a list of
  policies need not answer twice alike. -/
  services : Nat → Services
  /-- How many steps a call may carry out. -/
  limit : Nat
  /-- The id that is made next, by how many were made before. -/
  mint : Nat → String
  /-- The time, by how often it was read before. -/
  clock : Nat → Time

/-- What calls of an engine change. -/
structure World (σ : Type) where
  store : σ
  outbox : Outbox
  /-- How many ids were made. -/
  minted : Nat
  /-- How often the clock was read. -/
  readings : Nat

/-- A world with a store, in which nothing has happened. -/
def World.start {σ : Type} (store : σ) : World σ := ⟨store, {}, 0, 0⟩

/-- What a workflow is run against, and by whom. -/
structure Request where
  entity : Object
  entityType : String
  entityId : String
  entityName : Option String
  actor : Option String
  trigger : Option Trigger
  deriving DecidableEq

/-- How many steps passed and how many failed; the counts have 32 bits. -/
structure Tally where
  successes : UInt32
  failures : UInt32
  deriving DecidableEq

namespace Tally

/-- No step was carried out. -/
def zero : Tally := ⟨0, 0⟩

/-- The tally after a further step. -/
def count (t : Tally) (passed : Bool) : Tally :=
  if passed then { t with successes := t.successes + 1 } else { t with failures := t.failures + 1 }

end Tally

/-- What the latest step came to: with no step after it, the run ends by it. -/
structure Verdict where
  passed : Bool
  failure : Option String
  deriving DecidableEq

/-- The verdict before any step. -/
def Verdict.initial : Verdict := ⟨true, none⟩

/-- A run on its way: what it knows, what it counted and the world around it. -/
structure Progress (σ : Type) where
  ctx : Context
  tally : Tally
  world : World σ

/-- The end of a call: the stored execution or an error, with the run as it was then. -/
structure Ended (σ : Type) where
  result : Except EngineError Execution
  progress : Progress σ

namespace Engine

variable {σ : Type} (e : Engine σ)

/-- Reads the clock. -/
def now (w : World σ) : Time × World σ := (e.clock w.readings, { w with readings := w.readings + 1 })

/-- Makes an id. -/
def freshId (w : World σ) : String × World σ := (e.mint w.minted, { w with minted := w.minted + 1 })

/-- Changes the status of the execution that is on its way. -/
def update (u : StatusUpdate) (p : Progress σ) : Ended σ :=
  let (result, store) := e.repository.update p.ctx.executionId .running u p.world.store
  ⟨result, { p with world := { p.world with store } }⟩

/-- The change of status of a run that leaves the running state. -/
def leaving (p : Progress σ) (status : Status) : StatusUpdate :=
  { status
    currentStep := none
    successes := p.tally.successes
    failures := p.tally.failures
    error := none
    finishedAt := none
    entity := some p.ctx.entity
    decision := none }

/-- Ends a run. -/
def finish (status : Status) (error : Option String) (p : Progress σ) : Ended σ :=
  let (time, world) := e.now p.world
  e.update { leaving p status with error, finishedAt := some time } { p with world }

/-- Marks a run as failed after a fault of the repository, as far as the repository allows it, and gives
the fault. -/
def abandon (fault : EngineError) (p : Progress σ) : Ended σ :=
  let ended := e.finish .failed (some ("Repository error: " ++ fault.message)) p
  { ended with result := .error fault }

end Engine

end Workflows

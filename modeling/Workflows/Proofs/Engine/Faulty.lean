import Workflows.Proofs.Engine.Course
import Workflows.Proofs.Engine.Calls
import Workflows.Proofs.Store.Faulty

/-!
# Engines on stores with faults

Until a call of the store fails by the plan, an engine on a store with faults does what it does on the store
inside.

* `Engine.faulty`: the engine on a store with faults; `withCalls`: worlds, runs and stages beside the calls
  made so far;
* `faulty_update_of_none`, `faulty_update_of_some` and their likes: what the parts of a run do where the plan
  has no fault, and where it has one;
* **`course_of_faulty`**: up to the last stage of a run there was no fault;
* `faulty_runThrough`, `faulty_resume`: whole calls end before there is a run, or drive one.
-/

namespace Workflows

section

variable {σ : Type} (calls : List StoreCall)

/-- A world whose store has had calls. -/
def World.withCalls (w : World σ) : World (FaultyStore σ) :=
  ⟨⟨w.store, calls⟩, w.outbox, w.minted, w.readings⟩

/-- A run whose store has had calls. -/
def Progress.withCalls (p : Progress σ) : Progress (FaultyStore σ) :=
  ⟨p.ctx, p.tally, p.world.withCalls calls⟩

/-- A stage of a run whose store has had calls. -/
def Stage.withCalls (a : Stage σ) : Stage (FaultyStore σ) :=
  ⟨a.left, a.next, a.last, a.progress.withCalls calls⟩

/-- The end of a run whose store has had calls. -/
def Ended.withCalls (ended : Ended σ) : Ended (FaultyStore σ) :=
  ⟨ended.result, ended.progress.withCalls calls⟩

end

namespace Engine

variable {σ : Type}

/-- The engine on a store with faults. -/
def faulty (e : Engine σ) (plan : FaultPlan) : Engine (FaultyStore σ) where
  repository := e.repository.faulty plan
  services := e.services
  limit := e.limit
  mint := e.mint
  clock := e.clock

variable {e : Engine σ} {plan : FaultPlan} {calls : List StoreCall} {fault : EngineError}

/-! ## The parts of a run -/

section Parts

variable (s : Step) (p : Progress σ)

/-- The run when the clock was read once more. -/
def ticked (e : Engine σ) (p : Progress σ) : Progress σ := { p with world := (e.now p.world).2 }

theorem faulty_update_of_none (u : StatusUpdate) (h : plan calls .update = none) :
    (e.faulty plan).update u (p.withCalls calls) = (e.update u p).withCalls (.update :: calls) := by
  have called := FaultyStore.call_of_none (s := (p.withCalls calls).world.store)
    (e.repository.update (p.withCalls calls).ctx.executionId .running u) h
  unfold update faulty Repository.faulty
  simp only [called]
  rfl

theorem faulty_update_of_some (u : StatusUpdate) (h : plan calls .update = some fault) :
    (e.faulty plan).update u (p.withCalls calls) =
      ⟨.error fault, p.withCalls (.update :: calls)⟩ := by
  have called := FaultyStore.call_of_some (s := (p.withCalls calls).world.store)
    (e.repository.update (p.withCalls calls).ctx.executionId .running u) h
  unfold update faulty Repository.faulty
  simp only [called]
  rfl

theorem faulty_finish_of_none (status : Status) (error : Option String)
    (h : plan calls .update = none) :
    (e.faulty plan).finish status error (p.withCalls calls) =
      (e.finish status error p).withCalls (.update :: calls) :=
  faulty_update_of_none (e.ticked p) _ h

theorem faulty_finish_of_some (status : Status) (error : Option String)
    (h : plan calls .update = some fault) :
    (e.faulty plan).finish status error (p.withCalls calls) =
      ⟨.error fault, (e.ticked p).withCalls (.update :: calls)⟩ :=
  faulty_update_of_some (e.ticked p) _ h

/-- However it comes out, ending a run is one call of the store. -/
theorem faulty_finish_calls (status : Status) (error : Option String) :
    ((e.faulty plan).finish status error (p.withCalls calls)).progress.world.store.calls =
      .update :: calls := by
  cases h : plan calls .update with
  | none =>
    rw [faulty_finish_of_none p _ _ h]
    rfl
  | some fault =>
    rw [faulty_finish_of_some p _ _ h]
    rfl

theorem faulty_abandon_of_none (cause : EngineError) (h : plan calls .update = none) :
    (e.faulty plan).abandon cause (p.withCalls calls) =
      (e.abandon cause p).withCalls (.update :: calls) := by
  unfold abandon
  rw [faulty_finish_of_none p _ _ h]
  rfl

theorem faulty_pause_of_some (stepId : String) (h : plan calls .update = some fault) :
    (e.faulty plan).pause stepId (p.withCalls calls) =
      (e.faulty plan).abandon fault (p.withCalls (.update :: calls)) := by
  have updated := faulty_update_of_some (e := e) p
    { leaving p .paused with currentStep := some stepId } h
  unfold pause
  rw [show leaving (p.withCalls calls) .paused = leaving p .paused from rfl, updated]

/-- Carrying out a step does not call the store. -/
theorem faulty_perform : (e.faulty plan).perform s (p.withCalls calls) =
    (e.outcomeOf s p, e.recordOf s p, (e.performed s p).withCalls calls) := rfl

theorem faulty_dispatch_of_none (h : plan calls .append = none) :
    (e.faulty plan).dispatch s (p.withCalls calls) =
      ((e.dispatch s p).1, (e.dispatch s p).2.withCalls (.append :: calls)) := by
  have called := FaultyStore.call_of_none (s := ((e.performed s p).withCalls calls).world.store)
    (e.repository.append ((e.performed s p).withCalls calls).ctx.executionId (e.recordOf s p)) h
  have performed : e.perform s p = (e.outcomeOf s p, e.recordOf s p, e.performed s p) := rfl
  have inner : ((e.performed s p).withCalls calls).world.store.inner =
    (e.performed s p).world.store := rfl
  have ctx : ((e.performed s p).withCalls calls).ctx = (e.performed s p).ctx := rfl
  rw [inner, ctx] at called
  unfold dispatch
  rw [faulty_perform, performed]
  unfold faulty Repository.faulty
  simp only [ctx, called]
  cases (e.repository.append (e.performed s p).ctx.executionId (e.recordOf s p)
    (e.performed s p).world.store).1 <;> rfl

theorem faulty_dispatch_of_some (h : plan calls .append = some fault) :
    (e.faulty plan).dispatch s (p.withCalls calls) =
      (.error fault, (e.performed s p).withCalls (.append :: calls)) := by
  have called := FaultyStore.call_of_some (s := ((e.performed s p).withCalls calls).world.store)
    (e.repository.append ((e.performed s p).withCalls calls).ctx.executionId (e.recordOf s p)) h
  unfold dispatch
  rw [faulty_perform]
  unfold faulty Repository.faulty
  simp only [called]
  rfl

/-- A step whose record was kept had no fault. -/
theorem dispatch_of_faulty {s : Step} {p : Progress σ} {o : Outcome} {q : Progress (FaultyStore σ)}
    (dispatched : (e.faulty plan).dispatch s (p.withCalls calls) = (.ok o, q)) :
    plan calls .append = none ∧
      ∃ q', e.dispatch s p = (.ok o, q') ∧ q = q'.withCalls (.append :: calls) := by
  cases h : plan calls .append with
  | none =>
    rw [faulty_dispatch_of_none s p h] at dispatched
    obtain ⟨outcome, rfl⟩ := Prod.mk.inj dispatched
    exact ⟨rfl, _, Prod.ext outcome rfl, rfl⟩
  | some fault =>
    rw [faulty_dispatch_of_some s p h] at dispatched
    cases dispatched

end Parts

/-! ## Up to the fault -/

variable {w : Definition} {a : Stage σ}

/-- A step after which the run goes on had no fault. -/
theorem passes_of_faulty {b : Stage (FaultyStore σ)}
    (pass : (e.faulty plan).Passes w (a.withCalls calls) b) :
    plan calls .append = none ∧ ∃ b', b = b'.withCalls (.append :: calls) ∧ e.Passes w a b' := by
  obtain ⟨left, next, last, p⟩ := a
  generalize start : Stage.withCalls calls ⟨left, next, last, p⟩ = a at pass
  cases pass with
  | @step left stepId last _ q s o found dispatched free =>
    cases start
    obtain ⟨kept, q', inner, rfl⟩ := dispatch_of_faulty dispatched
    exact ⟨kept, _, rfl, .step found inner free⟩

/-- **Up to the last stage of a run there was no fault.** -/
theorem course_of_faulty {b : Stage (FaultyStore σ)}
    (passes : Relation.ReflTransGen ((e.faulty plan).Passes w) (a.withCalls calls) b) :
    ∃ b' calls', b = b'.withCalls calls' ∧ Relation.ReflTransGen (e.Passes w) a b' ∧
      plan.faults calls' = plan.faults calls := by
  induction passes with
  | refl => exact ⟨a, calls, rfl, .refl, rfl⟩
  | tail _ pass ih =>
    obtain ⟨b', calls', rfl, course, faultless⟩ := ih
    obtain ⟨none, c, rfl, next⟩ := passes_of_faulty pass
    exact ⟨c, _, rfl, course.tail next, (FaultPlan.faults_of_none none).trans faultless⟩

theorem closes_of_faulty {status : Status} {error : Option String}
    (closes : (e.faulty plan).Closes w (a.withCalls calls) status error) :
    e.Closes w a status error := by
  obtain ⟨left, next, last, p⟩ := a
  generalize start : Stage.withCalls calls ⟨left, next, last, p⟩ = a at closes
  cases closes with
  | succeeded passed =>
    cases start
    exact .succeeded passed
  | failed failed =>
    cases start
    exact .failed failed
  | exhausted =>
    cases start
    exact .exhausted
  | missing missing =>
    cases start
    exact .missing missing

/-! ## Whole calls -/

section Calls

variable {e : Engine MemoryStore} {mint : Nat → String} {world : World MemoryStore}

theorem faulty_pause_of_runs {p : Progress MemoryStore} {x : Execution} (he : e.InMemory mint)
    (runs : p.Runs x) (stepId : String) (h : plan calls .update = none) :
    (e.faulty plan).pause stepId (p.withCalls calls) =
      (p.changed x (waitUpdate p stepId)).withCalls (.update :: calls) := by
  have updated := faulty_update_of_none (e := e) p (waitUpdate p stepId) h
  rw [update_of_runs he runs] at updated
  unfold pause
  rw [show { leaving (p.withCalls calls) .paused with currentStep := some stepId } =
    waitUpdate p stepId from rfl, updated]
  rfl

/-- Going on after a decision is driving from the stage after it. -/
theorem faulty_proceed {x : Execution} {w : Definition} {stepId id : String} (passed : Bool)
    (data : Option Object) :
    (e.faulty plan).proceed w stepId passed data
        ((claimedProgress x stepId passed data id world).withCalls calls) =
      (e.faulty plan).driveFrom w ((decidedStage x stepId passed data e w id world).withCalls calls) := by
  unfold proceed decidedStage driveFrom
  cases found : w.find? stepId with
  | none => simp only [Stage.withCalls, drive, found]
  | some s => rfl

variable (plan) (calls) (world)

/-- A call of `run` ends with the creation of the execution, or drives from the first stage. -/
theorem faulty_runThrough (he : e.InMemory mint) (w : Definition) (r : Request) :
    let ended := (e.faulty plan).runThrough w r (world.withCalls calls)
    ended.progress.world.store.calls = .create :: calls ∨
      ended = (e.faulty plan).driveFrom w ((e.firstStage w r world).withCalls (.create :: calls)) ∧
        e.runThrough w r world = e.driveFrom w (e.firstStage w r world) := by
  have refused {fault : EngineError} {inner : MemoryStore}
      (refused : (e.faulty plan).repository.create (e.firstExecution w r world)
        (world.withCalls calls).store = (.error fault, ⟨inner, .create :: calls⟩)) :
      ((e.faulty plan).runThrough w r (world.withCalls calls)).progress.world.store.calls =
        .create :: calls :=
    congrArg FaultyStore.calls (runThrough_store_of_error (e := e.faulty plan) refused)
  let create := e.repository.create (e.firstExecution w r world)
  cases h : plan calls .create with
  | some fault =>
    exact .inl (refused (FaultyStore.call_of_some (s := ⟨world.store, calls⟩) create h))
  | none =>
    have called := FaultyStore.call_of_none (s := ⟨world.store, calls⟩) create h
    cases stored : world.store.executions.get? (mint world.minted) with
    | some y =>
      rw [show create world.store = _ from create_of_stored he stored] at called
      exact .inl (refused called)
    | none =>
      rw [show create world.store = _ from create_of_fresh he stored] at called
      exact .inr ⟨runThrough_of_created (e := e.faulty plan) called, runThrough_of_fresh he stored⟩

/-- A call of `resume` is refused, ends with the change that takes the decision, or drives from the stage
after it. -/
theorem faulty_resume (he : e.InMemory mint) (id : String) (passed : Bool) (data : Option Object) :
    let called := (e.faulty plan).resume id passed data (world.withCalls calls)
    called.2.store.calls = calls ∨ called.2.store.calls = .update :: calls ∨
      ∃ x w stepId, Resumable world.store id x w stepId ∧
        let ended := (e.faulty plan).driveFrom w
          ((decidedStage x stepId passed data e w id world).withCalls (.update :: calls))
        called = (ended.result, ended.progress.world) := by
  dsimp only
  unfold resume
  have same : (e.faulty plan).paused id (world.withCalls calls).store = e.paused id world.store := rfl
  cases paused : e.paused id world.store with
  | error fault =>
    rw [resumeThrough_of_refused passed data (same.trans paused)]
    exact .inl rfl
  | ok found =>
    obtain ⟨x, w, stepId⟩ := found
    have resumable := (paused_eq_ok_iff he).1 paused
    let claim := e.repository.update id .paused (claimUpdate x stepId passed data)
    cases h : plan calls .update with
    | some fault =>
      have unclaimed := FaultyStore.call_of_some (s := ⟨world.store, calls⟩) claim h
      rw [resumeThrough_of_unclaimed (same.trans paused) unclaimed]
      exact .inr (.inl rfl)
    | none =>
      have claimed := FaultyStore.call_of_none (s := ⟨world.store, calls⟩) claim h
      rw [show claim world.store = _ from update_of_resumable passed data he resumable] at claimed
      refine .inr (.inr ⟨x, w, stepId, resumable, ?_⟩)
      have resumed := resumeThrough_of_claimed (e := e.faulty plan)
        (y := Engine.claimed x stepId passed data) (same.trans paused) claimed
      rw [← faulty_proceed, resumed]
      rfl

end Calls

end Engine

end Workflows

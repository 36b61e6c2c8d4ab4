import Workflows.Proofs.Engine.Underway

/-!
# Calls of an engine

How a call of an engine on a store in memory comes to a run underway.

* `runThrough_of_created`, `resumeThrough_of_claimed` and their likes: how calls begin, on any store;
* `Engine.firstExecution`, `Engine.firstStage`: the execution and the stage where a new run starts;
* **`runThrough_of_fresh`**: a call of `run` drives from there;
* `Resumable`: what a decision on an execution needs; `paused_eq_ok_iff`;
* `Engine.claimed`, `Engine.decidedStage`: the execution after a decision, and the stage where its run goes
  on;
* **`resumeThrough_of_resumable`**: a call of `resume` drives from there;
* `underway_firstStage`, `underway_decidedStage`: the invariant of runs holds at both stages.
-/

namespace Workflows

/-! ## Calls on any store -/

namespace Engine

section

variable {σ : Type} {e : Engine σ} {world : World σ} {w : Definition} {r : Request} {store : σ}
  {fault : EngineError}

theorem runThrough_of_created
    (created : e.repository.create (newExecution w r (e.mint world.minted) (e.clock world.readings))
      world.store = (.ok (), store)) :
    e.runThrough w r world = e.driveFrom w ⟨e.limit, w.entry?.map (·.id), .initial,
      .restore (newExecution w r (e.mint world.minted) (e.clock world.readings)), .zero,
      ⟨store, world.outbox, world.minted + 1, world.readings + 1⟩⟩ := by
  unfold runThrough freshId now
  simp only [created]
  rfl

theorem runThrough_store_of_error
    (refused : e.repository.create (newExecution w r (e.mint world.minted) (e.clock world.readings))
      world.store = (.error fault, store)) :
    (e.runThrough w r world).progress.world.store = store := by
  unfold runThrough freshId now
  simp only [refused]

variable {id stepId : String} {passed : Bool} {data : Option Object} {x y : Execution}

/-- A decision that is refused changes nothing. -/
theorem resumeThrough_of_refused (passed : Bool) (data : Option Object)
    (refused : e.paused id world.store = .error fault) :
    e.resumeThrough id passed data world = (.error fault, world, none) := by
  unfold resumeThrough
  rw [refused]

theorem resumeThrough_of_claimed (paused : e.paused id world.store = .ok (x, w, stepId))
    (claimed : e.repository.update id .paused
      (claim x stepId ((Context.restore x).decide stepId passed data)) world.store = (.ok y, store)) :
    let ended := e.proceed w stepId passed data ⟨(Context.restore x).decide stepId passed data,
      ⟨y.successes, y.failures⟩, { world with store }⟩
    e.resumeThrough id passed data world =
      (ended.result, ended.progress.world, some ended.progress) := by
  unfold resumeThrough
  rw [paused]
  simp only [claimed]

theorem resumeThrough_of_unclaimed (paused : e.paused id world.store = .ok (x, w, stepId))
    (unclaimed : e.repository.update id .paused
      (claim x stepId ((Context.restore x).decide stepId passed data)) world.store =
        (.error fault, store)) :
    e.resumeThrough id passed data world = (.error fault, { world with store }, none) := by
  unfold resumeThrough
  rw [paused]
  simp only [unclaimed]

end

end Engine

/-! ## New runs -/

namespace Engine

variable (e : Engine MemoryStore) (w : Definition) (r : Request) (world : World MemoryStore)

/-- The execution of a new run. -/
def firstExecution : Execution := newExecution w r (e.mint world.minted) (e.clock world.readings)

/-- The stage where a new run starts. -/
def firstStage : Stage MemoryStore :=
  let x := e.firstExecution w r world
  ⟨e.limit, w.entry?.map (·.id), .initial, .restore x, .zero,
    { world with
      store := world.store.set x.id x
      minted := world.minted + 1
      readings := world.readings + 1 }⟩

variable {e w r world} {mint : Nat → String}

theorem create_of_fresh (he : e.InMemory mint)
    (fresh : world.store.executions.get? (mint world.minted) = none) :
    e.repository.create (e.firstExecution w r world) world.store =
      (.ok (), world.store.set (e.firstExecution w r world).id (e.firstExecution w r world)) := by
  rw [he.repository]
  refine MemoryStore.create_of_fresh ?_
  rw [← fresh, ← he.mint]
  rfl

theorem create_of_stored {x : Execution} (he : e.InMemory mint)
    (stored : world.store.executions.get? (mint world.minted) = some x) :
    e.repository.create (e.firstExecution w r world) world.store =
      (.error (.duplicateExecution (e.firstExecution w r world).id), world.store) := by
  rw [he.repository]
  refine MemoryStore.create_of_stored (y := x) ?_
  rw [← stored, ← he.mint]
  rfl

theorem runThrough_of_fresh (he : e.InMemory mint)
    (fresh : world.store.executions.get? (mint world.minted) = none) :
    e.runThrough w r world = e.driveFrom w (e.firstStage w r world) :=
  runThrough_of_created (create_of_fresh he fresh)

end Engine

section

variable {mint : Nat → String} {world : World MemoryStore} {e : Engine MemoryStore}

theorem Engine.underway_firstStage (he : e.InMemory mint) (w : Definition) (r : Request) :
    Underway mint world (mint world.minted) (e.firstStage w r world)
      (e.firstExecution w r world) where
  executionId := congrFun he.mint _
  store := by
    rw [← he.mint]
    rfl
  minted := Nat.le_succ _
  made := ⟨world.minted, Nat.lt_succ_self _, rfl⟩
  running := rfl
  cursor := rfl
  error := rfl
  finishedAt := rfl
  known := rfl
  tally := rfl
  recorded := ⟨by simp [Engine.firstExecution, Engine.newExecution],
    by simp [Engine.firstExecution, Engine.newExecution],
    by simp [Engine.firstExecution, Engine.newExecution]⟩
  decided := fun key => by
    rw [show (e.firstExecution w r world).decisions.get? key = none from Dict.get?_empty key]
    simp [Engine.firstExecution, Engine.newExecution]
  reasoned := by simp [Engine.firstStage, Verdict.initial]

end

/-! ## Decisions -/

/-- What a decision on an execution needs: the execution is stored and paused, its workflow is registered,
and it says at which step it waits. -/
structure Resumable (s : MemoryStore) (id : String) (x : Execution) (w : Definition)
    (stepId : String) : Prop where
  stored : s.executions.get? id = some x
  paused : x.status = .paused
  registered : s.workflows.get? x.workflowId = some w
  cursor : x.currentStep = some stepId

namespace Resumable

variable {s : MemoryStore} {id stepId : String} {x y : Execution} {v w : Definition}

/-- A decision is on the execution that is stored. -/
theorem execution_eq (h : Resumable s id y v stepId) (stored : s.executions.get? id = some x) : y = x :=
  Option.some.inj (h.stored.symm.trans stored)

/-- A decision goes by the workflow that is registered. -/
theorem workflow_eq (h : Resumable s id x v stepId) (own : x.workflowId = w.id)
    (registered : s.workflows.get? w.id = some w) : v = w := by
  have looked := h.registered
  rw [own, registered] at looked
  exact (Option.some.inj looked).symm

end Resumable

namespace Engine

variable {mint : Nat → String} {e : Engine MemoryStore} {id stepId : String} {x : Execution}
  {w : Definition}

/-- A decision is refused for the first reason there is. -/
theorem paused_eq (he : e.InMemory mint) (id : String) (s : MemoryStore) :
    e.paused id s = match s.executions.get? id with
      | none => .error (.executionNotFound id)
      | some x =>
        if x.status = .paused then
          match s.workflows.get? x.workflowId, x.currentStep with
          | none, _ => .error (.workflowNotFound x.workflowId)
          | some _, none => .error (.missingCursor id)
          | some w, some stepId => .ok (x, w, stepId)
        else .error (.notPaused id x.status) := by
  unfold paused
  simp only [he.repository, MemoryStore.repository, bind, Except.bind]
  cases s.executions.get? id with
  | none => rfl
  | some x =>
    by_cases paused : x.status = .paused
    · simp only [paused, ne_eq, not_true_eq_false, if_false, if_true]
      cases s.workflows.get? x.workflowId with
      | none => rfl
      | some w => cases x.currentStep <;> rfl
    · simp only [ne_eq, paused, not_false_eq_true, if_true, if_false]
      rfl

theorem paused_eq_ok_iff {s : MemoryStore} (he : e.InMemory mint) :
    e.paused id s = .ok (x, w, stepId) ↔ Resumable s id x w stepId := by
  rw [paused_eq he]
  constructor
  · intro h
    split at h
    · cases h
    · next y stored =>
      split at h
      · next paused =>
        split at h
        · cases h
        · cases h
        · next v t registered cursor =>
          cases h
          exact ⟨stored, paused, registered, cursor⟩
      · cases h
  · intro h
    rw [h.stored]
    simp only [h.paused, h.registered, h.cursor, if_true]

section Claim

variable (x : Execution) (stepId : String) (passed : Bool) (data : Option Object)

/-- The result of a step after a decision on it. -/
def decisionOf : StepResult :=
  ((x.results.get? stepId).getD ⟨passed, none, none⟩).decide passed data

/-- The change by which a decision takes an execution that waits for it. -/
def claimUpdate : StatusUpdate :=
  claim x stepId ((Context.restore x).decide stepId passed data)

/-- The execution after a decision. -/
def claimed : Execution := x.apply (claimUpdate x stepId passed data)

/-- The run after a decision. -/
def claimedProgress (id : String) (world : World MemoryStore) : Progress MemoryStore :=
  ⟨(Context.restore x).decide stepId passed data, ⟨x.successes, x.failures⟩,
    { world with store := world.store.set id (claimed x stepId passed data) }⟩

/-- The stage where a run goes on after a decision: after the step that the decision is on, or, where there
is no such step, before it. -/
def decidedStage (e : Engine MemoryStore) (w : Definition) (id : String)
    (world : World MemoryStore) : Stage MemoryStore :=
  let p := claimedProgress x stepId passed data id world
  let last := decisionVerdict stepId passed data
  match w.find? stepId with
  | none => ⟨1, some stepId, last, p⟩
  | some s => ⟨e.limit, s.next? passed, last, p⟩

variable {x stepId}

theorem decidedStage_next (e : Engine MemoryStore) (id : String) (world : World MemoryStore)
    {s : Step} (found : w.find? stepId = some s) :
    (decidedStage x stepId passed data e w id world).next = s.next? passed := by
  unfold decidedStage
  rw [found]

variable {world : World MemoryStore}

theorem proceed_eq_driveFrom :
    e.proceed w stepId passed data (claimedProgress x stepId passed data id world) =
      e.driveFrom w (decidedStage x stepId passed data e w id world) := by
  unfold proceed decidedStage driveFrom
  cases found : w.find? stepId with
  | none => simp only [drive, found]
  | some s => rfl

theorem update_of_resumable (he : e.InMemory mint) (h : Resumable world.store id x w stepId) :
    e.repository.update id .paused (claimUpdate x stepId passed data) world.store =
      (.ok (claimed x stepId passed data),
        world.store.set id (claimed x stepId passed data)) := by
  rw [he.repository]
  exact MemoryStore.update_of_status h.stored h.paused _

theorem resumeThrough_of_resumable (he : e.InMemory mint)
    (h : Resumable world.store id x w stepId) :
    let ended := e.driveFrom w (decidedStage x stepId passed data e w id world)
    e.resumeThrough id passed data world =
      (ended.result, ended.progress.world, some ended.progress) := by
  rw [← proceed_eq_driveFrom]
  exact resumeThrough_of_claimed (y := claimed x stepId passed data) ((paused_eq_ok_iff he).2 h)
    (update_of_resumable passed data he h)

/-- The decision is kept for the last record of its step. -/
theorem claimed_decisions {r : StepRecord} (last : x.lastRecord? stepId = some r) :
    (claimed x stepId passed data).decisions =
      x.decisions.insert r.id (decisionOf x stepId passed data) := by
  have known : ((Context.restore x).decide stepId passed data).results.get? stepId =
      some (decisionOf x stepId passed data) := by
    simp [Context.decide, Context.restore, decisionOf]
  simp [claimed, claimUpdate, claim, Execution.apply, last, known]

end Claim

end Engine

section

variable {mint : Nat → String} {world : World MemoryStore} {id : String} {x : Execution}
  {earlier : List StepRecord} {r : StepRecord}

/-- **A decision on the step that an execution waits for gets its run underway again.** -/
theorem Engine.underway_claimed (rests : x.Rests mint world.minted) (waits : x.Waits earlier r)
    (id_eq : x.id = id) (passed : Bool) (data : Option Object) (left : Nat) (next : Option String) :
    Underway mint world id
      ⟨left, next, Engine.decisionVerdict r.stepId passed data,
        Engine.claimedProgress x r.stepId passed data id world⟩
      (Engine.claimed x r.stepId passed data) :=
  have last := Execution.lastRecord?_concat waits.records
  have decisions := Engine.claimed_decisions passed data last
  { executionId := id_eq
    store := rfl
    minted := Nat.le_refl _
    made := id_eq ▸ rests.made
    running := rfl
    cursor := rfl
    error := waits.error
    finishedAt := waits.finishedAt
    known := by
      have results := Execution.results_decided waits.records rests.recorded.distinct
        (y := Engine.claimed x r.stepId passed data) rfl decisions
      calc Context.restore (Engine.claimed x r.stepId passed data)
        _ = { Context.restore x with
              results := (Engine.claimed x r.stepId passed data).results } := rfl
        _ = (Context.restore x).decide r.stepId passed data := by
          rw [results]
          rfl
    tally := rests.tally
    recorded := ⟨rests.recorded.marked, rests.recorded.minted, rests.recorded.distinct⟩
    decided := by
      have records : (Engine.claimed x r.stepId passed data).records = earlier ++ [r] :=
        waits.records
      rw [records]
      exact waits.decided.insert waits.blocking decisions
    reasoned := fun _ => rfl }

theorem Engine.underway_decidedStage {e : Engine MemoryStore} (rests : x.Rests mint world.minted)
    (waits : x.Waits earlier r) (id_eq : x.id = id) (w : Definition) (passed : Bool)
    (data : Option Object) :
    Underway mint world id (Engine.decidedStage x r.stepId passed data e w id world)
      (Engine.claimed x r.stepId passed data) := by
  unfold Engine.decidedStage
  split
  · exact underway_claimed rests waits id_eq passed data 1 (some r.stepId)
  · exact underway_claimed rests waits id_eq passed data e.limit _

end

end Workflows

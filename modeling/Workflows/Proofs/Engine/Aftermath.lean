import Workflows.Proofs.Engine.Faulty
import Workflows.Proofs.Engine.Counted

/-!
# What one fault of the store leaves behind

A call in which the store fails once gives that fault. Its execution is marked as failed by the fault, unless
it is the end of the run that the store did not keep: then the execution stays running.

* `Execution.Recovered`: an execution that is marked as failed by a fault;
* `Aftermath`: what a fault leaves behind, by the call of the store that it was in;
* `BreaksOff`: a call of an engine that was broken off by a fault; `BreaksOff.counted`: decisions can be
  brought to the store that it leaves;
* `Working.breaksOff`: a fault breaks a run off at one of its stages;
* **`fault_aftermath`**: the one fault of a call of `run` or `resume` breaks it off.
-/

namespace Workflows

/-- The execution is marked as failed by a fault; its records are counted, where the counts have room for
them. -/
structure Execution.Recovered (fault : EngineError) (x : Execution) : Prop where
  status : x.status = .failed
  finishedAt : x.finishedAt.isSome = true
  error : x.error = some ("Repository error: " ++ fault.message)
  counted : x.records.length < UInt32.size →
    x.successes.toNat = x.records.countP (·.passed) ∧
      x.failures.toNat = x.records.countP fun r => !r.passed

/-- What a fault leaves of an execution, by the calls of the store, latest first, and by the execution `z`
that there would be without the fault. -/
inductive Aftermath (plan : FaultPlan) (fault : EngineError) (z : Execution) :
    List StoreCall → Execution → Prop
  /-- A record was not kept. -/
  | recording {before : List StoreCall} {x : Execution} (fails : plan before .append = some fault)
      (recovered : x.Recovered fault) : Aftermath plan fault z (.update :: .append :: before) x
  /-- That the execution waits was not kept. -/
  | waiting {before : List StoreCall} {x : Execution} (fails : plan before .update = some fault)
      (waits : z.status = .paused) (recovered : x.Recovered fault) (records : x.records = z.records) :
      Aftermath plan fault z (.update :: .update :: before) x
  /-- That the execution has ended was not kept, and nothing else is tried. -/
  | ending {before : List StoreCall} {x : Execution} (fails : plan before .update = some fault)
      (ends : z.status.isTerminal = true) (stranded : x.status = .running)
      (records : x.records = z.records) : Aftermath plan fault z (.update :: before) x

section

variable {plan : FaultPlan} {fault : EngineError} {z x : Execution} {calls : List StoreCall}

/-- An execution that does not stay running is recovered. -/
theorem Aftermath.recovered (h : Aftermath plan fault z calls x) (left : x.status ≠ .running) :
    x.Recovered fault := by
  cases h with
  | recording _ recovered => exact recovered
  | waiting _ _ recovered => exact recovered
  | ending _ _ stranded => exact absurd stranded left

theorem Aftermath.unpaused (h : Aftermath plan fault z calls x) : x.status ≠ .paused := by
  intro paused
  cases h with
  | recording _ recovered | waiting _ _ recovered =>
    rw [recovered.status] at paused
    cases paused
  | ending _ _ stranded =>
    rw [stranded] at paused
    cases paused

end

/-- A call on the execution `id`, made when the store was `s`, gives the one fault that the store had. The
store differs by that execution only. -/
structure BreaksOff (plan : FaultPlan) (fault : EngineError) (s : MemoryStore) (id : String)
    (faultless result : Except EngineError Execution) (t : FaultyStore MemoryStore) : Prop where
  result : result = .error fault
  aftermath : ∃ z x, faultless = .ok z ∧ z.id = id ∧ x.id = id ∧ t.inner = s.set id x ∧
    Aftermath plan fault z t.calls x

namespace BreaksOff

variable {plan : FaultPlan} {fault : EngineError} {s : MemoryStore} {id : String}
  {faultless result : Except EngineError Execution} {t : FaultyStore MemoryStore}

/-- What is stored of the execution is recovered, unless it is running. -/
theorem recovered {x : Execution} (breaks : BreaksOff plan fault s id faultless result t)
    (stored : t.inner.executions.get? id = some x) (left : x.status ≠ .running) :
    x.Recovered fault := by
  obtain ⟨z, y, -, -, -, store, aftermath⟩ := breaks.aftermath
  rw [store, MemoryStore.get?_set, if_pos rfl] at stored
  cases stored
  exact aftermath.recovered left

/-- The fault leaves no execution paused that was not. -/
theorem counted (breaks : BreaksOff plan fault s id faultless result t) (h : s.Counted) :
    t.inner.Counted := by
  obtain ⟨z, x, -, -, -, store, aftermath⟩ := breaks.aftermath
  rw [store]
  exact h.set fun paused => absurd paused aftermath.unpaused

end BreaksOff

/-! ## Runs with a fault -/

namespace Working

variable {mint : Nat → String} {e : Engine MemoryStore} {w : Definition} {limit : Nat}
  {world : World MemoryStore} {id : String} {before x : Execution} {a : Stage MemoryStore}

/-- A run that started from counted records has counted all records. -/
theorem counted (h : Working w limit world id before a x)
    (counted : before.tally = .ofRecords before.records) : a.progress.tally = .ofRecords x.records := by
  obtain ⟨new, records, tally, -⟩ := h.grown
  rw [records, Tally.ofRecords_append, ← counted, tally]

/-- **Marking the execution of a run as failed recovers it.** -/
theorem abandons (he : e.InMemory mint) (h : Working w limit world id before a x)
    (counted : before.tally = .ofRecords before.records) (fault : EngineError) :
    ∃ y, (e.abandon fault a.progress).progress.world.store = world.store.set id y ∧ y.id = id ∧
      y.Recovered fault ∧ y.records = x.records := by
  have completes : Completes limit world id before
      (e.finished a.progress x .failed (some ("Repository error: " ++ fault.message))) _ :=
    h.completes_finished (.inr (.inr rfl))
  refine ⟨_, ?_, completes.id_eq, ⟨rfl, rfl, rfl, ?_⟩, rfl⟩
  · unfold Engine.abandon
    rw [Engine.finish_of_runs he h.runs]
    exact completes.store
  · exact Tally.toNat_of_eq_ofRecords (h.counted counted)

section Faults

variable {plan : FaultPlan} {calls : List StoreCall} {fault cause : EngineError}
  {earlier : List EngineError}

/-- The only fault is the cause for which a run is given up, and its execution is recovered. -/
theorem recovers (he : e.InMemory mint) (h : Working w limit world id before a x)
    (counted : before.tally = .ofRecords before.records) (had : plan.faults calls = cause :: earlier)
    (one : plan.faults ((e.faulty plan).abandon cause
      (a.progress.withCalls calls)).progress.world.store.calls = fault :: earlier) :
    let ended := (e.faulty plan).abandon cause (a.progress.withCalls calls)
    cause = fault ∧ ended.result = .error fault ∧ ended.progress.world.store.calls = .update :: calls ∧
      ∃ y, ended.progress.world.store.inner = world.store.set id y ∧ y.id = id ∧ y.Recovered fault ∧
        y.records = x.records := by
  replace one : plan.faults (.update :: calls) = fault :: earlier := by
    rw [← Engine.faulty_finish_calls a.progress]
    exact one
  obtain ⟨free, rfl⟩ := FaultPlan.eq_none_of_faults one had
  rw [Engine.faulty_abandon_of_none _ _ free]
  exact ⟨rfl, rfl, rfl, h.abandons he counted cause⟩

/-- The run would have ended, and its end is not kept. -/
theorem breaksOff_ending {status : Status} {error : Option String} (he : e.InMemory mint)
    (h : Working w limit world id before a x) (closes : e.Closes w a status error)
    (one : plan.faults ((e.faulty plan).finish status error
      (a.progress.withCalls calls)).progress.world.store.calls = fault :: plan.faults calls) :
    let ended := (e.faulty plan).finish status error (a.progress.withCalls calls)
    BreaksOff plan fault world.store id (e.driveFrom w a).result ended.result
      ended.progress.world.store := by
  rw [Engine.faulty_finish_calls] at one
  have fails := FaultPlan.eq_some_of_faults one
  have finished : (e.driveFrom w a).result = .ok (x.apply (e.finishUpdate a.progress status error)) := by
    rw [Engine.driveFrom_of_closes closes, Engine.finish_of_runs he h.runs]
    rfl
  have ends : (x.apply (e.finishUpdate a.progress status error)).status.isTerminal = true := by
    cases closes <;> rfl
  rw [Engine.faulty_finish_of_some _ _ _ fails]
  exact ⟨rfl, _, x, finished, h.id_eq, h.id_eq, h.store, .ending fails ends h.running rfl⟩

section Step

variable {left : Nat} {stepId : String} {last : Verdict} {p : Progress MemoryStore} {s : Step}

/-- The record of a step is not kept. -/
theorem breaksOff_recording (he : e.InMemory mint)
    (h : Working w limit world id before ⟨left + 1, some stepId, last, p⟩ x)
    (counted : before.tally = .ofRecords before.records) (fails : plan calls .append = some cause)
    (one : plan.faults ((e.faulty plan).abandon cause
      ((e.performed s p).withCalls (.append :: calls))).progress.world.store.calls =
        fault :: plan.faults calls) :
    let ended := (e.faulty plan).abandon cause ((e.performed s p).withCalls (.append :: calls))
    BreaksOff plan fault world.store id (e.driveFrom w ⟨left + 1, some stepId, last, p⟩).result
      ended.result ended.progress.world.store := by
  have performed : Working w limit world id before
      ⟨left + 1, some stepId, last, e.performed s p⟩ x :=
    ⟨h.executionId, h.store, h.id_eq, h.running, h.grown⟩
  obtain ⟨z, completes⟩ := h.drive_completes he
  obtain ⟨rfl, result, calls_eq, y, store, id_eq, recovered, -⟩ :=
    performed.recovers he counted (FaultPlan.faults_of_some fails) one
  refine ⟨result, z, y, completes.result, completes.id_eq, id_eq, store, ?_⟩
  rw [calls_eq]
  exact .recording fails recovered

/-- A step was recorded that blocks, and that the run waits is not kept. -/
theorem breaksOff_waiting (he : e.InMemory mint)
    (h : Working w limit world id before ⟨left + 1, some stepId, last, p⟩ x)
    (counted : before.tally = .ofRecords before.records) (found : w.find? stepId = some s)
    (blocks : (e.outcomeOf s p).blocking = true)
    (one : plan.faults ((e.faulty plan).pause s.id
      ((e.advance s p x).withCalls calls)).progress.world.store.calls = fault :: plan.faults calls) :
    let ended := (e.faulty plan).pause s.id ((e.advance s p x).withCalls calls)
    BreaksOff plan fault world.store id (e.driveFrom w ⟨left + 1, some stepId, last, p⟩).result
      ended.result ended.progress.world.store := by
  have advanced := h.advanced (e := e) found none .initial
  cases fails : plan calls .update with
  | none =>
    rw [Engine.faulty_pause_of_runs he advanced.runs _ fails] at one
    have none : plan.faults (.update :: calls) = fault :: plan.faults calls := one
    rw [FaultPlan.faults_of_none fails] at none
    exact absurd none.symm (List.cons_ne_self _ _)
  | some cause =>
    rw [Engine.faulty_pause_of_some _ _ fails] at one ⊢
    obtain ⟨rfl, result, calls_eq, y, store, id_eq, recovered, records⟩ :=
      advanced.recovers he counted (FaultPlan.faults_of_some fails) one
    have waits : (e.driveFrom w ⟨left + 1, some stepId, last, p⟩).result =
        .ok ((e.grown s p x).apply (Engine.waitUpdate (e.advance s p x) s.id)) := by
      rw [Engine.driveFrom_of_blocks found (Engine.dispatch_of_runs he h.runs) blocks,
        Engine.pause_of_runs he advanced.runs]
      rfl
    refine ⟨result, _, y, waits, h.id_eq, id_eq, store, ?_⟩
    rw [calls_eq]
    exact .waiting fails rfl recovered records

end Step

/-- A fault breaks a run off at the stage where the store has it. -/
theorem breaksOff_of_ends {ended : Ended (FaultyStore MemoryStore)} (he : e.InMemory mint)
    (h : Working w limit world id before a x) (counted : before.tally = .ofRecords before.records)
    (ends : (e.faulty plan).Ends w (a.withCalls calls) ended)
    (one : plan.faults ended.progress.world.store.calls = fault :: plan.faults calls) :
    BreaksOff plan fault world.store id (e.driveFrom w a).result ended.result
      ended.progress.world.store := by
  obtain ⟨left, next, last, p⟩ := a
  generalize start : Stage.withCalls calls ⟨left, next, last, p⟩ = a at ends
  cases ends with
  | closed closes =>
    subst start
    exact h.breaksOff_ending he (Engine.closes_of_faulty closes) one
  | @faulted left stepId last _ q s cause found dispatched =>
    cases start
    cases fails : plan calls .append with
    | none =>
      rw [Engine.faulty_dispatch_of_none s p fails, Engine.dispatch_of_runs he h.runs] at dispatched
      cases dispatched
    | some cause =>
      rw [Engine.faulty_dispatch_of_some s p fails] at dispatched
      cases dispatched
      exact h.breaksOff_recording he counted fails one
  | @paused left stepId last _ q s o found dispatched blocks =>
    cases start
    obtain ⟨kept, q', inner, rfl⟩ := Engine.dispatch_of_faulty dispatched
    rw [Engine.dispatch_of_runs he h.runs] at inner
    cases inner
    rw [← FaultPlan.faults_of_none kept] at one
    exact h.breaksOff_waiting he counted found blocks one

/-- **A run that has one fault is broken off by it.** -/
theorem breaksOff (he : e.InMemory mint) (h : Working w limit world id before a x)
    (counted : before.tally = .ofRecords before.records)
    (one : plan.faults ((e.faulty plan).driveFrom w
      (a.withCalls calls)).progress.world.store.calls = fault :: plan.faults calls) :
    let ended := (e.faulty plan).driveFrom w (a.withCalls calls)
    BreaksOff plan fault world.store id (e.driveFrom w a).result ended.result
      ended.progress.world.store := by
  obtain ⟨b, passes, ends⟩ := (e.faulty plan).drive_course (w := w) (a.withCalls calls)
  obtain ⟨b, calls', rfl, course, faultless⟩ := Engine.course_of_faulty passes
  obtain ⟨y, working⟩ := Engine.passes_rule he (I := Working w limit world id before)
    (fun h => h.runs) (fun h found _ => h.next found) h course
  rw [Engine.driveFrom_of_course course]
  rw [← faultless] at one
  exact working.breaksOff_of_ends he counted ends one

end Faults

end Working

/-! ## Calls with a fault -/

section Calls

variable {mint : Nat → String} {e : Engine MemoryStore} {plan : FaultPlan} {fault : EngineError}
  {world : World MemoryStore} {calls : List StoreCall}

theorem run_breaksOff (world : World MemoryStore) (he : e.InMemory mint) (w : Definition) (r : Request)
    (one : plan.faults ((e.faulty plan).run w r (world.withCalls calls)).2.store.calls =
      fault :: plan.faults (.create :: calls)) :
    let called := (e.faulty plan).run w r (world.withCalls calls)
    BreaksOff plan fault world.store (mint world.minted) (e.run w r world).1 called.1
      called.2.store := by
  unfold Engine.run at one ⊢
  rcases Engine.faulty_runThrough plan calls world he w r with ends | ⟨driven, twin⟩
  · dsimp only at one
    rw [ends] at one
    exact absurd one.symm (List.cons_ne_self _ _)
  · have working : Working w e.limit world (e.mint world.minted) _ (e.firstStage w r world) _ :=
      working_firstStage r
    dsimp only at one ⊢
    rw [driven] at one ⊢
    rw [twin, ← he.mint]
    exact working.breaksOff he rfl one

theorem resume_breaksOff {id : String} (he : e.InMemory mint) (passed : Bool) (data : Option Object)
    (counted : world.store.Counted)
    (one : plan.faults ((e.faulty plan).resume id passed data (world.withCalls calls)).2.store.calls =
      fault :: plan.faults (.update :: calls)) :
    let called := (e.faulty plan).resume id passed data (world.withCalls calls)
    BreaksOff plan fault world.store id (e.resume id passed data world).1 called.1
      called.2.store := by
  dsimp only
  rcases Engine.faulty_resume plan calls world he id passed data with
    refused | unclaimed | ⟨x, w, stepId, resumable, driven⟩
  · rw [refused] at one
    have fewer := congrArg List.length one
    rw [FaultPlan.faults, List.length_cons, List.length_append] at fewer
    omega
  · rw [unclaimed] at one
    exact absurd one.symm (List.cons_ne_self _ _)
  · obtain ⟨own, counted⟩ := counted id x resumable.stored resumable.paused
    have working : Working w e.limit world id x (Engine.decidedStage x stepId passed data e w id world) _ :=
      working_decidedStage own passed data
    rw [driven] at one ⊢
    unfold Engine.resume
    rw [Engine.resumeThrough_of_resumable passed data he resumable]
    exact working.breaksOff he counted one

end Calls

/-- **The one fault of a call breaks it off.** A call of `run` or `resume` in which the store has one fault,
after the execution was created or the decision was taken, gives that fault. Its execution is marked as
failed by it, unless it is the end of the run that was not kept.

What is asked of the store before a decision holds in every reachable world, and calls keep it, with a fault or
without. -/
theorem fault_aftermath (mint : Nat → String) (e : Engine MemoryStore) (plan : FaultPlan)
    (fault : EngineError) (world : World MemoryStore) (calls : List StoreCall) (he : e.InMemory mint) :
    (∀ w r,
      let called := (e.faulty plan).run w r (world.withCalls calls)
      plan.faults called.2.store.calls = fault :: plan.faults (.create :: calls) →
        BreaksOff plan fault world.store (mint world.minted) (e.run w r world).1 called.1
          called.2.store) ∧
    (∀ id passed data, world.store.Counted →
      let called := (e.faulty plan).resume id passed data (world.withCalls calls)
      plan.faults called.2.store.calls = fault :: plan.faults (.update :: calls) →
        BreaksOff plan fault world.store id (e.resume id passed data world).1 called.1
          called.2.store) :=
  ⟨fun w r one => run_breaksOff world he w r one,
    fun _ passed data counted one => resume_breaksOff he passed data counted one⟩

namespace Sample

def offline : EngineError := .config "offline"

/-- The call of the store fails that comes after `n` others. -/
def fails (n : Nat) : FaultPlan := fun before _ => if before.length = n then some offline else none

/-- A call that runs a workflow, in which a call of the store fails. -/
def running (n : Nat) (w : Definition) : Except EngineError Execution × World (FaultyStore MemoryStore) :=
  (engine.faulty (fails n)).run w request (start.withCalls [])

/-- A call that takes the decision on the review, in which a call of the store fails. -/
def deciding (n : Nat) : Except EngineError Execution × World (FaultyStore MemoryStore) :=
  (engine.faulty (fails n)).resume (mint 0) true none (reviewing.withCalls [])

/-- A workflow with one step, which passes. -/
def walkover : Definition := { Definition.new "ship" "Ship" with steps := [Step.new "ship" .pass] }

end Sample

/-- In the sample, the execution is marked as failed where it cannot be left waiting for the review, and
where the record of the sign-off is not kept. -/
theorem aftermath_signing :
    ((Sample.running 2 Sample.workflow).1 = .error Sample.offline ∧
      ∃ x, (Sample.running 2 Sample.workflow).2.store.inner.executions.get? (Sample.mint 0) = some x ∧
        x.records.length = 1 ∧ x.Recovered Sample.offline) ∧
    ((Sample.deciding 1).1 = .error Sample.offline ∧
      ∃ x, (Sample.deciding 1).2.store.inner.executions.get? (Sample.mint 0) = some x ∧
        x.records.length = 1 ∧ x.Recovered Sample.offline) := by
  constructor
  · have one : (Sample.fails 2).faults (Sample.running 2 Sample.workflow).2.store.calls =
        [Sample.offline] := by decide +kernel
    have breaks := (fault_aftermath Sample.mint Sample.engine (Sample.fails 2) Sample.offline
      Sample.start [] Sample.inMemory).1 Sample.workflow Sample.request one
    have seen : ((Sample.running 2 Sample.workflow).2.store.inner.executions.get? (Sample.mint 0)).map
        (fun x => (x.status, x.records.length)) = some (.failed, 1) := by decide +kernel
    obtain ⟨x, stored, fields⟩ := Option.map_eq_some_iff.1 seen
    obtain ⟨status, length⟩ := Prod.mk.inj fields
    exact ⟨breaks.result, x, stored, length, breaks.recovered stored (by rw [status]; decide)⟩
  · have one : (Sample.fails 1).faults (Sample.deciding 1).2.store.calls = [Sample.offline] := by
      decide +kernel
    have counted := (Sample.reachable_reviewing.sound Sample.mint_injective).counted
    have breaks := (fault_aftermath Sample.mint Sample.engine (Sample.fails 1) Sample.offline
      Sample.reviewing [] Sample.inMemory).2 (Sample.mint 0) true none counted one
    have seen : ((Sample.deciding 1).2.store.inner.executions.get? (Sample.mint 0)).map
        (fun x => (x.status, x.records.length)) = some (.failed, 1) := by decide +kernel
    obtain ⟨x, stored, fields⟩ := Option.map_eq_some_iff.1 seen
    obtain ⟨status, length⟩ := Prod.mk.inj fields
    exact ⟨breaks.result, x, stored, length, breaks.recovered stored (by rw [status]; decide)⟩

/-- **A fault can leave an execution running.** In the sample, it keeps the end of a run from being kept,
and the execution is stored as running, with one record and no step counted. -/
theorem fault_strands : (Sample.running 2 Sample.walkover).1 = .error Sample.offline ∧
    (Sample.fails 2).faults (Sample.running 2 Sample.walkover).2.store.calls = [Sample.offline] ∧
    (Sample.running 2 Sample.walkover).2.store.calls = [.update, .append, .create] ∧
    ∃ x, (Sample.running 2 Sample.walkover).2.store.inner.executions.get? (Sample.mint 0) = some x ∧
      x.status = .running ∧ x.finishedAt = none ∧ x.error = none ∧ x.successes = 0 ∧
      x.records.length = 1 := by
  have one : (Sample.fails 2).faults (Sample.running 2 Sample.walkover).2.store.calls =
      [Sample.offline] := by decide +kernel
  have calls : (Sample.running 2 Sample.walkover).2.store.calls = [.update, .append, .create] := by
    decide +kernel
  have breaks := run_breaksOff Sample.start Sample.inMemory Sample.walkover Sample.request one
  have seen : ((Sample.running 2 Sample.walkover).2.store.inner.executions.get? (Sample.mint 0)).map
      (fun x => (x.status, x.finishedAt, x.error, x.successes, x.records.length)) =
        some (.running, none, none, 0, 1) := by decide +kernel
  obtain ⟨x, stored, fields⟩ := Option.map_eq_some_iff.1 seen
  simp only [Prod.mk.injEq] at fields
  exact ⟨breaks.result, one, calls, x, stored, fields⟩

end Workflows

import Workflows.Proofs.Engine.Lifecycle
import Workflows.Proofs.Engine.Working

/-!
# Decisions that are refused

A decision is refused for the first reason there is, and then nothing happens. Where there is none, it is
taken, whatever else is stored and whatever the execution was before.

* `Refuses`: the reasons for which a decision is refused; `paused_eq_error_iff`;
* `Refuses.not_resumable`: an execution to which a decision can be brought gives no reason;
* **`resume_contract`**: a call of `resume` is refused for these reasons only, and changes nothing then; in
  every other case it gives the execution that is stored afterwards, which is not running.
-/

namespace Workflows

/-- Why a decision on the execution `id` is refused: for the first reason there is. -/
inductive Refuses (s : MemoryStore) (id : String) : EngineError → Prop
  | unknown (unknown : s.executions.get? id = none) : Refuses s id (.executionNotFound id)
  | unpaused {x : Execution} (stored : s.executions.get? id = some x) (unpaused : x.status ≠ .paused) :
      Refuses s id (.notPaused id x.status)
  | unregistered {x : Execution} (stored : s.executions.get? id = some x) (paused : x.status = .paused)
      (unregistered : s.workflows.get? x.workflowId = none) :
      Refuses s id (.workflowNotFound x.workflowId)
  | uncursored {x : Execution} {w : Definition} (stored : s.executions.get? id = some x)
      (paused : x.status = .paused) (registered : s.workflows.get? x.workflowId = some w)
      (uncursored : x.currentStep = none) : Refuses s id (.missingCursor id)

/-- An execution after a call with at most `limit` steps: the further records are counted, where the counts
have room for that many. -/
structure Execution.Counts (limit : Nat) (x z : Execution) : Prop where
  records : ∃ new, z.records = x.records ++ new ∧ new.length ≤ limit ∧
    (x.successes.toNat + limit < UInt32.size → x.failures.toNat + limit < UInt32.size →
      z.successes.toNat = x.successes.toNat + new.countP (·.passed) ∧
      z.failures.toNat = x.failures.toNat + new.countP fun r => !r.passed)

section

variable {mint : Nat → String} {e : Engine MemoryStore} {s : MemoryStore} {world : World MemoryStore}
  {id : String} {fault : EngineError}

namespace Engine

theorem paused_eq_error_iff (he : e.InMemory mint) :
    e.paused id s = .error fault ↔ Refuses s id fault := by
  rw [paused_eq he]
  constructor
  · intro h
    split at h
    · cases h
      exact .unknown ‹_›
    · next x stored =>
      split at h
      · next paused =>
        split at h
        · cases h
          exact .unregistered stored paused ‹_›
        · cases h
          exact .uncursored stored paused ‹_› ‹_›
        · cases h
      · cases h
        exact .unpaused stored ‹_›
  · intro h
    cases h with
    | unknown unknown => rw [unknown]
    | unpaused stored unpaused =>
      rw [stored]
      exact if_neg unpaused
    | unregistered stored paused unregistered =>
      rw [stored]
      simp only [paused, unregistered, if_true]
    | uncursored stored paused registered uncursored =>
      rw [stored]
      simp only [paused, registered, uncursored, if_true]

end Engine

/-- An execution to which a decision can be brought gives no reason to refuse it. -/
theorem Refuses.not_resumable {x : Execution} {w : Definition} {stepId : String}
    (refuses : Refuses s id fault) : ¬ Resumable s id x w stepId := by
  intro resumable
  have stored := resumable.stored
  cases refuses with
  | unknown unknown =>
    rw [unknown] at stored
    cases stored
  | unpaused stored' unpaused =>
    rw [stored'] at stored
    cases stored
    exact unpaused resumable.paused
  | unregistered stored' _ unregistered =>
    rw [stored'] at stored
    cases stored
    have registered := resumable.registered
    rw [unregistered] at registered
    cases registered
  | uncursored stored' _ _ uncursored =>
    rw [stored'] at stored
    cases stored
    have cursor := resumable.cursor
    rw [uncursored] at cursor
    cases cursor

theorem resume_of_refuses (he : e.InMemory mint) (passed : Bool) (data : Option Object)
    (refuses : Refuses world.store id fault) :
    e.resume id passed data world = (.error fault, world) := by
  unfold Engine.resume
  rw [Engine.resumeThrough_of_refused passed data ((Engine.paused_eq_error_iff he).2 refuses)]

/-- **A decision that can be brought to an execution is taken.** -/
theorem resume_of_resumable {x : Execution} {w : Definition} {stepId : String}
    (he : e.InMemory mint) (own : x.id = id) (passed : Bool) (data : Option Object)
    (resumable : Resumable world.store id x w stepId) :
    ∃ ended z, Completes e.limit world id x ended z ∧
      e.resume id passed data world = (.ok z, ended.progress.world) := by
  have working : Working w e.limit world id x (Engine.decidedStage x stepId passed data e w id world) _ :=
    working_decidedStage own passed data
  obtain ⟨z, completes⟩ := working.drive_completes he
  refine ⟨_, z, completes, ?_⟩
  unfold Engine.resume
  rw [Engine.resumeThrough_of_resumable passed data he resumable]
  dsimp only
  rw [completes.result]

theorem Completes.counts {limit : Nat} {x z : Execution} {ended : Ended MemoryStore}
    (completes : Completes limit world id x ended z) : x.Counts limit z := by
  obtain ⟨new, records, within, tally⟩ := completes.grown
  refine ⟨new, records, within, fun successes failures => ?_⟩
  obtain ⟨passed, failed⟩ := x.tally.toNat_after new
    (Nat.lt_of_le_of_lt (Nat.add_le_add_left within _) successes)
    (Nat.lt_of_le_of_lt (Nat.add_le_add_left within _) failures)
  rw [← tally] at passed failed
  exact ⟨passed, failed⟩

end

/-- **What a decision on an execution comes to.** It is refused for exactly the reasons there are, and then
nothing changes, neither in the stores nor in what was handed to the outside world. In every other case the
call gives the execution that is stored afterwards, which is not running; its further records are counted.

Nothing is asked of the execution but that it is stored under its own id. -/
theorem resume_contract (mint : Nat → String) (e : Engine MemoryStore) (world : World MemoryStore)
    (id : String) (passed : Bool) (data : Option Object) (he : e.InMemory mint)
    (own : ∀ x, world.store.executions.get? id = some x → x.id = id) :
    (∀ fault, (e.resume id passed data world).1 = .error fault ↔ Refuses world.store id fault) ∧
    (∀ fault, Refuses world.store id fault → (e.resume id passed data world).2 = world) ∧
    ((∀ fault, ¬ Refuses world.store id fault) →
      ∃ x z, world.store.executions.get? id = some x ∧
        (e.resume id passed data world).1 = .ok z ∧
        e.repository.get id (e.resume id passed data world).2.store = .ok (some z) ∧
        (z.status = .paused ∨ z.status = .succeeded ∨ z.status = .failed) ∧
        x.Counts e.limit z) := by
  cases paused : e.paused id world.store with
  | error fault =>
    have refuses := (Engine.paused_eq_error_iff he).1 paused
    have called := resume_of_refuses he passed data refuses
    refine ⟨fun fault' => ⟨fun h => ?_, fun h => ?_⟩, fun _ _ => by rw [called], fun h => ?_⟩
    · rw [called] at h
      cases h
      exact refuses
    · rw [resume_of_refuses he passed data h]
    · exact absurd refuses (h fault)
  | ok found =>
    obtain ⟨x, w, stepId⟩ := found
    have resumable := (Engine.paused_eq_ok_iff he).1 paused
    obtain ⟨ended, z, completes, called⟩ :=
      resume_of_resumable he (own x resumable.stored) passed data resumable
    refine ⟨fun fault => ⟨fun h => ?_, fun h => ?_⟩, fun fault h => ?_, fun _ => ?_⟩
    · rw [called] at h
      cases h
    · exact absurd resumable h.not_resumable
    · exact absurd resumable h.not_resumable
    · refine ⟨x, z, resumable.stored, by rw [called], ?_, completes.status, completes.counts⟩
      rw [called, he.repository]
      change Except.ok (ended.progress.world.store.executions.get? id) = _
      rw [completes.store, MemoryStore.get?_set, if_pos rfl]

namespace Sample

/-- An execution that no run has left behind: it waits for a decision on a step that the workflow does not
have, and counts steps that it has no records of. -/
def orphan : Execution :=
  { Engine.newExecution workflow request "build-7" ⟨0, 0⟩ with
    status := .paused, currentStep := some "gone", successes := 3 }

/-- A world in which only that execution is stored. -/
def orphaned : World MemoryStore := .start ((MemoryStore.empty.register workflow).set "build-7" orphan)

theorem resumable_orphan : Resumable orphaned.store "build-7" orphan workflow "gone" :=
  ⟨by decide +kernel, rfl, by decide +kernel, rfl⟩

end Sample

/-- In the sample, a decision on a step that the workflow does not have is taken too, and ends the
execution. -/
theorem contract_orphan : ∃ z,
    (Sample.engine.resume "build-7" true none Sample.orphaned).1 = .ok z ∧
    Sample.engine.repository.get "build-7"
      (Sample.engine.resume "build-7" true none Sample.orphaned).2.store = .ok (some z) ∧
    z.error = some "Step not found: gone" ∧ z.successes.toNat = 3 := by
  have stored := Sample.resumable_orphan.stored
  obtain ⟨x, z, found, result, kept, -, counts⟩ := (resume_contract Sample.mint Sample.engine
    Sample.orphaned "build-7" true none Sample.inMemory
    (fun x found => by rw [stored] at found; cases found; rfl)).2.2
      fun _ refuses => refuses.not_resumable Sample.resumable_orphan
  have seen : (Sample.engine.resume "build-7" true none Sample.orphaned).1.toOption.map
      (fun z => (z.error, z.records)) = some (some "Step not found: gone", []) := by decide +kernel
  rw [result] at seen
  obtain ⟨error, empty⟩ := Prod.mk.inj (Option.some.inj seen)
  rw [stored] at found
  cases found
  obtain ⟨new, records, -, counted⟩ := counts.records
  obtain ⟨successes, -⟩ := counted (by decide) (by decide)
  rw [empty] at records
  obtain ⟨-, rfl⟩ := List.append_eq_nil_iff.1 records.symm
  exact ⟨z, result, kept, error, successes⟩

end Workflows

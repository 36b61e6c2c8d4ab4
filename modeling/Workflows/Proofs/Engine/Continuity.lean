import Workflows.Proofs.Engine.Lifecycle

/-!
# What a pause keeps

* `Recalls`: what is stored of a run says all that the run knew, so that any engine goes on where it
  stopped;
* `Settles.recalls`: that is so when a call has left the execution at rest;
* **`calls_recall`**: that is so at the end of every call in a reachable world.
-/

namespace Workflows

/-- What is stored of a run says all that the run knew. -/
structure Recalls (p : Progress MemoryStore) (x : Execution) : Prop where
  stored : p.world.store.executions.get? p.ctx.executionId = some x
  restored : Context.restore x = p.ctx
  /-- A later call, of this or of another engine, goes on with what the run knew and the decision. -/
  resumed : ∀ {mint : Nat → String} {e : Engine MemoryStore} {world : World MemoryStore}
    {w : Definition} {stepId : String} (passed : Bool) (data : Option Object), e.InMemory mint →
      Resumable world.store p.ctx.executionId x w stepId →
        ∃ q : Progress MemoryStore, q.ctx = p.ctx.decide stepId passed data ∧
          e.resumeThrough p.ctx.executionId passed data world =
            let ended := e.proceed w stepId passed data q
            (ended.result, ended.progress.world, some ended.progress)

section

variable {mint : Nat → String} {world : World MemoryStore} {id : String} {x : Execution}

theorem Settles.executionId_eq {ended : Ended MemoryStore} (h : Settles mint world id ended x) :
    ended.progress.ctx.executionId = id := by
  rw [← h.known]
  exact h.id_eq

theorem Settles.recalls {ended : Ended MemoryStore} (h : Settles mint world id ended x) :
    Recalls ended.progress x where
  stored := by rw [h.store, h.executionId_eq, MemoryStore.get?_set, if_pos rfl]
  restored := h.known
  resumed {_ e later w stepId} passed data he resumable := by
    refine ⟨Engine.claimedProgress x stepId passed data ended.progress.ctx.executionId later, ?_, ?_⟩
    · rw [← h.known]
      rfl
    · rw [Engine.proceed_eq_driveFrom]
      exact Engine.resumeThrough_of_resumable passed data he resumable

end

/-- **What is stored at the end of a call says all that its run knew.** -/
theorem calls_recall (mint : Nat → String) (world : World MemoryStore) (e : Engine MemoryStore)
    (injective : mint.Injective) (he : e.InMemory mint) (reachable : Reachable mint world) :
    (∀ w r, ∃ x, (e.runThrough w r world).result = .ok x ∧
      Recalls (e.runThrough w r world).progress x) ∧
    ∀ id passed data p, (e.resumeThrough id passed data world).2.2 = some p →
      ∃ x, e.resumeThrough id passed data world = (.ok x, p.world, some p) ∧ x.id = id ∧
        Recalls p x := by
  have sound := reachable.sound injective
  constructor
  · intro w r
    obtain ⟨x, settles⟩ := sound.run_settles injective he w r
    exact ⟨x, settles.result, settles.recalls⟩
  · intro id passed data p
    have decides := sound.resume_decides injective he id passed data
    generalize e.resumeThrough id passed data world = called at decides ⊢
    cases decides with
    | refused =>
      intro went
      cases went
    | @taken _ x _ _ _ ended takes =>
      have settles := takes.settles
      intro went
      cases went
      exact ⟨x, by rw [settles.result], settles.id_eq, settles.recalls⟩

/-- In the sample, the resumed run stops at the second approval and leaves behind all that it knew. -/
theorem recalls_signing : ∃ x p, Sample.engine.resumeThrough (Sample.mint 0) true none
    Sample.reviewing = (.ok x, p.world, some p) ∧ x.status = .paused ∧ Recalls p x := by
  have went : (Sample.engine.resumeThrough (Sample.mint 0) true none
      Sample.reviewing).2.2.isSome = true := by decide +kernel
  have status : (Sample.engine.resumeThrough (Sample.mint 0) true none
      Sample.reviewing).1.toOption.map (·.status) = some .paused := by decide +kernel
  obtain ⟨p, went⟩ := Option.isSome_iff_exists.1 went
  obtain ⟨x, called, -, recalls⟩ := (calls_recall Sample.mint Sample.reviewing Sample.engine
    Sample.mint_injective Sample.inMemory Sample.reachable_reviewing).2 _ _ _ p went
  rw [called] at status
  exact ⟨x, p, called, Option.some.inj status, recalls⟩

end Workflows

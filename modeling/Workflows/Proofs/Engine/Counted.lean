import Workflows.Proofs.Engine.Refusal

/-!
# Stores whose paused executions are counted

What a decision needs so that the counts of its run are those of the records, kept by every call.

* `MemoryStore.Counted`: the paused executions have their records counted; `Counted.set`;
* `Sound.counted`: that is so in a reachable world;
* **`run_counted`**, **`resume_counted`**: a call keeps it, whatever else is stored.
-/

namespace Workflows

/-- Every paused execution is stored under its id, and its records are counted. -/
def MemoryStore.Counted (s : MemoryStore) : Prop :=
  ∀ id x, s.executions.get? id = some x → x.status = .paused → x.id = id ∧ x.tally = .ofRecords x.records

theorem MemoryStore.Counted.set {s : MemoryStore} {id : String} {x : Execution} (h : s.Counted)
    (own : x.status = .paused → x.id = id ∧ x.tally = .ofRecords x.records) : (s.set id x).Counted := by
  intro id' y stored paused
  rw [MemoryStore.get?_set] at stored
  split at stored
  · next same =>
    cases stored
    exact same ▸ own paused
  · exact h id' y stored paused

theorem Completes.counted {limit : Nat} {world : World MemoryStore} {id : String} {x z : Execution}
    {ended : Ended MemoryStore} (completes : Completes limit world id x ended z)
    (h : world.store.Counted) (counted : x.tally = .ofRecords x.records) :
    ended.progress.world.store.Counted := by
  rw [completes.store]
  refine h.set fun _ => ⟨completes.id_eq, ?_⟩
  obtain ⟨new, records, -, tally⟩ := completes.grown
  rw [records, Tally.ofRecords_append, ← counted, tally]

/-- That is so in a reachable world. -/
theorem Sound.counted {mint : Nat → String} {world : World MemoryStore} (sound : Sound mint world) :
    world.store.Counted := fun id x stored _ =>
  have ⟨own, rests⟩ := sound id x stored
  ⟨own, rests.tally⟩

section

variable {mint : Nat → String} {e : Engine MemoryStore} {world : World MemoryStore}

theorem run_counted (he : e.InMemory mint) (w : Definition) (r : Request) (h : world.store.Counted) :
    (e.run w r world).2.store.Counted := by
  change (e.runThrough w r world).progress.world.store.Counted
  cases stored : world.store.executions.get? (mint world.minted) with
  | some x =>
    rw [Engine.runThrough_store_of_error (Engine.create_of_stored he stored)]
    exact h
  | none =>
    obtain ⟨z, completes⟩ := (working_firstStage (e := e) (w := w) r).drive_completes he
    rw [Engine.runThrough_of_fresh he stored]
    exact completes.counted h rfl

theorem resume_counted (he : e.InMemory mint) (id : String) (passed : Bool) (data : Option Object)
    (h : world.store.Counted) : (e.resume id passed data world).2.store.Counted := by
  cases paused : e.paused id world.store with
  | error fault =>
    rw [resume_of_refuses he passed data ((Engine.paused_eq_error_iff he).1 paused)]
    exact h
  | ok found =>
    obtain ⟨x, w, stepId⟩ := found
    have resumable := (Engine.paused_eq_ok_iff he).1 paused
    obtain ⟨own, counted⟩ := h id x resumable.stored resumable.paused
    obtain ⟨ended, z, completes, called⟩ := resume_of_resumable he own passed data resumable
    rw [called]
    exact completes.counted h counted

end

end Workflows

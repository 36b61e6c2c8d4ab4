import Workflows.Proofs.Engine.Calls

/-!
# Runs on stores of any content

What is true of a run at every stage, and of its execution when the run has left it, whatever is stored
besides and whatever the execution was before.

* `Tally.after`: a tally after further records; `toNat_after`;
* `Working`: the invariant of such a run; `Working.next`, `Working.advanced`: a step keeps it;
* `Completes`: a call has left the running state, and nothing else has changed in the store;
* **`Working.drive_completes`**: a run comes to its end without an error;
* `working_firstStage`, `working_decidedStage`: the invariant holds where calls start.
-/

namespace Workflows

/-! ## Tallies -/

namespace Tally

variable (t : Tally) (rs qs : List StepRecord)

/-- A tally after further records. -/
def after : Tally :=
  ⟨t.successes + .ofNat (rs.countP (·.passed)), t.failures + .ofNat (rs.countP fun r => !r.passed)⟩

@[simp] theorem after_nil : t.after [] = t := by simp [after]

theorem after_concat (r : StepRecord) : t.after (rs ++ [r]) = (t.after rs).count r.passed := by
  cases h : r.passed <;> simp [after, count, h, UInt32.ofNat_add, UInt32.add_assoc]

theorem ofRecords_append : ofRecords (rs ++ qs) = (ofRecords rs).after qs := by
  simp [ofRecords, after, UInt32.ofNat_add]

/-- Counts with room for further records do not wrap around. -/
theorem toNat_after (successes : t.successes.toNat + rs.length < UInt32.size)
    (failures : t.failures.toNat + rs.length < UInt32.size) :
    (t.after rs).successes.toNat = t.successes.toNat + rs.countP (·.passed) ∧
      (t.after rs).failures.toNat = t.failures.toNat + rs.countP fun r => !r.passed := by
  have passed := List.countP_le_length (p := (·.passed)) (l := rs)
  have failed := List.countP_le_length (p := fun r => !r.passed) (l := rs)
  have size : UInt32.size = 2 ^ 32 := rfl
  simp only [after, UInt32.toNat_add, UInt32.toNat_ofNat']
  omega

end Tally

/-- The counts of an execution. -/
def Execution.tally (x : Execution) : Tally := ⟨x.successes, x.failures⟩

/-! ## The invariant -/

/-- A call made in `world` is at work on the execution `id`, which it found as `before`: the records since
then are counted, and nothing else has changed in the store. -/
structure Working (w : Definition) (limit : Nat) (world : World MemoryStore) (id : String)
    (before : Execution) (a : Stage MemoryStore) (x : Execution) : Prop where
  executionId : a.progress.ctx.executionId = id
  store : a.progress.world.store = world.store.set id x
  id_eq : x.id = id
  running : x.status = .running
  grown : ∃ new, x.records = before.records ++ new ∧ a.progress.tally = before.tally.after new ∧
    (new.length + a.left ≤ limit ∨ new = [] ∧ ∃ t, a.next = some t ∧ w.find? t = none)

/-- A call made in `world` has left the execution `id`, which it found as `before`, as `z`: with at most
`limit` further records, and not running. Nothing else has changed in the store. -/
structure Completes (limit : Nat) (world : World MemoryStore) (id : String) (before : Execution)
    (ended : Ended MemoryStore) (z : Execution) : Prop where
  result : ended.result = .ok z
  store : ended.progress.world.store = world.store.set id z
  id_eq : z.id = id
  status : z.status = .paused ∨ z.status = .succeeded ∨ z.status = .failed
  grown : ∃ new, z.records = before.records ++ new ∧ new.length ≤ limit ∧
    z.tally = before.tally.after new

namespace Working

variable {mint : Nat → String} {e : Engine MemoryStore} {w : Definition} {limit : Nat}
  {world : World MemoryStore} {id : String} {before x : Execution} {a : Stage MemoryStore}

theorem runs (h : Working w limit world id before a x) : a.progress.Runs x :=
  ⟨by rw [h.store, h.executionId, MemoryStore.get?_set, if_pos rfl], h.running⟩

section Step

variable {left : Nat} {stepId : String} {last : Verdict} {p : Progress MemoryStore} {s : Step}

/-- A further step is recorded and counted, and one less is left. -/
theorem advanced (h : Working w limit world id before ⟨left + 1, some stepId, last, p⟩ x)
    (found : w.find? stepId = some s) (next : Option String) (last' : Verdict) :
    Working w limit world id before ⟨left, next, last', e.advance s p x⟩ (e.grown s p x) where
  executionId := h.executionId
  store := by
    change p.world.store.set p.ctx.executionId _ = _
    rw [h.store, h.executionId, MemoryStore.set_set]
  id_eq := h.id_eq
  running := h.running
  grown := by
    obtain ⟨new, records, tally, within | ⟨-, t, next, missing⟩⟩ := h.grown
    · refine ⟨new ++ [e.recordOf s p], ?_, ?_, .inl ?_⟩
      · rw [← List.append_assoc, ← records]
        rfl
      · rw [Tally.after_concat, ← tally]
        rfl
      · rw [List.length_append, List.length_singleton]
        dsimp only at within ⊢
        omega
    · cases next
      rw [found] at missing
      cases missing

/-- **A step that lets the run go on keeps the invariant.** -/
theorem next (h : Working w limit world id before ⟨left + 1, some stepId, last, p⟩ x)
    (found : w.find? stepId = some s) :
    Working w limit world id before (e.nextStage left s p x) (e.grown s p x) :=
  h.advanced found _ _

end Step

/-- A change of the execution by which it leaves the running state completes the call. -/
theorem completes {u : StatusUpdate} (h : Working w limit world id before a x)
    (status : u.status = .paused ∨ u.status = .succeeded ∨ u.status = .failed)
    (tally : (⟨u.successes, u.failures⟩ : Tally) = a.progress.tally) :
    Completes limit world id before (a.progress.changed x u) (x.apply u) where
  result := rfl
  store := by
    change a.progress.world.store.set a.progress.ctx.executionId _ = _
    rw [h.store, h.executionId, MemoryStore.set_set]
  id_eq := h.id_eq
  status := status
  grown := by
    obtain ⟨new, records, counted, within⟩ := h.grown
    refine ⟨new, records, ?_, tally.trans counted⟩
    rcases within with within | ⟨rfl, -⟩
    · omega
    · exact Nat.zero_le _

theorem completes_finished {status : Status} {error : Option String}
    (h : Working w limit world id before a x)
    (left : status = .paused ∨ status = .succeeded ∨ status = .failed) :
    Completes limit world id before (e.finished a.progress x status error)
      (x.apply (e.finishUpdate a.progress status error)) := by
  have started : Working w limit world id before
      { a with progress := { a.progress with world := (e.now a.progress.world).2 } } x :=
    ⟨h.executionId, h.store, h.id_eq, h.running, h.grown⟩
  exact started.completes left rfl

theorem completes_of_leaves {ended : Ended MemoryStore} (h : Working w limit world id before a x)
    (leaves : e.Leaves w a x ended) : ∃ z, Completes limit world id before ended z := by
  cases leaves with
  | closed closes =>
    refine ⟨_, h.completes_finished ?_⟩
    cases closes <;> simp
  | paused found blocks =>
    exact ⟨_, (h.advanced found none .initial).completes (.inl rfl) rfl⟩

/-- **A run comes to its end without an error.** -/
theorem drive_completes (he : e.InMemory mint) (h : Working w limit world id before a x) :
    ∃ z, Completes limit world id before (e.driveFrom w a) z := by
  obtain ⟨b, y, working, leaves⟩ := Engine.drive_rule (w := w)
    (I := Working w limit world id before) he (fun h => h.runs) (fun h found _ => h.next found) h
  exact working.completes_of_leaves leaves

end Working

/-! ## Where calls start -/

section

variable {mint : Nat → String} {e : Engine MemoryStore} {w : Definition} {world : World MemoryStore}

theorem working_firstStage (r : Request) :
    Working w e.limit world (e.mint world.minted) (e.firstExecution w r world)
      (e.firstStage w r world) (e.firstExecution w r world) where
  executionId := rfl
  store := rfl
  id_eq := rfl
  running := rfl
  grown := ⟨[], (List.append_nil _).symm, (Tally.after_nil _).symm, .inl (Nat.le_of_eq (Nat.zero_add _))⟩

/-- Where the step that a decision is on is missing, no step is carried out. -/
theorem working_decidedStage {id stepId : String} {x : Execution} (own : x.id = id) (passed : Bool)
    (data : Option Object) :
    Working w e.limit world id x (Engine.decidedStage x stepId passed data e w id world)
      (Engine.claimed x stepId passed data) := by
  have grown : ∀ {a : Stage MemoryStore},
      a.progress = Engine.claimedProgress x stepId passed data id world →
        (a.left ≤ e.limit ∨ ∃ t, a.next = some t ∧ w.find? t = none) →
          Working w e.limit world id x a (Engine.claimed x stepId passed data) := by
    rintro ⟨left, next, last, p⟩ rfl within
    exact {
      executionId := own
      store := rfl
      id_eq := own
      running := rfl
      grown := ⟨[], (List.append_nil _).symm, (Tally.after_nil _).symm,
        within.imp (fun h => by simpa using h) fun h => ⟨rfl, h⟩⟩ }
  unfold Engine.decidedStage
  split
  · next missing => exact grown rfl (.inr ⟨stepId, rfl, missing⟩)
  · exact grown rfl (.inl (Nat.le_refl _))

end

end Workflows

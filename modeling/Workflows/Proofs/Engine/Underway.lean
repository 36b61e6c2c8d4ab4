import Workflows.Proofs.Engine.InMemory
import Workflows.Proofs.Execution.History

/-!
# Runs underway and executions at rest

What is true of a run at every stage, and of its execution when the run has left it.

* `Underway`: the invariant of a run: its execution is stored and running, and the run knows what can be
  restored from it and has counted its records;
* `Execution.Waits`, `Execution.Finished`, `Execution.Rests`: an execution that waits for a decision, that
  has come to its end, and that no run is working on;
* `Underway.next`: a step keeps the invariant;
* `Settles`: a call has left an execution at rest, and nothing else has changed in the store;
* **`Underway.drive_keeps`**: what steps and changes of status keep holds where the run ends;
* **`Underway.drive_settles`**: a run leaves its execution at rest, with a record that says all the run
  knew.
-/

namespace Workflows

variable {mint : Nat → String} {world : World MemoryStore} {id : String}

/-- The invariant of a run on the execution `id` in a call that was made in `world`. -/
structure Underway (mint : Nat → String) (world : World MemoryStore) (id : String)
    (a : Stage MemoryStore) (x : Execution) : Prop where
  executionId : a.progress.ctx.executionId = id
  store : a.progress.world.store = world.store.set id x
  minted : world.minted ≤ a.progress.world.minted
  made : ∃ k < a.progress.world.minted, id = mint k
  running : x.status = .running
  cursor : x.currentStep = none
  error : x.error = none
  finishedAt : x.finishedAt = none
  /-- The run knows what can be restored from the execution, and how its steps have left the entity. -/
  known : Context.restore x = { a.progress.ctx with entity := x.entity }
  tally : a.progress.tally = .ofRecords x.records
  recorded : x.Recorded mint a.progress.world.minted
  decided : x.DecidedOn x.records
  /-- A failure that may end the run has a reason. -/
  reasoned : a.last.passed = false → a.last.failure.isSome = true

/-- The execution waits for a decision on its last record, the first since those before were decided. -/
structure Execution.Waits (x : Execution) (earlier : List StepRecord) (r : StepRecord) : Prop where
  status : x.status = .paused
  records : x.records = earlier ++ [r]
  blocking : r.blocking = true
  passed : r.passed = true
  cursor : x.currentStep = some r.stepId
  error : x.error = none
  finishedAt : x.finishedAt = none
  decided : x.DecidedOn earlier

/-- The execution has come to its end. -/
structure Execution.Finished (x : Execution) : Prop where
  outcome : x.status = .succeeded ∧ x.error = none ∨ x.status = .failed ∧ x.error.isSome = true
  cursor : x.currentStep = none
  finishedAt : x.finishedAt.isSome = true
  decided : x.DecidedOn x.records

/-- No run is working on the execution. -/
structure Execution.Rests (mint : Nat → String) (n : Nat) (x : Execution) : Prop where
  made : ∃ k < n, x.id = mint k
  recorded : x.Recorded mint n
  tally : (⟨x.successes, x.failures⟩ : Tally) = .ofRecords x.records
  state : (∃ earlier r, x.Waits earlier r) ∨ x.Finished

theorem Execution.Rests.mono {n m : Nat} {x : Execution} (h : x.Rests mint n) (le : n ≤ m) :
    x.Rests mint m where
  made := by
    obtain ⟨k, hk, e⟩ := h.made
    exact ⟨k, by omega, e⟩
  recorded := h.recorded.mono le
  tally := h.tally
  state := h.state

/-- There is no decision yet on the record that an execution waits for. -/
theorem Execution.Waits.undecided {n : Nat} {x : Execution} {earlier : List StepRecord}
    {r : StepRecord} (waits : x.Waits earlier r) (rests : x.Rests mint n) :
    x.decisions.get? r.id = none := by
  rw [← Option.not_isSome_iff_eq_none, waits.decided]
  rintro ⟨q, hq, -, same⟩
  exact ne_of_distinct waits.records rests.recorded.distinct q hq same

/-- A call made in `world` has left the execution `id` at rest, as `z`, and nothing else has changed in
the store. -/
structure Settles (mint : Nat → String) (world : World MemoryStore) (id : String)
    (ended : Ended MemoryStore) (z : Execution) : Prop where
  result : ended.result = .ok z
  store : ended.progress.world.store = world.store.set id z
  minted : world.minted ≤ ended.progress.world.minted
  id_eq : z.id = id
  rests : z.Rests mint ended.progress.world.minted
  known : Context.restore z = ended.progress.ctx

namespace Underway

variable {a : Stage MemoryStore} {x : Execution} {e : Engine MemoryStore} {w : Definition}

theorem runs (h : Underway mint world id a x) : a.progress.Runs x :=
  ⟨by rw [h.store, h.executionId]; simp, h.running⟩

theorem id_eq (h : Underway mint world id a x) : x.id = id :=
  (congrArg Context.executionId h.known).trans h.executionId

theorem results_eq (h : Underway mint world id a x) : x.results = a.progress.ctx.results :=
  congrArg Context.results h.known

/-! ## A further step -/

section Step

variable {left : Nat} {stepId : String} {last : Verdict} {p : Progress MemoryStore} {s : Step}

/-- There is no decision on a record that is not made yet. -/
theorem undecided (injective : mint.Injective) (he : e.InMemory mint)
    (h : Underway mint world id ⟨left, some stepId, last, p⟩ x) :
    x.decisions.get? (e.recordOf s p).id = none := by
  rw [Engine.recordOf_id, he.mint]
  exact h.recorded.undecided injective h.decided

/-- What the run knows of the results of its steps is what its records say. -/
theorem grown_results (injective : mint.Injective) (he : e.InMemory mint)
    (h : Underway mint world id ⟨left, some stepId, last, p⟩ x) :
    (e.grown s p x).results = (e.advance s p x).ctx.results := by
  unfold Engine.grown
  rw [Execution.results_concat (h.undecided injective he), h.results_eq]
  rfl

theorem grown_known (injective : mint.Injective) (he : e.InMemory mint)
    (h : Underway mint world id ⟨left, some stepId, last, p⟩ x) :
    Context.restore (e.grown s p x) = { (e.advance s p x).ctx with entity := x.entity } := by
  calc Context.restore (e.grown s p x)
    _ = { Context.restore x with results := (e.grown s p x).results } := rfl
    _ = { { p.ctx with entity := x.entity } with results := (e.advance s p x).ctx.results } := by
      rw [h.known, h.grown_results injective he]
    _ = { (e.advance s p x).ctx with entity := x.entity } := rfl

theorem grown_recorded (injective : mint.Injective) (he : e.InMemory mint)
    (h : Underway mint world id ⟨left, some stepId, last, p⟩ x) :
    (e.grown s p x).Recorded mint (e.advance s p x).world.minted :=
  h.recorded.concat injective (by rw [Engine.recordOf_id, he.mint]) rfl

theorem grown_tally (h : Underway mint world id ⟨left, some stepId, last, p⟩ x) :
    (e.advance s p x).tally = .ofRecords (e.grown s p x).records := by
  unfold Engine.grown
  rw [Tally.ofRecords_concat, Engine.advance_tally, h.tally, Engine.recordOf_passed]

theorem made_next (h : Underway mint world id ⟨left, some stepId, last, p⟩ x) :
    ∃ k < p.world.minted + 1, id = mint k := by
  obtain ⟨k, hk, e⟩ := h.made
  exact ⟨k, Nat.lt_succ_of_lt hk, e⟩

/-- **A step that lets the run go on keeps the invariant.** -/
theorem next (injective : mint.Injective) (he : e.InMemory mint)
    (h : Underway mint world id ⟨left + 1, some stepId, last, p⟩ x)
    (free : (e.outcomeOf s p).blocking = false) :
    Underway mint world id (e.nextStage left s p x) (e.grown s p x) where
  executionId := h.executionId
  store := by
    change p.world.store.set p.ctx.executionId _ = _
    rw [h.store, h.executionId, MemoryStore.set_set]
  minted := Nat.le_succ_of_le h.minted
  made := h.made_next
  running := h.running
  cursor := h.cursor
  error := h.error
  finishedAt := h.finishedAt
  known := h.grown_known injective he
  tally := h.grown_tally
  recorded := h.grown_recorded injective he
  decided := h.decided.concat_free free
  reasoned := (e.outcomeOf_wellFormed s p).isSome_reason

end Step

/-! ## The end of a run -/

/-- A run that ends with a status and an error that fit leaves its execution at rest. -/
theorem settles_finished {status : Status} {error : Option String} (h : Underway mint world id a x)
    (outcome : status = .succeeded ∧ error = none ∨ status = .failed ∧ error.isSome = true) :
    Settles mint world id (e.finished a.progress x status error)
      (x.apply (e.finishUpdate a.progress status error)) :=
  have finished : (x.apply (e.finishUpdate a.progress status error)).Finished :=
    ⟨outcome, rfl, rfl, h.decided⟩
  { result := rfl
    store := by
      change a.progress.world.store.set a.progress.ctx.executionId _ = _
      rw [h.store, h.executionId, MemoryStore.set_set]
    minted := h.minted
    id_eq := h.id_eq
    rests := ⟨h.id_eq ▸ h.made, ⟨h.recorded.marked, h.recorded.minted, h.recorded.distinct⟩,
      h.tally, .inr finished⟩
    known := by
      change { Context.restore x with entity := a.progress.ctx.entity } = a.progress.ctx
      rw [h.known] }

/-- A step that blocks leaves the execution at rest, waiting for a decision on it. -/
theorem settles_paused {left : Nat} {stepId : String} {last : Verdict} {p : Progress MemoryStore}
    {s : Step} (injective : mint.Injective) (he : e.InMemory mint)
    (h : Underway mint world id ⟨left + 1, some stepId, last, p⟩ x)
    (blocks : (e.outcomeOf s p).blocking = true) :
    Settles mint world id
      ((e.advance s p x).changed (e.grown s p x) (Engine.waitUpdate (e.advance s p x) s.id))
      ((e.grown s p x).apply (Engine.waitUpdate (e.advance s p x) s.id)) :=
  have waits : ((e.grown s p x).apply (Engine.waitUpdate (e.advance s p x) s.id)).Waits x.records
      (e.recordOf s p) :=
    { status := rfl
      records := rfl
      blocking := blocks
      passed := (e.outcomeOf_wellFormed s p).passed_of_blocking blocks
      cursor := rfl
      error := rfl
      finishedAt := rfl
      decided := h.decided }
  have recorded := h.grown_recorded (s := s) injective he
  { result := rfl
    store := by
      change (p.world.store.set p.ctx.executionId _).set p.ctx.executionId _ = _
      rw [h.store, h.executionId, MemoryStore.set_set, MemoryStore.set_set]
    minted := Nat.le_succ_of_le h.minted
    id_eq := h.id_eq
    rests := ⟨h.id_eq ▸ h.made_next, ⟨recorded.marked, recorded.minted, recorded.distinct⟩,
      h.grown_tally, .inl ⟨_, _, waits⟩⟩
    known := by
      change { Context.restore (e.grown s p x) with entity := (e.advance s p x).ctx.entity } = _
      rw [h.grown_known injective he]
      rfl }

theorem outcome_of_closes {status : Status} {error : Option String} (h : Underway mint world id a x)
    (closes : e.Closes w a status error) :
    status = .succeeded ∧ error = none ∨ status = .failed ∧ error.isSome = true := by
  cases closes with
  | succeeded => exact .inl ⟨rfl, rfl⟩
  | failed failed => exact .inr ⟨rfl, h.reasoned failed⟩
  | exhausted => exact .inr ⟨rfl, rfl⟩
  | missing => exact .inr ⟨rfl, rfl⟩

/-- **What every step of a run keeps, on top of the invariant, holds where the run ends.** -/
theorem drive_rule {J : Stage MemoryStore → Execution → Prop} (injective : mint.Injective)
    (he : e.InMemory mint)
    (step : ∀ {left stepId last p x s}, Underway mint world id ⟨left + 1, some stepId, last, p⟩ x →
      J ⟨left + 1, some stepId, last, p⟩ x → w.find? stepId = some s →
        (e.outcomeOf s p).blocking = false → J (e.nextStage left s p x) (e.grown s p x))
    (h : Underway mint world id a x) (hJ : J a x) :
    ∃ b y, Underway mint world id b y ∧ J b y ∧ e.Leaves w b y (e.driveFrom w a) := by
  obtain ⟨b, y, ⟨hb, hJ⟩, leaves⟩ := Engine.drive_rule (w := w)
    (I := fun a x => Underway mint world id a x ∧ J a x) he (fun h => h.1.runs)
    (fun h found free => ⟨h.1.next injective he free, step h.1 h.2 found free⟩) ⟨h, hJ⟩
  exact ⟨b, y, hb, hJ, leaves⟩

/-- **What a further step and a change of status keep holds of the execution that a run leaves at rest.** -/
theorem drive_keeps {K : Option String → Execution → Prop} (injective : mint.Injective)
    (he : e.InMemory mint)
    (grown : ∀ {stepId p x s}, K (some stepId) x → w.find? stepId = some s →
      x.decisions.get? (e.recordOf s p).id = none →
        K (s.next? (e.outcomeOf s p).passed) (e.grown s p x))
    (apply : ∀ {next x u}, K next x → u.decision = none → K next (x.apply u))
    (h : Underway mint world id a x) (start : K a.next x) :
    ∃ z next, Settles mint world id (e.driveFrom w a) z ∧ K next z := by
  obtain ⟨b, y, underway, kept, leaves⟩ := h.drive_rule (J := fun a x => K a.next x) injective he
    (fun h kept found _ => grown kept found (h.undecided injective he)) start
  generalize e.driveFrom w a = ended at leaves ⊢
  cases leaves with
  | closed closes =>
    exact ⟨_, b.next, underway.settles_finished (underway.outcome_of_closes closes), apply kept rfl⟩
  | paused found blocks =>
    have kept := grown kept found (underway.undecided injective he)
    exact ⟨_, _, underway.settles_paused injective he blocks, apply kept rfl⟩

/-- **A run underway comes to an end, with its execution at rest.** -/
theorem drive_settles (injective : mint.Injective) (he : e.InMemory mint) (w : Definition)
    (h : Underway mint world id a x) : ∃ z, Settles mint world id (e.driveFrom w a) z := by
  obtain ⟨z, -, settles, -⟩ := h.drive_keeps (w := w) (K := fun _ _ => True) injective he
    (fun _ _ _ => trivial) (fun _ _ => trivial) trivial
  exact ⟨z, settles⟩

/-- **A run takes no decisions.** -/
theorem drive_decisions (injective : mint.Injective) (he : e.InMemory mint) (w : Definition)
    (h : Underway mint world id a x) :
    ∃ z, Settles mint world id (e.driveFrom w a) z ∧ z.decisions = x.decisions := by
  obtain ⟨z, -, settles, decisions⟩ := h.drive_keeps (w := w)
    (K := fun _ y => y.decisions = x.decisions) injective he (fun same _ _ => same)
    (fun same undecided => (Execution.decisions_apply undecided).trans same) rfl
  exact ⟨z, settles, decisions⟩

end Underway

end Workflows

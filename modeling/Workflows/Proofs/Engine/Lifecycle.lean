import Workflows.Proofs.Engine.Reachable

/-!
# The life of an execution

Between two calls no execution is running, and its fields tell one story.

* `Execution.Consistent`: what the status, the counts, the cursor, the error and the records of an
  execution say fits together;
* `Execution.Rests.consistent`: that is so for an execution at rest;
* **`lifecycle_of_reachable`**: that is so for every execution in a reachable world.

`Sample` is a workflow with two approvals, on which the statements about calls are tried.
-/

namespace Workflows

/-- What the fields of an execution say between two calls. -/
structure Execution.Consistent (x : Execution) : Prop where
  left : x.status = .paused ∨ x.status = .succeeded ∨ x.status = .failed
  successes : x.successes.toNat = x.records.countP (·.passed)
  failures : x.failures.toNat = x.records.countP fun r => !r.passed
  total : x.successes.toNat + x.failures.toNat = x.records.length
  marked : ∀ r ∈ x.records, r.status = .succeeded ↔ r.passed = true
  cursor_iff : x.status = .paused ↔ x.currentStep.isSome = true
  unfinished_iff : x.status = .paused ↔ x.finishedAt = none
  /-- A paused execution waits for a decision on its last record. -/
  awaited : x.status = .paused → ∃ r, x.records.getLast? = some r ∧ r.blocking = true ∧
    r.passed = true ∧ x.currentStep = some r.stepId
  errorless : x.status = .paused ∨ x.status = .succeeded → x.error = none
  reason : x.status = .failed → x.error.isSome = true

theorem StepStatus.ofPassed_eq_succeeded_iff (passed : Bool) :
    ofPassed passed = .succeeded ↔ passed = true := by
  cases passed <;> simp [ofPassed]

namespace Tally

variable {successes failures : UInt32} {rs : List StepRecord}

/-- Counts that have room in 32 bits do not wrap around. -/
theorem toNat_of_eq_ofRecords (h : (⟨successes, failures⟩ : Tally) = ofRecords rs)
    (few : rs.length < UInt32.size) :
    successes.toNat = rs.countP (·.passed) ∧ failures.toNat = rs.countP fun r => !r.passed := by
  have passed := Nat.lt_of_le_of_lt (List.countP_le_length (p := (·.passed)) (l := rs)) few
  have failed := Nat.lt_of_le_of_lt (List.countP_le_length (p := fun r => !r.passed) (l := rs)) few
  cases h
  exact ⟨UInt32.toNat_ofNat_of_lt' passed, UInt32.toNat_ofNat_of_lt' failed⟩

end Tally

namespace Execution

variable {x : Execution} {mint : Nat → String} {n : Nat}

/-- **What an execution at rest says fits together.** -/
theorem Rests.consistent (h : x.Rests mint n) (few : x.records.length < UInt32.size) :
    x.Consistent := by
  obtain ⟨successes, failures⟩ := Tally.toNat_of_eq_ofRecords h.tally few
  have total : x.successes.toNat + x.failures.toNat = x.records.length := by
    rw [successes, failures, List.length_eq_countP_add_countP (·.passed)]
    simp
  have marked : ∀ r ∈ x.records, r.status = .succeeded ↔ r.passed = true := fun r hr => by
    rw [h.recorded.marked r hr, StepStatus.ofPassed_eq_succeeded_iff]
  rcases h.state with ⟨earlier, r, waits⟩ | finished
  · have status := waits.status
    exact {
      left := .inl status
      successes, failures, total, marked
      cursor_iff := by simp [status, waits.cursor]
      unfinished_iff := by simp [status, waits.finishedAt]
      awaited := fun _ => ⟨r, by simp [waits.records], waits.blocking, waits.passed, waits.cursor⟩
      errorless := fun _ => waits.error
      reason := by simp [status] }
  · have finishedAt : x.finishedAt ≠ none := by
      rw [← Option.isSome_iff_ne_none]
      exact finished.finishedAt
    rcases finished.outcome with ⟨status, error⟩ | ⟨status, error⟩
    · exact {
        left := .inr (.inl status)
        successes, failures, total, marked
        cursor_iff := by simp [status, finished.cursor]
        unfinished_iff := by simp [status, finishedAt]
        awaited := by simp [status]
        errorless := fun _ => error
        reason := by simp [status] }
    · exact {
        left := .inr (.inr status)
        successes, failures, total, marked
        cursor_iff := by simp [status, finished.cursor]
        unfinished_iff := by simp [status, finishedAt]
        awaited := by simp [status]
        errorless := by simp [status]
        reason := fun _ => error }

end Execution

/-- **What every execution in a reachable world says fits together.** -/
theorem lifecycle_of_reachable (mint : Nat → String) (world : World MemoryStore) (id : String)
    (x : Execution) (injective : mint.Injective) (reachable : Reachable mint world)
    (stored : world.store.executions.get? id = some x) (few : x.records.length < UInt32.size) :
    x.Consistent :=
  (reachable.sound injective id x stored).2.consistent few

/-! ## A sample -/

/-- What is computed of the value of a computation is computed of a value that it has. -/
theorem ok_of_map_toOption {ε α β : Type} {r : Except ε α} {f : α → β} {b : β}
    (h : r.toOption.map f = some b) : ∃ a, r = .ok a ∧ f a = b := by
  cases r with
  | error fault => cases h
  | ok a => exact ⟨a, rfl, Option.some.inj h⟩

namespace Sample

/-- Ids of growing length. -/
def mint (n : Nat) : String := .ofList (.replicate (n + 1) 'a')

theorem mint_injective : mint.Injective := by
  intro m n h
  have h := congrArg (·.toList.length) h
  simpa [mint] using h

/-- An approval that someone is asked for. -/
def approval (id : String) (onPass : Option String) : Step :=
  { Step.new id .approval with config := .ofList [("approvers", .text "lead@sample")], onPass }

/-- Two approvals, one after the other. -/
def workflow : Definition :=
  { Definition.new "release" "Release" with
    steps := [approval "review" (some "sign-off"), approval "sign-off" none] }

def engine : Engine MemoryStore where
  repository := MemoryStore.repository
  services _ := .basic fun _ => .timedOut
  limit := 10
  mint := mint
  clock _ := ⟨0, 0⟩

theorem inMemory : engine.InMemory mint := ⟨rfl, rfl⟩

def request : Request := ⟨{}, "build", "42", none, none, none⟩

/-- A world in which the workflow is registered and nothing has happened. -/
def start : World MemoryStore := .start (MemoryStore.empty.register workflow)

/-- The world where the first approval is waited for. -/
def reviewing : World MemoryStore := (engine.run workflow request start).2

/-- The world where the second approval is waited for. -/
def signing : World MemoryStore := (engine.resume (mint 0) true none reviewing).2

theorem follows_reviewing : Follows mint start reviewing := .ran engine inMemory workflow request

theorem follows_signing : Follows mint reviewing signing :=
  .resumed engine inMemory (mint 0) true none

theorem reachable_reviewing : Reachable mint reviewing :=
  ⟨start, rfl, .single follows_reviewing⟩

theorem reachable_signing : Reachable mint signing :=
  ⟨start, rfl, .tail (.single follows_reviewing) follows_signing⟩

end Sample

/-- The sample workflow, run and resumed once, waits for its second approval. -/
theorem lifecycle_signing : ∃ x, Sample.signing.store.executions.get? (Sample.mint 0) = some x ∧
    x.status = .paused ∧ x.records.length = 2 ∧ x.Consistent := by
  have seen : (Sample.signing.store.executions.get? (Sample.mint 0)).map
      (fun x => (x.status, x.records.length)) = some (.paused, 2) := by decide +kernel
  obtain ⟨x, stored, fields⟩ := Option.map_eq_some_iff.1 seen
  obtain ⟨status, length⟩ := Prod.mk.inj fields
  exact ⟨x, stored, status, length, lifecycle_of_reachable Sample.mint Sample.signing _ x
    Sample.mint_injective Sample.reachable_signing stored (by rw [length]; decide)⟩

end Workflows

import Workflows.Store.Memory

/-!
# The store in memory, execution by execution

What each operation of the store in memory gives and leaves behind, in terms of the one execution that it
concerns.

* `Repository.Preserves`: what no operation on a store breaks;
* `MemoryStore.set`: the store with an execution under an id;
* `create_of_fresh`, `append_of_running`, `update_of_status`: what an operation does where it is allowed;
* `create_of_stored`, `update_of_ne`: what it gives where the id is taken, or the status is not the expected
  one;
* `repository_preserves_stored`: no operation drops an execution.
-/

namespace Workflows

/-- What no operation on a store breaks. -/
structure Repository.Preserves {σ : Type} (repository : Repository σ) (P : σ → Prop) : Prop where
  create : ∀ x s, P s → P (repository.create x s).2
  append : ∀ id r s, P s → P (repository.append id r s).2
  update : ∀ id expected u s, P s → P (repository.update id expected u s).2

namespace MemoryStore

variable (s : MemoryStore) (id : String)

/-- The store with an execution under an id. -/
def set (x : Execution) : MemoryStore := { s with executions := s.executions.insert id x }

variable {s id}

@[simp] theorem get?_set (id' : String) (x : Execution) :
    (s.set id x).executions.get? id' = if id = id' then some x else s.executions.get? id' :=
  Dict.get?_insert _ _ _ _

@[simp] theorem set_set (x y : Execution) : (s.set id x).set id y = s.set id y := by
  unfold set
  rw [Dict.insert_insert]

theorem create_of_fresh {x : Execution} (fresh : s.executions.get? x.id = none) :
    s.create x = (.ok (), s.set x.id x) := by
  unfold create Dict.contains
  rw [fresh]
  rfl

theorem create_of_stored {x y : Execution} (stored : s.executions.get? x.id = some y) :
    s.create x = (.error (.duplicateExecution x.id), s) := by
  unfold create Dict.contains
  rw [stored]
  rfl

theorem change_of_stored {x : Execution} (stored : s.executions.get? id = some x)
    (f : Execution → Except EngineError Execution) :
    s.change id f = match f x with
      | .ok y => (.ok y, s.set id y)
      | .error fault => (.error fault, s) := by
  unfold change find
  rw [stored]
  dsimp only [bind, Except.bind]
  cases f x <;> rfl

theorem append_of_running {x : Execution} (stored : s.executions.get? id = some x)
    (running : x.status = .running) (r : StepRecord) :
    s.append id r = (.ok (), s.set id { x with records := x.records ++ [r] }) := by
  have h : x.append r = .ok { x with records := x.records ++ [r] } := by
    unfold Execution.append Execution.expect
    rw [if_pos running]
    rfl
  unfold append
  rw [change_of_stored stored, h]
  rfl

theorem update_of_status {x : Execution} {status : Status}
    (stored : s.executions.get? id = some x) (expected : x.status = status) (u : StatusUpdate) :
    s.update id status u = (.ok (x.apply u), s.set id (x.apply u)) := by
  have h : x.update status u = .ok (x.apply u) := by
    unfold Execution.update Execution.expect
    rw [if_pos expected]
    rfl
  unfold update
  rw [change_of_stored stored, h]

theorem update_of_ne {x : Execution} {status : Status} (stored : s.executions.get? id = some x)
    (unexpected : x.status ≠ status) (u : StatusUpdate) :
    s.update id status u = (.error (.staleTransition x.id status x.status), s) := by
  have h : x.update status u = .error (.staleTransition x.id status x.status) := by
    unfold Execution.update Execution.expect
    rw [if_neg unexpected]
    rfl
  unfold update
  rw [change_of_stored stored, h]

/-! ## What stays stored -/

theorem change_stored {id' : String} {f : Execution → Except EngineError Execution}
    (stored : (s.executions.get? id').isSome = true) :
    ((s.change id f).2.executions.get? id').isSome = true := by
  unfold change
  split
  · rw [Dict.get?_insert]
    split
    · rfl
    · exact stored
  · exact stored

/-- No operation drops an execution. -/
theorem repository_preserves_stored (id' : String) :
    repository.Preserves fun s => (s.executions.get? id').isSome = true where
  create x s stored := by
    change ((s.create x).2.executions.get? id').isSome = true
    unfold create
    split
    · exact stored
    · change ((s.executions.insert x.id x).get? id').isSome = true
      rw [Dict.get?_insert]
      split
      · rfl
      · exact stored
  append _ _ _ stored := change_stored stored
  update _ _ _ _ stored := change_stored stored

end MemoryStore

end Workflows

import Workflows.Store.Repository

/-!
# Stores with faults

`Repository.faulty` makes the changing operations of a repository fail by a plan, which sees the calls
before. A call that fails by the plan does not touch the store.
-/

namespace Workflows

/-- An operation that changes a store. -/
inductive StoreCall where
  | create
  | append
  | update
  deriving DecidableEq

/-- A store and the calls made on it, latest first. -/
structure FaultyStore (σ : Type) where
  inner : σ
  calls : List StoreCall

/-- Which calls fail, and how, given the calls before. -/
abbrev FaultPlan := List StoreCall → StoreCall → Option EngineError

namespace FaultyStore

variable {σ α : Type}

/-- Makes a call, or fails by the plan. -/
def call (plan : FaultPlan) (c : StoreCall) (f : σ → Except EngineError α × σ) (s : FaultyStore σ) :
    Except EngineError α × FaultyStore σ :=
  match plan s.calls c with
  | some e => (.error e, { s with calls := c :: s.calls })
  | none =>
    let (result, inner) := f s.inner
    (result, ⟨inner, c :: s.calls⟩)

end FaultyStore

/-- The operations of a repository, some of which fail by a plan. -/
def Repository.faulty {σ : Type} (r : Repository σ) (plan : FaultPlan) : Repository (FaultyStore σ) where
  create e := FaultyStore.call plan .create (r.create e)
  append id record := FaultyStore.call plan .append (r.append id record)
  update id expected u := FaultyStore.call plan .update (r.update id expected u)
  get id s := r.get id s.inner
  list s := r.list s.inner
  workflow id s := r.workflow id s.inner

end Workflows

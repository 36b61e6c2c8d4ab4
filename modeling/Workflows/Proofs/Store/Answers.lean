import Workflows.Store.File

/-!
# Sequences of operations on a store

* `StoreOp`, `StoreAnswer`: what is asked of the executions of a store, and what it says;
  `StoreOp.Safe`: the ids in an operation are those that files can be named by;
* `Repository.perform`, `.answers`, `.after`: an operation, and a sequence of them;
* `Repository.Simulates`: two stores answer alike in related states, and their states stay related;
  `Simulates.answers_eq`: then they answer every sequence alike.
-/

namespace Workflows

/-- What is asked of the executions of a store. -/
inductive StoreOp where
  | create (e : Execution)
  | append (id : String) (r : StepRecord)
  | update (id : String) (expected : Status) (u : StatusUpdate)
  | get (id : String)
  | list

/-- What a store says to an operation. -/
inductive StoreAnswer where
  | done (result : Except EngineError Unit)
  | changed (result : Except EngineError Execution)
  | found (result : Except EngineError (Option Execution))
  | listed (result : Except EngineError (List Execution))

/-- Files can be named by the ids in an operation. -/
def StoreOp.Safe : StoreOp → Prop
  | .create e => isFileId e.id = true
  | .append id _ | .update id _ _ | .get id => isFileId id = true
  | .list => True

instance : (op : StoreOp) → Decidable op.Safe
  | .create e => inferInstanceAs (Decidable (isFileId e.id = true))
  | .append id _ | .update id _ _ | .get id => inferInstanceAs (Decidable (isFileId id = true))
  | .list => .isTrue trivial

namespace Repository

variable {σ τ : Type}

/-- Carries out an operation. -/
def perform (r : Repository σ) (s : σ) : StoreOp → StoreAnswer × σ
  | .create e => (.done (r.create e s).1, (r.create e s).2)
  | .append id record => (.done (r.append id record s).1, (r.append id record s).2)
  | .update id expected u => (.changed (r.update id expected u s).1, (r.update id expected u s).2)
  | .get id => (.found (r.get id s), s)
  | .list => (.listed (r.list s), s)

/-- What a store says to a sequence of operations. -/
def answers (r : Repository σ) (s : σ) : List StoreOp → List StoreAnswer
  | [] => []
  | op :: ops => (r.perform s op).1 :: answers r (r.perform s op).2 ops

/-- A store after a sequence of operations. -/
def after (r : Repository σ) (s : σ) (ops : List StoreOp) : σ :=
  ops.foldl (fun s op => (r.perform s op).2) s

/-- Two stores answer an operation alike in related states, and their states stay related, as long as the
operation is allowed and the second store comes to a state that is. -/
def Simulates (r : Repository σ) (r' : Repository τ) (related : σ → τ → Prop) (allowed : StoreOp → Prop)
    (good : τ → Prop) : Prop :=
  ∀ s t op, related s t → allowed op → good (r'.perform t op).2 →
    (r.perform s op).1 = (r'.perform t op).1 ∧ related (r.perform s op).2 (r'.perform t op).2

variable {r : Repository σ} {r' : Repository τ} {related : σ → τ → Prop} {allowed : StoreOp → Prop}
  {good : τ → Prop}

/-- **Stores that answer every operation alike answer every sequence of operations alike.** -/
theorem Simulates.answers_eq (simulates : Simulates r r' related allowed good) {s : σ} {t : τ}
    {ops : List StoreOp} (start : related s t) (all_allowed : ∀ op ∈ ops, allowed op)
    (all_good : ∀ before, before <+: ops → good (r'.after t before)) :
    r.answers s ops = r'.answers t ops ∧ related (r.after s ops) (r'.after t ops) := by
  induction ops generalizing s t with
  | nil => exact ⟨rfl, start⟩
  | cons op ops ih =>
    obtain ⟨same, next⟩ := simulates s t op start (all_allowed op List.mem_cons_self)
      (all_good [op] (List.prefix_append [op] ops))
    obtain ⟨rest, last⟩ := ih next (fun o mem => all_allowed o (List.mem_cons_of_mem _ mem))
      fun before first => all_good (op :: before) ((List.prefix_cons_inj op).2 first)
    exact ⟨by rw [answers, answers, same, rest], last⟩

end Repository

end Workflows

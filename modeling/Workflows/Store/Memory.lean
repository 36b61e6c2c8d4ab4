import Workflows.Store.Repository

/-!
# A store in memory

`MemoryStore` keeps executions and workflows by id; `MemoryStore.repository` are its operations, which
fail only where the executions they concern do not allow them.
-/

namespace Workflows

/-- Executions and workflows by id. -/
structure MemoryStore where
  executions : Dict Execution
  workflows : Dict Definition
  deriving DecidableEq

namespace MemoryStore

/-- A store that holds nothing. -/
def empty : MemoryStore := ⟨{}, {}⟩

instance : EmptyCollection MemoryStore := ⟨empty⟩

variable (s : MemoryStore)

/-- The store with an execution under its id. -/
def put (e : Execution) : MemoryStore := { s with executions := s.executions.insert e.id e }

/-- The execution of an id. -/
def find (id : String) : Except EngineError Execution :=
  match s.executions.get? id with
  | some e => .ok e
  | none => .error (.executionNotFound id)

/-- Replaces the execution of an id by what becomes of it. -/
def change (id : String) (f : Execution → Except EngineError Execution) :
    Except EngineError Execution × MemoryStore :=
  match s.find id >>= f with
  | .ok e => (.ok e, { s with executions := s.executions.insert id e })
  | .error x => (.error x, s)

/-- Keeps a new execution. -/
def create (e : Execution) : Except EngineError Unit × MemoryStore :=
  if s.executions.contains e.id then (.error (.duplicateExecution e.id), s) else (.ok (), s.put e)

/-- Adds a record to a running execution. -/
def append (id : String) (r : StepRecord) : Except EngineError Unit × MemoryStore :=
  let (result, s) := s.change id (·.append r)
  (result.map fun _ => (), s)

/-- Changes the status of an execution. -/
def update (id : String) (expected : Status) (u : StatusUpdate) :
    Except EngineError Execution × MemoryStore :=
  s.change id (·.update expected u)

/-- Keeps a workflow in place of one of its id. -/
def register (w : Definition) : MemoryStore := { s with workflows := s.workflows.insert w.id w }

/-- Drops the workflow of an id. -/
def unregister (id : String) : MemoryStore := { s with workflows := s.workflows.erase id }

/-- The operations on a store in memory. -/
def repository : Repository MemoryStore where
  create e s := s.create e
  append id r s := s.append id r
  update id expected u s := s.update id expected u
  get id s := .ok (s.executions.get? id)
  list s := .ok (Execution.inOrder s.executions.values)
  workflow id s := .ok (s.workflows.get? id)

end MemoryStore

end Workflows

import Workflows.Definition.Basic
import Workflows.Store.Update

/-!
# Repositories

A repository keeps executions and looks up workflows. Its operations take the state of the store and
give it back, so that whole sequences of calls are plain functions.
-/

namespace Workflows

/-- The operations on a store whose state is a `σ`. -/
structure Repository (σ : Type) where
  /-- Keeps a new execution. -/
  create : Execution → σ → Except EngineError Unit × σ
  /-- Adds a record to a running execution. -/
  append : String → StepRecord → σ → Except EngineError Unit × σ
  /-- Changes the status of an execution that has the expected one; gives the changed execution. -/
  update : String → Status → StatusUpdate → σ → Except EngineError Execution × σ
  /-- Looks up an execution. -/
  get : String → σ → Except EngineError (Option Execution)
  /-- All executions, by start and id. -/
  list : σ → Except EngineError (List Execution)
  /-- Looks up a workflow. -/
  workflow : String → σ → Except EngineError (Option Definition)

end Workflows

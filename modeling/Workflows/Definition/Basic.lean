import Workflows.Data.Document
import Workflows.Definition.Kind

/-!
# Workflow definitions

* `Step`: a step with its settings and the steps that follow it; `Step.next?` is the one taken;
* `Step.new`, `.named`, `.withSetting`, `.leadTo`: steps as they are put together by hand;
* `Definition`: an ordered list of steps, the first of which is the entry;
* `Definition.find?`: the step of an id, the first of several;
* `Definition.add`: a further step, whose id must be new; `Definition.append` does not ask;
* `Step.decode?`, `Definition.decode?`, `Step.encode`, `Definition.encode`: definitions as data.
-/

namespace Workflows

/-- Which way a run leaves a step. -/
inductive Branch where
  | onPass
  | onFail
  deriving DecidableEq

/-- The name of a branch in definitions. -/
def Branch.name : Branch → String
  | .onPass => "on_pass"
  | .onFail => "on_fail"

/-- A step of a workflow. -/
structure Step where
  id : String
  name : Option String
  kind : StepKind
  /-- The settings of its kind. -/
  config : Object
  /-- The step after a pass; without one the run ends. -/
  onPass : Option String
  /-- The step after a failure; without one the run ends. -/
  onFail : Option String
  deriving DecidableEq

namespace Step

/-- A step with an id, which is trimmed, and nothing else. -/
def new (id : String) (kind : StepKind) : Step :=
  { id := Text.trim id, name := none, kind, config := {}, onPass := none, onFail := none }

/-- The step under a name. -/
def named (s : Step) (name : String) : Step := { s with name := some name }

/-- The step with a further setting. -/
def withSetting (s : Step) (key : String) (v : Value) : Step := { s with config := s.config.insert key v }

/-- The step with a branch that leads to a step, whose id is taken as it is written. -/
def leadTo (s : Step) (b : Branch) (id : String) : Step :=
  match b with
  | .onPass => { s with onPass := some id }
  | .onFail => { s with onFail := some id }

/-- The step that a branch leads to. -/
def target (s : Step) : Branch → Option String
  | .onPass => s.onPass
  | .onFail => s.onFail

/-- The step taken after a pass or a failure. -/
def next? (s : Step) (passed : Bool) : Option String := if passed then s.onPass else s.onFail

/-- The branches that lead somewhere. -/
def branches (s : Step) : List (Branch × String) :=
  [Branch.onPass, .onFail].filterMap fun b => (s.target b).map fun t => (b, t)

end Step

/-- A workflow: its steps in order, the first being the entry. -/
structure Definition where
  id : String
  name : String
  description : Option String
  version : Option String
  isActive : Bool
  steps : List Step
  deriving DecidableEq

namespace Definition

/-- A definition without steps. -/
def new (id name : String) : Definition :=
  { id, name, description := none, version := none, isActive := true, steps := [] }

/-- The step where every run starts. -/
def entry? (w : Definition) : Option Step := w.steps.head?

/-- The first step with the given id. -/
def find? (w : Definition) (id : String) : Option Step := w.steps.find? fun s => s.id == id

theorem id_of_find? {w : Definition} {id : String} {s : Step} (found : w.find? id = some s) : s.id = id := by
  have := List.find?_some found
  simpa using this

/-- The entry is the first step that has its id. -/
theorem find?_entry {w : Definition} {s : Step} (entry : w.entry? = some s) : w.find? s.id = some s := by
  unfold entry? at entry
  unfold find?
  cases steps : w.steps with
  | nil =>
    rw [steps] at entry
    cases entry
  | cons t rest =>
    rw [steps] at entry
    cases entry
    simp

/-- A definition with a further step, unless its id is taken. -/
def add? (w : Definition) (s : Step) : Option Definition :=
  if w.steps.any fun t => t.id == s.id then none else some { w with steps := w.steps ++ [s] }

/-- What is said of a step whose id is taken. -/
def takenMessage (s : Step) : String := "Step '" ++ s.id ++ "' already exists"

/-- A definition with a further step. -/
def append (w : Definition) (s : Step) : Definition := { w with steps := w.steps ++ [s] }

/-- Changes the first step with the given id. -/
def modify (w : Definition) (id : String) (f : Step → Step) : Definition :=
  { w with steps := go w.steps }
where
  /-- Changes the first step of a list that has the id. -/
  go : List Step → List Step
    | [] => []
    | s :: rest => if s.id == id then f s :: rest else s :: go rest

/-- The kinds of the steps by id; of several steps with one id the first counts. -/
def index (w : Definition) : Dict StepKind := Dict.ofList (w.steps.reverse.map fun s => (s.id, s.kind))

end Definition

/-! ## Definitions as data -/

namespace Step

open Document

/-- The fields of a step. -/
def fields : List Field :=
  [⟨"step_id", ["id"]⟩, .plain "name", ⟨"type", ["step_type"]⟩, .plain "config", .plain "on_pass",
    .plain "on_fail"]

/-- A branch as it is kept: trimmed, and absent where it is blank. -/
def cleanBranch (branch : Option String) : Option String := branch.bind Text.nonBlank?

/-- The step of a document. -/
def decode? {δ : Type} [Document δ] (d : δ) : Option Step := do
  let fs ← fields? fields d
  return {
    id := ← fs.required "step_id" text?
    name := ← fs.optional "name" text?
    kind := .ofName (← fs.required "type" text?)
    config := ← fs.orElse "config" {} object?
    onPass := cleanBranch (← fs.optional "on_pass" text?)
    onFail := cleanBranch (← fs.optional "on_fail" text?) }

/-- A step as data; absent fields and empty settings are left out. -/
def encode (s : Step) : Value :=
  .record [
    ("step_id", some (.text s.id)),
    ("name", s.name.map .text),
    ("type", some (.text s.kind.name)),
    ("config", if s.config.isEmpty then none else some (.ofObject s.config)),
    ("on_pass", s.onPass.map .text),
    ("on_fail", s.onFail.map .text)]

end Step

namespace Definition

open Document

/-- The fields of a definition. -/
def fields : List Field :=
  ["id", "name", "description", "version", "is_active", "steps"].map .plain

/-- The definition of a document. -/
def decode? {δ : Type} [Document δ] (d : δ) : Option Definition := do
  let fs ← fields? fields d
  return {
    id := ← fs.orElse "id" "" text?
    name := ← fs.orElse "name" "" text?
    description := ← fs.optional "description" text?
    version := ← fs.optional "version" text?
    isActive := ← fs.orElse "is_active" true bool?
    steps := ← fs.orElse "steps" [] (list? Step.decode?) }

/-- A definition as data; absent fields are left out. -/
def encode (w : Definition) : Value :=
  .record [
    ("id", some (.text w.id)),
    ("name", some (.text w.name)),
    ("description", w.description.map .text),
    ("version", w.version.map .text),
    ("is_active", some (.bool w.isActive)),
    ("steps", some (.list (w.steps.map Step.encode)))]

end Definition

end Workflows

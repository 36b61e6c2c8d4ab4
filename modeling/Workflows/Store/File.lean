import Workflows.Data.Path
import Workflows.Definition.File
import Workflows.Json.Printer
import Workflows.Json.Reader
import Workflows.Store.Repository

/-!
# A store in files

Every execution is a file of its own, and so is every workflow. A file is written under another path first
and then renamed, so that no half of it is ever seen.

* `isFileId`: the ids that files can be named by;
* `FileStore`: the directories of a store and how its workflows are written; `FileStore.openDirectories` makes them;
* `FileStore.repository`: the operations; `FileStore.register` keeps a workflow.
-/

namespace Workflows

/-- Whether files can be named by an id: letters, digits, `-`, `_` and `.`, the last not at its start. -/
def isFileId (id : String) : Bool :=
  !id.isEmpty && !id.startsWith "." && id.toList.all fun c =>
    c.isAlphanum || c = '-' || c = '_' || c = '.'

/-- The directories of a store in files, and how its workflows are written. -/
structure FileStore where
  executions : String
  workflows : String
  /-- The YAML text of a value. -/
  printYaml : Value → String

namespace FileStore

/-- A store below a data directory. -/
def ofDirectory (printYaml : Value → String) (dataDir : String) : FileStore :=
  ⟨Path.join dataDir "executions", Path.join dataDir "workflows", printYaml⟩

/-- Makes a directory, with those it lies in. -/
def makeDirectory (path : String) (fs : FileSystem) : Except EngineError FileSystem :=
  (FileSystem.makeDirectories (path.length + 1) path fs).mapError (.io path)

/-- Makes the directories of a store, where they are missing; what was made stays when the next one cannot
be. -/
def openDirectories (store : FileStore) (fs : FileSystem) : Except EngineError Unit × FileSystem :=
  match makeDirectory store.executions fs with
  | .error e => (.error e, fs)
  | .ok fs =>
    match makeDirectory store.workflows fs with
    | .error e => (.error e, fs)
    | .ok fs => (.ok (), fs)

variable (store : FileStore) (fs : FileSystem)

/-- The file of an execution. -/
def executionPath (id : String) : String := Path.file store.executions id "json"

/-- The path that the file of an execution is written under first. -/
def temporaryPath (id : String) : String := Path.file store.executions id "tmp"

/-- The file of a workflow. -/
def workflowPath (id : String) : String := Path.file store.workflows id "yaml"

/-- The text of an execution's file. -/
def executionText (e : Execution) : String := Json.pretty e.encode

/-- The execution of a file's text. -/
def parseExecution (text : String) : Except EngineError Execution :=
  match (Json.read? text).bind Execution.decode? with
  | some e => .ok e
  | none => .error .json

/-- The execution in a file. -/
def readFile (path : String) : Except EngineError Execution := do
  parseExecution (← (fs.read path).mapError (.io path))

/-- The execution of an id. -/
def get (id : String) : Except EngineError (Option Execution) :=
  let path := store.executionPath id
  if isFileId id && fs.exists? path then (readFile fs path).map some else .ok none

/-- Writes the file of an execution. -/
def write (e : Execution) : Except EngineError Unit × FileSystem :=
  let temporary := store.temporaryPath e.id
  let path := store.executionPath e.id
  match fs.write temporary (executionText e) with
  | .error fault => (.error (.io temporary fault), fs)
  | .ok fs =>
    match fs.rename temporary path with
    | .error fault => (.error (.io path fault), fs)
    | .ok fs => (.ok (), fs)

/-- What is said of an id that no file can be named by. -/
def unusable (what id : String) : EngineError :=
  .config (what ++ " id '" ++ id ++ "' is not usable as a file name")

/-- Keeps a new execution. -/
def create (e : Execution) : Except EngineError Unit × FileSystem :=
  if !isFileId e.id then (.error (unusable "Execution" e.id), fs)
  else if fs.exists? (store.executionPath e.id) then (.error (.duplicateExecution e.id), fs)
  else store.write fs e

/-- Replaces the execution of an id by what becomes of it. -/
def change (id : String) (f : Execution → Except EngineError Execution) :
    Except EngineError Execution × FileSystem :=
  let changed : Except EngineError Execution := do
    match ← store.get fs id with
    | some e => f e
    | none => throw (.executionNotFound id)
  match changed with
  | .error fault => (.error fault, fs)
  | .ok e =>
    let (result, fs) := store.write fs e
    (result.map fun _ => e, fs)

/-- Adds a record to a running execution. -/
def append (id : String) (r : StepRecord) : Except EngineError Unit × FileSystem :=
  let (result, fs) := store.change fs id (·.append r)
  (result.map fun _ => (), fs)

/-- Changes the status of an execution. -/
def update (id : String) (expected : Status) (u : StatusUpdate) :
    Except EngineError Execution × FileSystem :=
  store.change fs id (·.update expected u)

/-- All executions; files that hold none are left out. -/
def list : Except EngineError (List Execution) := do
  let names ← (fs.entries store.executions).mapError (.io store.executions)
  let files := names.filter fun name => Path.extension? name == some "json"
  return Execution.inOrder (files.filterMap fun name =>
    (readFile fs (Path.join store.executions name)).toOption)

/-- The workflow of an id, which counts as its id whatever its file says. -/
def workflow (id : String) : Except EngineError (Option Definition) :=
  let path := store.workflowPath id
  if isFileId id && fs.exists? path then (Definition.load fs path).map fun w => some { w with id }
  else .ok none

/-- Keeps a workflow in place of one of its id. -/
def register (w : Definition) : Except EngineError Unit × FileSystem :=
  if !isFileId w.id then (.error (unusable "Workflow" w.id), fs)
  else
    match w.save store.printYaml (store.workflowPath w.id) fs with
    | .error e => (.error e, fs)
    | .ok fs => (.ok (), fs)

/-- The operations on a store in files. -/
def repository : Repository FileSystem where
  create e fs := store.create fs e
  append id r fs := store.append fs id r
  update id expected u fs := store.update fs id expected u
  get id fs := store.get fs id
  list fs := store.list fs
  workflow id fs := store.workflow fs id

end FileStore

end Workflows

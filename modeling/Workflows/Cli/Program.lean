import Workflows.Cli.Arguments
import Workflows.Cli.Report
import Workflows.ConfigFile
import Workflows.Engine.Run
import Workflows.Services.PolicyFile
import Workflows.Store.File

/-!
# The program

The program as a function: from its arguments, what it finds around it and the files, to what it prints,
its exit status and the files afterwards.

* `Cli.Surroundings`: the environment, the clock, a source of ids, the interpreter of scripts and the
  printer of YAML;
* `Cli.Job`: a task on files that may fail, keeping what it has done to the files;
* `Cli.runWorkflow`, `resumeExecution`, `showExecution`, `listExecutions`, `validateWorkflow`: the commands;
* `Cli.program`: the program.
-/

namespace Workflows

namespace Cli

/-- What the program finds around it. -/
structure Surroundings where
  environment : String → Option String
  /-- The id that is made next, by how many were made before. -/
  mint : Nat → String
  /-- The time, by how often it was read before. -/
  clock : Nat → Time
  runScript : ScriptRequest → ScriptEnding
  printYaml : Value → String

/-- The store of the settings. -/
def Surroundings.store (s : Surroundings) (c : Config) : FileStore := .ofDirectory s.printYaml c.dataDir

/-- A task on files that may fail, keeping what it has done to the files. -/
abbrev Job (α : Type) := ExceptT String (StateM FileSystem) α

/-- What is read from the files. -/
def Job.look {α : Type} (f : FileSystem → Except EngineError α) : Job α := do
  match f (← get) with
  | .ok a => return a
  | .error e => throw e.message

/-- What is done to the files. -/
def Job.act {α : Type} (f : FileSystem → Except EngineError α × FileSystem) : Job α := do
  let (result, fs) := f (← get)
  set fs
  match result with
  | .ok a => return a
  | .error e => throw e.message

/-- The object of a text. -/
def parseObject (what text : String) : Except String Object :=
  match Json.parse? text with
  | none => .error (what ++ " is not valid JSON: malformed text")
  | some v =>
    match v.object? with
    | some o => .ok o
    | none => .error (what ++ " must be a JSON object")

/-- An engine over the files of a data directory, once its directories are there and its policies are
read. -/
def openEngine (s : Surroundings) (c : Config) : Job (Engine FileSystem) := do
  let store := s.store c
  Job.act store.openDirectories
  let policies ← Job.look fun fs => Policies.load fs c.policiesPath
  return {
    repository := store.repository
    services _ := { (Services.basic s.runScript).configured c with policies := policies.store }
    limit := c.maxDispatches
    mint := s.mint
    clock := s.clock }

/-- A call of an engine, in a world that begins with the files. -/
def callEngine (call : World FileSystem → Except EngineError Execution × World FileSystem) :
    Job Execution :=
  Job.act fun fs =>
    let (result, world) := call (.start fs)
    (result, world.store)

/-- What started a run from the command line. -/
def manualTrigger (actor : Option String) : Trigger := { Trigger.new "manual" with userEmail := actor }

variable (colour : Bool)

/-- Registers the workflow of a file in a store and runs it against the entity of another. -/
def runWorkflow (e : Engine FileSystem) (store : FileStore) (workflow entity entityType entityId : String)
    (entityName actor : Option String) : Job String := do
  let w ← match Definition.load (← get) workflow with
    | .ok w => pure w
    | .error e => throw ("Could not load workflow from '" ++ workflow ++ "': " ++ e.message)
  Job.act fun fs => store.register fs w
  let text ← match (← get).read entity with
    | .ok text => pure text
    | .error fault => throw ("Could not read entity file '" ++ entity ++ "': " ++ fault.message)
  let entity ← liftExcept (parseObject "Entity file" text)
  let request : Request :=
    { entity, entityType, entityId, entityName, actor, trigger := some (manualTrigger actor) }
  return summary colour (← callEngine (e.run w request))
where
  /-- A plain result as a task. -/
  liftExcept {α : Type} (r : Except String α) : Job α := ExceptT.mk (pure r)

/-- Takes a decision on a paused execution. -/
def resumeExecution (e : Engine FileSystem) (id : String) (approve : Bool) (data : Option String) :
    Job String := do
  let data ← match data.map (parseObject "--data") with
    | none => pure none
    | some (.ok o) => pure (some o)
    | some (.error message) => throw message
  return summary colour (← callEngine (e.resume id approve data))

/-- Prints an execution. -/
def showExecution (e : Engine FileSystem) (id : String) : Job String := do
  match ← Job.look (e.repository.get id) with
  | some execution => return details colour execution
  | none => throw (EngineError.executionNotFound id).message

/-- Prints all executions. -/
def listExecutions (e : Engine FileSystem) (c : Config) : Job String := do
  let all ← Job.look e.repository.list
  if all.isEmpty then return unlines ["No executions recorded in " ++ c.dataDir]
  return unlines (all.map (listLine colour))

/-- What the findings about a definition come to: what is printed, and an error if there are errors. -/
def verdict (w : Definition) : String × Option String :=
  let findings := w.lint
  if findings.isEmpty then (unlines [validLine colour w], none)
  else
    let errors := findings.countP (·.isError)
    (unlines (findings.map (findingLine colour)),
      if errors = 0 then none
      else some ("Workflow '" ++ w.id ++ "' has " ++ toString errors ++ " error(s)"))

/-- The settings of an invocation. -/
def settings (s : Surroundings) (i : Invocation) : Job Config := do
  let c ← Job.look fun fs => Config.load fs i.config s.environment
  return { c with dataDir := i.dataDir.getD c.dataDir }

/-- Carries out a command: what is printed, and the error it ends with. -/
def perform (s : Surroundings) (i : Invocation) : Job (String × Option String) := do
  let c ← settings s i
  match i.command with
  | .validate workflow => return verdict colour (← Job.look fun fs => Definition.load fs workflow)
  | .run workflow entity entityType entityId entityName actor =>
    let e ← openEngine s c
    return (← runWorkflow colour e (s.store c) workflow entity entityType entityId entityName actor, none)
  | .resume id approve data =>
    let e ← openEngine s c
    return (← resumeExecution colour e id approve data, none)
  | .display id =>
    let e ← openEngine s c
    return (← showExecution colour e id, none)
  | .list =>
    let e ← openEngine s c
    return (← listExecutions colour e c, none)

/-- What the program leaves behind. -/
structure Ending where
  status : Nat
  stdout : String
  stderr : String
  files : FileSystem

/-- How an error is printed. -/
def errorLine (message : String) : String := "Error: " ++ message ++ "\n"

/-- Whether colours are wanted although the output is no terminal. -/
def wantsColour (environment : String → Option String) : Bool :=
  match environment "CLICOLOR_FORCE" with
  | some v => v ≠ "0"
  | none => false

/-- The program. -/
def program (s : Surroundings) (arguments : List String) (fs : FileSystem) : Ending :=
  match parse arguments with
  | .error e =>
    ⟨1, usage, errorLine e.message ++ "\n\n" ++ errorLine e.message, fs⟩
  | .ok .help => ⟨0, usage, "", fs⟩
  | .ok .version => ⟨0, versionText, "", fs⟩
  | .ok (.call i) =>
    match (perform (wantsColour s.environment) s i).run.run fs with
    | (.ok (printed, none), fs) => ⟨0, banner ++ printed, "", fs⟩
    | (.ok (printed, some message), fs) => ⟨1, banner ++ printed, "\n" ++ errorLine message, fs⟩
    | (.error message, fs) => ⟨1, banner, "\n" ++ errorLine message, fs⟩

end Cli

end Workflows

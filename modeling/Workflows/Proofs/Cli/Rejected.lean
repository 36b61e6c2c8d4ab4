import Workflows.Proofs.Cli.Tasks
import Workflows.Proofs.Store.Registered
import Workflows.Proofs.Store.Registering

/-!
# Runs that are rejected

The command that runs a workflow opens a store, loads the workflow, registers it, reads the entity and keeps an
execution, and only then goes on. If one of these fails, all that was done before it stays.

* `Cli.prepared`, `registered`, `requested`, `created`: a run up to there; `perform_run`: it goes on once its execution
  is kept;
* `keeps_prepared`, `keeps_requested`: what the parts leave as it is;
* `registered_eq_ok`, `registered_eq_error`, `created_eq_error`: the files where a part ends the run;
* **`rejected_run`**: what a run has changed that is rejected; `rejected_run_replaces_workflow`: one that has replaced
  a workflow.
-/

namespace Workflows

namespace Cli

open FileSystem

/-! ## The parts of a run -/

variable (s : Surroundings) (i : Invocation) (workflow entity entityType entityId : String)
  (entityName actor : Option String)

/-- The settings of a run, its engine and its workflow. -/
def prepared : Job (Config × Engine FileSystem × Definition) := do
  let c ← settings s i
  let e ← openEngine s c
  match Definition.load (← get) workflow with
  | .ok w => return (c, e, w)
  | .error fault => throw ("Could not load workflow from '" ++ workflow ++ "': " ++ fault.message)

/-- The same, once the workflow is registered. -/
def registered : Job (Config × Engine FileSystem × Definition) := do
  let (c, e, w) ← prepared s i workflow
  Job.act fun fs => (s.store c).register fs w
  return (c, e, w)

/-- What the workflow is run against, the entity read from its file. -/
def requested : Job Request := do
  let text ← match (← get).read entity with
    | .ok text => pure text
    | .error fault => throw ("Could not read entity file '" ++ entity ++ "': " ++ fault.message)
  let entity ← runWorkflow.liftExcept (parseObject "Entity file" text)
  return { entity, entityType, entityId, entityName, actor, trigger := some (manualTrigger actor) }

/-- The execution of a run, once it is kept. -/
def created : Job (Engine FileSystem × Definition × Execution) := do
  let (_, e, w) ← registered s i workflow
  let request ← requested entity entityType entityId entityName actor
  let execution := Engine.newExecution w request (e.mint 0) (e.clock 0)
  Job.act (e.repository.create execution)
  return (e, w, execution)

/-- The end of a run whose execution is kept. -/
def ending (e : Engine FileSystem) (w : Definition) (execution : Execution) (fs : FileSystem) : Ended FileSystem :=
  e.drive w e.limit (w.entry?.map (·.id)) .initial ⟨.restore execution, .zero, ⟨fs, {}, 1, 1⟩⟩

/-- The execution at the end of a run. -/
def driven (e : Engine FileSystem) (w : Definition) (execution : Execution) : Job Execution :=
  Job.act fun fs => ((ending e w execution fs).result, (ending e w execution fs).progress.world.store)

theorem callEngine_run (e : Engine FileSystem) (w : Definition) (r : Request) :
    callEngine (e.run w r) = (do
      let execution := Engine.newExecution w r (e.mint 0) (e.clock 0)
      Job.act (e.repository.create execution)
      driven e w execution) := by
  refine Job.ext fun fs => ?_
  unfold callEngine
  rw [Job.on_act, Job.on_bind, Job.on_act]
  rcases answer : e.repository.create (Engine.newExecution w r (e.mint 0) (e.clock 0)) fs with ⟨fault | _, fs₁⟩
  · have ended : e.run w r (.start fs) = (.error fault, ⟨fs₁, {}, 1, 1⟩) := by
      simp only [Engine.run, Engine.runThrough, Engine.freshId, Engine.now, World.start, answer]
    rw [ended]
    rfl
  · let last := ending e w (Engine.newExecution w r (e.mint 0) (e.clock 0)) fs₁
    have ended : e.run w r (.start fs) = (last.result, last.progress.world) := by
      simp only [Engine.run, Engine.runThrough, Engine.freshId, Engine.now, World.start, answer]
      rfl
    rw [ended]
    exact (Job.on_act _).symm

variable (colour : Bool) in
/-- **A run goes on once its execution is kept.** -/
theorem perform_run (asked : i.command = .run workflow entity entityType entityId entityName actor) :
    perform colour s i = (do
      let (e, w, execution) ← created s i workflow entity entityType entityId entityName actor
      return (summary colour (← driven e w execution), none)) := by
  unfold perform
  rw [asked]
  simp only [runWorkflow, callEngine_run, created, registered, requested, prepared, bind_assoc, pure_bind]
  refine bind_congr fun c => bind_congr fun e => bind_congr fun fs => ?_
  cases Definition.load fs workflow with
  | error fault => rfl
  | ok w =>
    simp only [pure_bind, bind_assoc]
    refine bind_congr fun _ => bind_congr fun fs => ?_
    cases fs.read entity with
    | error fault => rfl
    | ok text => simp only [bind_assoc, pure_bind]

/-! ## What the parts leave as it is -/

theorem keeps_settings {R : FileSystem → FileSystem → Prop} [Std.Refl R] [IsTrans FileSystem R] :
    (settings s i).Keeps R :=
  (Job.keeps_look _).bind fun _ => Job.keeps_pure _

theorem keeps_openEngine (c : Config) : (openEngine s c).Keeps MakesDirectories :=
  .bind (fun fs => by rw [Job.on_act]; exact FileStore.makesDirectories_of_openDirectories _ fs) fun _ =>
    (Job.keeps_look _).bind fun _ => Job.keeps_pure _

/-- What a run does before its workflow is registered makes directories at most. -/
theorem keeps_prepared : (prepared s i workflow).Keeps MakesDirectories :=
  (keeps_settings s i).bind fun c => (keeps_openEngine s c).bind fun e => Job.keeps_get.bind fun fs => by
    cases Definition.load fs workflow with
    | error fault => exact Job.keeps_throw _
    | ok w => exact Job.keeps_pure _

/-- Reading the entity changes nothing. -/
theorem keeps_requested : (requested entity entityType entityId entityName actor).Keeps Eq :=
  Job.keeps_get.bind fun fs => by
    cases fs.read entity with
    | error fault => exact Job.keeps_throw _
    | ok text =>
      refine .bind (Job.keeps_pure text) fun text => .bind ?_ fun _ => Job.keeps_pure _
      intro fs
      rfl

/-! ## The files where a part ends the run -/

section Ended

variable {s i workflow entity entityType entityId entityName actor} {c : Config} {e : Engine FileSystem}
  {w : Definition} {fs fs' : FileSystem} {message : String}

/-- Before its workflow is registered, a run has opened the store of its engine. -/
theorem prepared_eq_ok (ended : (prepared s i workflow).on fs = (.ok (c, e, w), fs')) :
    (s.store c).openDirectories fs = (.ok (), fs') ∧
      e.repository = (s.store c).repository := by
  obtain ⟨c', fs₀, configured, ended⟩ := Job.on_bind_eq_ok ended
  obtain rfl : fs = fs₀ := (keeps_settings s i).of_on configured
  obtain ⟨e', fs₁, engine, ended⟩ := Job.on_bind_eq_ok ended
  obtain ⟨_, _, got, ended⟩ := Job.on_bind_eq_ok ended
  cases got
  cases loaded : Definition.load fs₁ workflow with
  | error fault => rw [loaded] at ended; cases ended
  | ok w' =>
    rw [loaded] at ended
    cases ended
    obtain ⟨_, fs₂, opened, engine⟩ := Job.on_bind_eq_ok engine
    obtain ⟨policies, fs₃, looked, engine⟩ := Job.on_bind_eq_ok engine
    obtain rfl : fs₂ = fs₃ := (Job.keeps_look _).of_on looked
    cases engine
    exact ⟨Job.on_act_eq_ok opened, rfl⟩

theorem registered_eq_ok (ended : (registered s i workflow).on fs = (.ok (c, e, w), fs')) :
    let store := s.store c
    ∃ fs₁ place, store.openDirectories fs = (.ok (), fs₁) ∧ e.repository = store.repository ∧
      store.Registers fs₁ w place fs' := by
  intro store
  obtain ⟨⟨c', e', w'⟩, fs₁, before, ended⟩ := Job.on_bind_eq_ok ended
  obtain ⟨_, fs₂, acted, ended⟩ := Job.on_bind_eq_ok ended
  cases ended
  obtain ⟨opened, repository⟩ := prepared_eq_ok before
  obtain ⟨p, executions⟩ := FileStore.executions_of_openDirectories opened (join_ne_empty (by decide) _)
  obtain ⟨q, workflows⟩ := FileStore.workflows_of_openDirectories opened (join_ne_empty (by decide) _)
  exact ⟨fs₁, _, opened, repository, FileStore.registers_of_register executions workflows (Job.on_act_eq_ok acted)⟩

/-- A run that is rejected has changed nothing since its workflow was registered. -/
theorem created_eq_error
    (ended : (created s i workflow entity entityType entityId entityName actor).on fs = (.error message, fs')) :
    (registered s i workflow).on fs = (.error message, fs') ∨
      ∃ c e w, (registered s i workflow).on fs = (.ok (c, e, w), fs') := by
  rcases Job.on_bind_eq_error ended with ended | ⟨⟨c, e, w⟩, fs₂, before, ended⟩
  · exact .inl ended
  · refine .inr ⟨c, e, w, before.trans ?_⟩
    obtain ⟨fs₁, place, opened, repository, registers⟩ := registered_eq_ok before
    obtain ⟨p, executions⟩ := FileStore.executions_of_openDirectories opened (join_ne_empty (by decide) _)
    have requesting := keeps_requested entity entityType entityId entityName actor
    rcases Job.on_bind_eq_error ended with ended | ⟨r, fs₃, asked, ended⟩
    · rw [requesting.of_on ended]
    · rcases Job.on_bind_eq_error ended with ended | ⟨_, fs₄, _, ended⟩
      · obtain ⟨fault, failed⟩ := Job.on_act_eq_error ended
        rw [repository] at failed
        obtain rfl : fs₂ = fs₃ := requesting.of_on asked
        rw [FileStore.create_error (executions.mono registers.toKeepsDirectories) failed]
      · cases ended

/-- Before its workflow is registered, a run that is rejected has made directories at most. -/
theorem registered_eq_error (ended : (registered s i workflow).on fs = (.error message, fs')) :
    MakesDirectories fs fs' := by
  have preparing := keeps_prepared s i workflow
  rcases Job.on_bind_eq_error ended with ended | ⟨⟨c, e, w⟩, fs₁, before, ended⟩
  · exact preparing.of_on ended
  · rcases Job.on_bind_eq_error ended with ended | ⟨_, fs₂, _, ended⟩
    · obtain ⟨fault, failed⟩ := Job.on_act_eq_error ended
      rw [FileStore.register_error failed]
      exact preparing.of_on before
    · cases ended

/-- A run that is rejected ends the program with its error. -/
theorem program_of_created_eq_error {arguments : List String} (parsed : parse arguments = .ok (.call i))
    (asked : i.command = .run workflow entity entityType entityId entityName actor)
    (rejected : (created s i workflow entity entityType entityId entityName actor).on fs = (.error message, fs')) :
    program s arguments fs = ⟨1, banner, "\n" ++ errorLine message, fs'⟩ := by
  have performed : (perform (wantsColour s.environment) s i).run.run fs = (.error message, fs') := by
    change Job.on _ fs = _
    rw [perform_run s i workflow entity entityType entityId entityName actor _ asked, Job.on_bind, rejected]
  unfold program
  rw [parsed]
  dsimp only
  rw [performed]

variable (s fs) in
/-- **What a run changes that is rejected before its execution is created**: nothing where its command line is refused;
nothing but that directories are made where it is rejected before its workflow is registered; and afterwards its
workflow has taken the place of the one of its id, so that the files say what they said just where that one was kept in
the same text. -/
theorem rejected_run (arguments : List String) :
    (∀ refusal, parse arguments = .error refusal → (program s arguments fs).files = fs) ∧
      ∀ message fs', parse arguments = .ok (.call i) →
        i.command = .run workflow entity entityType entityId entityName actor →
        (created s i workflow entity entityType entityId entityName actor).on fs = (.error message, fs') →
        program s arguments fs = ⟨1, banner, "\n" ++ errorLine message, fs'⟩ ∧
          match (registered s i workflow).on fs with
          | (.error _, _) => MakesDirectories fs fs'
          | (.ok (c, _, w), _) =>
            let store := s.store c
            ∃ fs₁ place, store.openDirectories fs = (.ok (), fs₁) ∧ MakesDirectories fs fs₁ ∧
              store.Registers fs₁ w place fs' ∧
                (fs'.textAt = fs.textAt ↔ fs.textAt (shortPath place) = some (s.printYaml w.encode)) := by
  refine ⟨fun refusal refused => by rw [program, refused], fun message fs' parsed asked rejected => ?_⟩
  refine ⟨program_of_created_eq_error parsed asked rejected, ?_⟩
  rcases created_eq_error rejected with ended | ⟨c, e, w, ended⟩
  · rw [ended]
    exact registered_eq_error ended
  · rw [ended]
    obtain ⟨fs₁, place, opened, -, registers⟩ := registered_eq_ok ended
    have made : MakesDirectories fs fs₁ := by
      have made := FileStore.makesDirectories_of_openDirectories (s.store c) fs
      rwa [opened] at made
    refine ⟨fs₁, place, opened, made, registers, ?_⟩
    rw [registers.texts, made.texts, Function.update_eq_self_iff, eq_comm]
    exact Iff.rfl

end Ended

/-! ## A sample -/

namespace Sample

open FileStore (eq_ok_of_toOption workflowName)
open FileStore.Sample (source definition load_source read?_saved denotes_saved read?_of_events plain)

def surroundings : Surroundings := ⟨fun _ => none, fun _ => "e1", fun _ => ⟨0, 0⟩, fun _ => .timedOut, Yaml.print⟩

def arguments : List String :=
  ["run", "a.yaml", "--entity", "missing.json", "--entity-type", "t", "--entity-id", "1", "--data-dir", "data"]

def invocation : Invocation := ⟨.run "a.yaml" "missing.json" "t" "1" none none, none, some "data", false⟩

/-- A workflow of the same id that was registered before. -/
def older : String := "name: Older\n"

def olderDefinition : Definition := Definition.new "a" "Older"

/-- The working directory with the workflow's file and a data directory, in which the older workflow is. -/
def disk : FileSystem :=
  ⟨[("home/a.yaml", .file source), ("home/data/workflows/a.yaml", .file older),
    ("home/data/workflows", .directory), ("home/data/executions", .directory), ("home/data", .directory),
    ("home", .directory)], ["home"]⟩

/-- The place of the workflow among those that are registered. -/
def place : Place := ["home", "data", "workflows"] ++ [workflowName "a"]

/-- The same with the workflow in the older one's place. -/
def replaced : FileSystem := disk.put place (.file (Yaml.print definition.encode))

def config : Config := { Config.default with dataDir := "data" }

def complaint : String := "Could not read entity file 'missing.json': No such file or directory (os error 2)"

theorem parse_arguments : parse arguments = .ok (.call invocation) := eq_ok_of_toOption (by decide +kernel)

theorem home : disk.node? disk.working = some .directory := rfl

theorem data : disk.Opens "data" ["home", "data"] :=
  ⟨locate_name (by decide) home, rfl⟩

theorem executions : disk.Opens (FileStore.ofDirectory Yaml.print "data").executions ["home", "data", "executions"] :=
  ⟨data.locate_join (by decide), rfl⟩

theorem workflows : disk.Opens (FileStore.ofDirectory Yaml.print "data").workflows ["home", "data", "workflows"] :=
  ⟨data.locate_join (by decide), rfl⟩

theorem older_there : disk.node? place = some (.file older) := rfl

theorem usable : isFileId "a" = true := by cbv

theorem not_directory : disk.node? place ≠ some .directory := by
  rw [older_there]
  nofun

theorem keeps_replaced : KeepsDirectories disk replaced := keepsDirectories_put not_directory _

theorem configured : (settings surroundings invocation).on disk = (.ok config, disk) := by
  have loaded : Config.load disk invocation.config surroundings.environment = .ok .default := by
    have absent : disk.exists? Config.usualFile = false :=
      exists?_of_find (find_name (by decide) home)
    unfold Config.load
    simp only [invocation, absent]
    rfl
  unfold settings
  rw [Job.on_bind, Job.on_look, loaded]
  rfl

theorem engine : ∃ e, (openEngine surroundings config).on disk = (.ok e, disk) := by
  have opened : (surroundings.store config).openDirectories disk = (.ok (), disk) :=
    FileStore.openDirectories_of_opens executions workflows
  have policies : Policies.load disk config.policiesPath = .ok {} := by
    have absent : disk.exists? config.policiesPath = false :=
      exists?_of_find (data.find_join (by decide))
    rw [Policies.load, absent]
    rfl
  unfold openEngine
  rw [Job.on_bind, Job.on_act, opened]
  dsimp only [Except.mapError]
  rw [Job.on_bind, Job.on_look, policies]
  exact ⟨_, rfl⟩

theorem loaded : Definition.load disk "a.yaml" = .ok definition :=
  load_source (read_of_find (find_name (by decide) home))

theorem registered_arguments : ∃ e,
    (registered surroundings invocation "a.yaml").on disk = (.ok (config, e, definition), replaced) := by
  obtain ⟨e, engine⟩ := engine
  have prepared : (prepared surroundings invocation "a.yaml").on disk = (.ok (config, e, definition), disk) := by
    unfold prepared
    rw [Job.on_bind_of_ok configured, Job.on_bind_of_ok engine, Job.on_bind_of_ok Job.on_get, loaded]
    rfl
  have kept : (surroundings.store config).register disk definition = (.ok (), replaced) :=
    FileStore.register_of_opens workflows usable not_directory
  refine ⟨e, ?_⟩
  unfold registered
  rw [Job.on_bind_of_ok prepared]
  dsimp only
  rw [Job.on_bind, Job.on_act, kept]
  rfl

theorem rejected : (created surroundings invocation "a.yaml" "missing.json" "t" "1" none none).on disk =
    (.error complaint, replaced) := by
  obtain ⟨e, registered⟩ := registered_arguments
  have absent : replaced.find "missing.json" = .error .notFound :=
    find_name (by decide) (keeps_replaced.directories _ home)
  have missing : replaced.read "missing.json" = .error .notFound := by
    rw [FileSystem.read, absent]
    rfl
  unfold created requested
  rw [Job.on_bind_of_ok registered]
  dsimp only
  rw [Job.on_bind, Job.on_bind_of_ok Job.on_get, missing]
  rfl

/-- The workflow that was registered before is looked up by its id. -/
theorem older_registered : (FileStore.ofDirectory Yaml.print "data").workflow disk "a" = .ok (some olderDefinition) := by
  have read : Yaml.read? older = some (.mapping [(plain "name", plain "Older")] none) :=
    read?_of_events (by decide +kernel : (Yaml.scan? older.toList).bind Yaml.parse? = some [.mappingStart .none,
      .scalar "name" .plain .none, .scalar "Older" .plain .none, .mappingEnd]) (by cbv)
  have decoded : Definition.decode? (Yaml.Node.mapping [(plain "name", plain "Older")] none) =
      some { olderDefinition with id := "" } := rfl
  have loaded : Definition.load disk ((FileStore.ofDirectory Yaml.print "data").workflowPath "a") = .ok olderDefinition :=
    Definition.load_eq_ok_iff.2 ⟨older, _, _,
      workflows.read_join (FileStore.fileName_workflowName usable) older_there, read, decoded, by decide +kernel⟩
  exact FileStore.workflow_of_load usable loaded

/-- There are no executions. -/
theorem listed : (FileStore.ofDirectory Yaml.print "data").list replaced = .ok [] := by
  have none : replaced.namesAt ["home", "data", "executions"] = [] := by decide +kernel
  unfold FileStore.list
  rw [entries_of_opens (executions.mono keeps_replaced), none]
  simp [Execution.inOrder, Except.mapError]

/-- Afterwards it is the workflow of the run. -/
theorem definition_registered :
    (FileStore.ofDirectory Yaml.print "data").workflow replaced "a" = .ok (some definition) := by
  have there : replaced.node? place = some (.file (Yaml.print definition.encode)) := by
    have below : place ≠ [] := by simp [place]
    rw [replaced, node?_put _ _ below, if_pos ⟨below, rfl⟩]
  have again : Definition.load replaced ((FileStore.ofDirectory Yaml.print "data").workflowPath "a") = .ok definition :=
    Definition.load_of_load loaded (isBlank_of_isFileId usable)
      ((workflows.mono keeps_replaced).read_join (FileStore.fileName_workflowName usable) there) read?_saved
      denotes_saved
  exact FileStore.workflow_of_load usable again

end Sample

/-- A run without its entity. -/
theorem rejected_run_missing_entity :
    program Sample.surroundings Sample.arguments Sample.disk =
        ⟨1, banner, "\n" ++ errorLine Sample.complaint, Sample.replaced⟩ ∧
      ∃ fs₁ place, (FileStore.ofDirectory Yaml.print "data").openDirectories Sample.disk = (.ok (), fs₁) ∧
        MakesDirectories Sample.disk fs₁ ∧
        (FileStore.ofDirectory Yaml.print "data").Registers fs₁ FileStore.Sample.definition place Sample.replaced ∧
        (Sample.replaced.textAt = Sample.disk.textAt ↔
          Sample.disk.textAt (shortPath place) = some (Yaml.print FileStore.Sample.definition.encode)) := by
  obtain ⟨e, registered⟩ := Sample.registered_arguments
  have effect := (rejected_run Sample.surroundings Sample.disk Sample.arguments).2 _ _ Sample.parse_arguments rfl
    Sample.rejected
  rw [registered] at effect
  exact effect

/-- A run without its entity has replaced the workflow that was registered under the same id. -/
theorem rejected_run_replaces_workflow :
    let store := FileStore.ofDirectory Yaml.print "data"
    let last := program Sample.surroundings Sample.arguments Sample.disk
    last.status = 1 ∧ last.stderr = "\n" ++ errorLine Sample.complaint ∧ store.list last.files = .ok [] ∧
      store.workflow Sample.disk "a" = .ok (some Sample.olderDefinition) ∧
      store.workflow last.files "a" = .ok (some FileStore.Sample.definition) ∧
      Sample.olderDefinition ≠ FileStore.Sample.definition := by
  intro store last
  have ended : last = ⟨1, banner, "\n" ++ errorLine Sample.complaint, Sample.replaced⟩ :=
    program_of_created_eq_error Sample.parse_arguments rfl Sample.rejected
  rw [ended]
  have other : Sample.olderDefinition ≠ FileStore.Sample.definition := fun same =>
    absurd (congrArg Definition.name same) (by decide)
  exact ⟨rfl, rfl, Sample.listed, Sample.older_registered, Sample.definition_registered, other⟩

end Cli

end Workflows

import Workflows.Proofs.Definition.RoundTrip
import Workflows.Proofs.File.Texts
import Workflows.Proofs.Store.File

/-!
# What opening and registering change

Opening a store makes directories; what fails leaves the files as they were; and a workflow that is registered takes the
place of the one of its id, and of nothing else.

* `FileStore.makesDirectories_of_openDirectories`, `FileStore.executions_of_openDirectories`,
  `FileStore.openDirectories_of_opens`: opened directories;
* `FileStore.create_error`, `FileStore.register_error`: what fails changes nothing;
* `FileStore.Registers`: a workflow took the place of the one of its id;
  `FileStore.register_of_opens`: when one is registered; **`FileStore.registers_of_register`**: registering comes to that.
-/

namespace Workflows

namespace FileStore

open FileSystem

variable {store : FileStore} {fs fs' : FileSystem} {p : Place}

/-! ## Opening -/

theorem makesDirectories_of_makeDirectory {path : String} (made : makeDirectory path fs = .ok fs') :
    MakesDirectories fs fs' := by
  unfold makeDirectory at made
  cases directories : FileSystem.makeDirectories (path.length + 1) path fs with
  | error fault => rw [directories] at made; cases made
  | ok fs₁ =>
    rw [directories] at made
    cases made
    exact makesDirectories_of_makeDirectories directories

/-- Opening a store makes directories, also where it fails. -/
theorem makesDirectories_of_openDirectories (store : FileStore) (fs : FileSystem) :
    MakesDirectories fs (store.openDirectories fs).2 := by
  unfold openDirectories
  cases executions : makeDirectory store.executions fs with
  | error fault => exact .refl fs
  | ok fs₁ =>
    have first := makesDirectories_of_makeDirectory executions
    dsimp only
    cases workflows : makeDirectory store.workflows fs₁ with
    | error fault => exact first
    | ok fs₂ => exact first.trans (makesDirectories_of_makeDirectory workflows)

/-- The directory of executions that was made when a store was opened is there. -/
theorem executions_of_openDirectories (opened : store.openDirectories fs = (.ok (), fs'))
    (named : store.executions ≠ "") : ∃ p, fs'.Opens store.executions p := by
  unfold openDirectories at opened
  cases executions : makeDirectory store.executions fs with
  | error fault => simp [executions] at opened
  | ok fs₁ =>
    rw [executions] at opened
    dsimp only at opened
    cases workflows : makeDirectory store.workflows fs₁ with
    | error fault => simp [workflows] at opened
    | ok fs₂ =>
      rw [workflows] at opened
      cases opened
      have keeps := (makesDirectories_of_makeDirectory workflows).toKeepsDirectories
      unfold makeDirectory at executions
      cases directories : FileSystem.makeDirectories (store.executions.length + 1) store.executions fs with
      | error fault => rw [directories] at executions; cases executions
      | ok fs₃ =>
        rw [directories] at executions
        cases executions
        obtain ⟨p, opens⟩ := opens_of_makeDirectories named directories
        exact ⟨p, opens.mono keeps⟩

/-- Opening a store whose directories are there changes nothing. -/
theorem openDirectories_of_opens {q : Place} (executions : fs.Opens store.executions p)
    (workflows : fs.Opens store.workflows q) : store.openDirectories fs = (.ok (), fs) := by
  unfold openDirectories
  simp only [makeDirectory_of_opens executions, makeDirectory_of_opens workflows]

/-! ## What fails -/

/-- An execution that could not be kept has changed nothing. -/
theorem create_error {e : Execution} {fault : EngineError} (opens : fs.Opens store.executions p)
    (failed : store.create fs e = (.error fault, fs')) : fs' = fs := by
  unfold create at failed
  split at failed
  · cases failed
    rfl
  · next usable =>
    split at failed
    · cases failed
      rfl
    · next fresh =>
      have usable : isFileId e.id = true := by simpa using usable
      have target_free : fs.node? (p ++ [recordName e.id]) ≠ some .directory := fun there =>
        fresh ((opens.exists?_join (fileName_recordName usable)).trans (by rw [there]; rfl))
      by_cases source_free : fs.node? (p ++ [scratchName e.id]) = some .directory
      · have unwritten : fs.write (store.temporaryPath e.id) (executionText e) = .error .isDirectory := by
          have located : fs.locate (store.temporaryPath e.id) = .ok (p ++ [scratchName e.id]) :=
            opens.locate_join (fileName_scratchName usable)
          simp only [FileSystem.write, located, source_free, bind, Except.bind]
          rfl
        rw [write, unwritten] at failed
        cases failed
        rfl
      · -- once the file is written under its first name, renaming it cannot fail
        have written : fs.write (store.temporaryPath e.id) (executionText e) = _ :=
          opens.write (fileName_scratchName usable) source_free (executionText e)
        have renamed : FileSystem.rename _ (store.temporaryPath e.id) (store.executionPath e.id) = _ :=
          opens.rename_put (fileName_scratchName usable) (fileName_recordName usable)
            (recordName_ne_scratchName usable usable).symm source_free target_free (executionText e)
        rw [write, written] at failed
        dsimp only at failed
        rw [renamed] at failed
        cases failed

/-- A workflow that could not be registered has changed nothing. -/
theorem register_error {w : Definition} {fault : EngineError} (failed : store.register fs w = (.error fault, fs')) :
    fs' = fs := by
  unfold register at failed
  split at failed
  · cases failed
    rfl
  · split at failed
    · cases failed
      rfl
    · cases failed

/-! ## Registering -/

/-- The name of a workflow's file. -/
def workflowName (id : String) : String := id ++ "." ++ "yaml"

theorem fileName_workflowName {id : String} (usable : isFileId id = true) : FileName (workflowName id) :=
  fileName_of_isFileId usable (by decide) (by decide)

theorem workflowName_inj {id id' : String} (usable : isFileId id = true) (usable' : isFileId id' = true) :
    workflowName id = workflowName id' ↔ id = id' :=
  ⟨fun same => (fileName_inj usable usable' (by decide) (by decide) same).1, congrArg workflowName⟩

theorem isRecord_workflowName {id : String} (usable : isFileId id = true) : isRecord (workflowName id) = false := by
  rw [isRecord, extension?_of_fileName (fileName_workflowName usable), workflowName,
    splitName_append (ne_empty_of_isFileId usable) (by decide)]
  rfl

/-- A name that is in a directory stands for itself in a path if it is that of an execution's file. -/
theorem fileName_of_isRecord {name : String} (mem : name ∈ fs.namesAt p) (record : isRecord name = true) :
    FileName name := by
  obtain ⟨b, -, there⟩ := List.mem_filterMap.1 mem
  obtain ⟨ne_empty, undivided⟩ := plain_of_nameIn there
  exact {
    undivided
    ne_empty
    ne_point := fun same => absurd record (by rw [same]; decide)
    ne_back := fun same => absurd record (by rw [same]; decide) }

theorem get_congr {id : String}
    (same : isFileId id = true → fs'.find (store.executionPath id) = fs.find (store.executionPath id)) :
    store.get fs' id = store.get fs id := by
  unfold get readFile
  cases usable : isFileId id with
  | false => rfl
  | true => simp only [exists?_congr (same usable), read_congr (same usable)]

/-- A workflow that can be loaded from the file of an id is looked up by it. -/
theorem workflow_of_load {id : String} {w : Definition} (usable : isFileId id = true)
    (loaded : Definition.load fs (store.workflowPath id) = .ok w) :
    store.workflow fs id = .ok (some { w with id }) := by
  have there : fs.exists? (store.workflowPath id) = true := by
    obtain ⟨text, -, -, read, -⟩ := Definition.load_eq_ok_iff.1 loaded
    unfold exists?
    cases found : fs.find (store.workflowPath id) with
    | error fault => rw [FileSystem.read, found] at read; cases read
    | ok node => rfl
  unfold workflow
  simp only [usable, there, loaded]
  rfl

theorem workflow_congr {id : String}
    (same : isFileId id = true → fs'.find (store.workflowPath id) = fs.find (store.workflowPath id)) :
    store.workflow fs' id = store.workflow fs id := by
  unfold workflow Definition.load
  cases usable : isFileId id with
  | false => rfl
  | true => simp only [exists?_congr (same usable), read_congr (same usable)]

theorem list_congr (opens : fs.Opens store.executions p) (opens' : fs'.Opens store.executions p)
    (names : (fs'.namesAt p).filter isRecord = (fs.namesAt p).filter isRecord)
    (same : ∀ name ∈ fs.namesAt p, isRecord name = true →
      fs'.find (Path.join store.executions name) = fs.find (Path.join store.executions name)) :
    store.list fs' = store.list fs := by
  have listed {fs : FileSystem} (opens : fs.Opens store.executions p) :
      store.list fs = .ok (Execution.inOrder (((fs.namesAt p).filter isRecord).filterMap (store.readAt fs))) := by
    unfold list
    rw [entries_of_opens opens]
    rfl
  rw [listed opens, listed opens', names]
  refine congrArg (Except.ok <| Execution.inOrder ·) (List.filterMap_congr fun name mem => ?_)
  obtain ⟨there, record⟩ := List.mem_filter.1 mem
  rw [readAt, readAt, readFile, readFile, read_congr (same name there record)]

/-- A workflow took the place of the one of its id, in a file of its own, and nothing else has changed: no other file,
no execution and no other workflow. -/
structure Registers (store : FileStore) (fs : FileSystem) (w : Definition) (place : Place) (fs' : FileSystem) :
    Prop extends KeepsDirectories fs fs' where
  located : fs'.locate (store.workflowPath w.id) = .ok place
  texts : fs'.textAt = Function.update fs.textAt (shortPath place) (some (store.printYaml w.encode))
  executions : ∀ id, store.get fs' id = store.get fs id
  listed : store.list fs' = store.list fs
  others : ∀ id ≠ w.id, store.workflow fs' id = store.workflow fs id

/-- A workflow is registered where no directory has the name of its file. -/
theorem register_of_opens {w : Definition} {q : Place} (workflows : fs.Opens store.workflows q)
    (usable : isFileId w.id = true) (free : fs.node? (q ++ [workflowName w.id]) ≠ some .directory) :
    store.register fs w = (.ok (), fs.put (q ++ [workflowName w.id]) (.file (store.printYaml w.encode))) := by
  have written : fs.write (store.workflowPath w.id) (store.printYaml w.encode) = _ :=
    workflows.write (fileName_workflowName usable) free _
  unfold register Definition.save
  rw [usable, written]
  rfl

/-- **A workflow that is registered takes the place of the one of its id, and of nothing else.** -/
theorem registers_of_register {w : Definition} {q : Place} (executions : fs.Opens store.executions p)
    (workflows : fs.Opens store.workflows q) (registered : store.register fs w = (.ok (), fs')) :
    store.Registers fs w (q ++ [workflowName w.id]) fs' := by
  unfold register at registered
  split at registered
  · cases registered
  · next usable =>
    have usable : isFileId w.id = true := by simpa using usable
    have named := fileName_workflowName usable
    have place : fs.locate (store.workflowPath w.id) = .ok (q ++ [workflowName w.id]) := workflows.locate_join named
    cases written : fs.write (store.workflowPath w.id) (store.printYaml w.encode) with
    | error fault =>
      rw [Definition.save, written] at registered
      cases registered
    | ok fs₁ =>
      rw [Definition.save, written] at registered
      cases registered
      obtain ⟨at_place, located, free, rfl⟩ := write_eq_ok_iff.1 written
      cases place.symm.trans located
      have keeps : KeepsDirectories fs (fs.put (q ++ [workflowName w.id]) (.file (store.printYaml w.encode))) :=
        keepsDirectories_put free _
      have apart {name : String} (record : isRecord name = true) : name ≠ workflowName w.id := fun same => by
        rw [same, isRecord_workflowName usable] at record
        cases record
      generalize after : fs.put (q ++ [workflowName w.id]) (.file (store.printYaml w.encode)) = fs' at keeps ⊢
      have found {dir name : String} {r : Place} (opens : fs.Opens dir r) (plain : FileName name)
          (ne : name ≠ workflowName w.id) : fs'.find (Path.join dir name) = fs.find (Path.join dir name) :=
        after ▸ opens.find_join_put plain named.undivided ne free
      refine ⟨keeps, keeps.locate located, after ▸ textAt_put (by simp), fun id => ?_, ?_, fun id other => ?_⟩
      · exact get_congr fun usable' =>
          found executions (fileName_recordName usable') (apart (isRecord_recordName usable'))
      · exact list_congr executions (executions.mono keeps)
          (after ▸ namesAt_put named.undivided (isRecord_workflowName usable) _) fun name there record =>
            found executions (fileName_of_isRecord there record) (apart record)
      · exact workflow_congr fun usable' => found workflows (fileName_workflowName usable') fun same =>
          other ((workflowName_inj usable' usable).1 same)

end FileStore

end Workflows

import Workflows.Proofs.Data.Dict
import Workflows.Proofs.File.System
import Workflows.Proofs.Json.Printing
import Workflows.Proofs.Store.Answers
import Workflows.Proofs.Store.Memory
import Workflows.Proofs.Store.Order
import Workflows.Yaml.Printer

/-!
# The store in files answers like the store in memory

Where the executions that it comes to hold are the same again after they were written and read, a store in
files says the same as one in memory, whatever is asked of it.

* `recordName`, `scratchName`: the names of an execution's file, at last and at first; `recordName_inj`,
  `scratchName_inj`, `recordName_ne_scratchName`: no two of them are the same;
* `FileStore.Durable`: an execution is the same again when it was written and read; `durable_of_legible`: when it is;
* `FileStore.Mirrors`: a directory holds what a store in memory does; `Mirrors.get`, `.create`, `.change`,
  `.list`: what the operations come to there, and that they keep it so;
* `simulates_memory`: each operation; **`answers_eq_memory`**: every sequence of operations, on a directory
  that was opened with no executions in it.
-/

namespace Workflows

/-! ## The names of files -/

section Names

variable {id ext : String}

theorem ne_empty_of_isFileId (usable : isFileId id = true) : id ≠ "" := by
  rintro rfl
  cases usable

/-- No character of an id that files can be named by divides a path. -/
theorem undivided_of_isFileId (usable : isFileId id = true) : '/' ∉ id.toList := by
  intro divided
  unfold isFileId at usable
  simp only [Bool.and_eq_true, List.all_eq_true] at usable
  exact absurd (usable.2 '/' divided) (by decide)

theorem fileName_of_isFileId (usable : isFileId id = true) (plain : '/' ∉ ext.toList) (some : ext ≠ "") :
    FileSystem.FileName (id ++ "." ++ ext) := by
  have first : 0 < id.toList.length := List.length_pos_iff.2 (by simpa using ne_empty_of_isFileId usable)
  have last : 0 < ext.toList.length := List.length_pos_iff.2 (by simpa using some)
  have long : 3 ≤ (id ++ "." ++ ext).toList.length := by
    simp only [String.toList_append, List.length_append, show ".".toList.length = 1 from rfl]
    omega
  exact {
    undivided := by simpa using ⟨undivided_of_isFileId usable, plain⟩
    ne_empty := fun same => absurd long (by rw [same]; decide)
    ne_point := fun same => absurd long (by rw [same]; decide)
    ne_back := fun same => absurd long (by rw [same]; decide) }

/-- A name is divided at its last point. -/
theorem splitName_append (nonempty : id ≠ "") (pointless : '.' ∉ ext.toList) :
    Path.splitName (id ++ "." ++ ext) = (id, some ext) := by
  have chars : (id ++ "." ++ ext).toList = id.toList ++ '.' :: ext.toList := by simp
  have tail : ((id.toList ++ '.' :: ext.toList).reverse.takeWhile (· ≠ '.')).reverse = ext.toList := by
    rw [List.reverse_append, List.reverse_cons, List.append_assoc, List.takeWhile_append_of_pos]
    · simp
    · intro c mem
      simpa using fun same => pointless (by simpa [same] using mem)
  have before : (id.toList ++ '.' :: ext.toList).take
      ((id.toList ++ '.' :: ext.toList).length - ext.toList.length - 1) = id.toList := by
    rw [List.length_append, List.length_cons, show id.toList.length + (ext.toList.length + 1) -
      ext.toList.length - 1 = id.toList.length by omega, List.take_left]
  unfold Path.splitName
  simp only [chars, tail, before]
  rw [if_neg (by simpa using nonempty)]
  simp

theorem extension?_of_fileName {name : String} (named : FileSystem.FileName name) :
    Path.extension? name = (Path.splitName name).2 := by
  have one : Path.names name = [name] := by
    unfold Path.names
    rw [List.splitOn_eq_singleton named.undivided, List.map_singleton, String.ofList_toList]
    simp [named.ne_empty, named.ne_point]
  unfold Path.extension? Path.fileName?
  rw [one, List.getLast?_singleton]
  split
  · next same => exact absurd (Option.some.inj same) named.ne_back
  · rfl

/-- The names of two files are the same only for the same id and the same extension. -/
theorem fileName_inj {id' ext' : String} (usable : isFileId id = true) (usable' : isFileId id' = true)
    (pointless : '.' ∉ ext.toList) (pointless' : '.' ∉ ext'.toList)
    (same : id ++ "." ++ ext = id' ++ "." ++ ext') : id = id' ∧ ext = ext' := by
  have split := congrArg Path.splitName same
  rw [splitName_append (ne_empty_of_isFileId usable) pointless,
    splitName_append (ne_empty_of_isFileId usable') pointless'] at split
  simpa using split

/-- The name of an execution's file. -/
def recordName (id : String) : String := id ++ "." ++ "json"

/-- The name that an execution's file is written under first. -/
def scratchName (id : String) : String := id ++ "." ++ "tmp"

theorem fileName_recordName (usable : isFileId id = true) : FileSystem.FileName (recordName id) :=
  fileName_of_isFileId usable (by decide) (by decide)

theorem fileName_scratchName (usable : isFileId id = true) : FileSystem.FileName (scratchName id) :=
  fileName_of_isFileId usable (by decide) (by decide)

theorem extension?_recordName (usable : isFileId id = true) :
    Path.extension? (recordName id) = some "json" := by
  rw [extension?_of_fileName (fileName_recordName usable), recordName,
    splitName_append (ne_empty_of_isFileId usable) (by decide)]

theorem extension?_scratchName (usable : isFileId id = true) :
    Path.extension? (scratchName id) = some "tmp" := by
  rw [extension?_of_fileName (fileName_scratchName usable), scratchName,
    splitName_append (ne_empty_of_isFileId usable) (by decide)]

theorem recordName_inj {id' : String} (usable : isFileId id = true) (usable' : isFileId id' = true) :
    recordName id = recordName id' ↔ id = id' :=
  ⟨fun same => (fileName_inj usable usable' (by decide) (by decide) same).1, congrArg recordName⟩

theorem scratchName_inj {id' : String} (usable : isFileId id = true) (usable' : isFileId id' = true) :
    scratchName id = scratchName id' ↔ id = id' :=
  ⟨fun same => (fileName_inj usable usable' (by decide) (by decide) same).1, congrArg scratchName⟩

theorem recordName_ne_scratchName {id' : String} (usable : isFileId id = true)
    (usable' : isFileId id' = true) : recordName id ≠ scratchName id' := fun same =>
  absurd (fileName_inj usable usable' (by decide) (by decide) same).2 (by decide)

end Names

/-! ## Directories that hold what a store in memory does -/

theorem Execution.id_of_append {e e' : Execution} {r : StepRecord} (h : e.append r = .ok e') :
    e'.id = e.id := by
  unfold append at h
  cases allowed : e.expect .running with
  | error fault => rw [allowed] at h; cases h
  | ok _ => rw [allowed] at h; cases h; rfl

theorem Execution.id_of_update {e e' : Execution} {expected : Status} {u : StatusUpdate}
    (h : e.update expected u = .ok e') : e'.id = e.id := by
  unfold update at h
  cases allowed : e.expect expected with
  | error fault => rw [allowed] at h; cases h
  | ok _ => rw [allowed] at h; cases h; rfl

namespace FileStore

/-- An execution is the same again when it was written and read. -/
def Durable (e : Execution) : Prop := parseExecution (executionText e) = .ok e

/-- Whether a name is that of an execution's file. -/
def isRecord (name : String) : Bool := Path.extension? name == some "json"

theorem isRecord_recordName {id : String} (usable : isFileId id = true) :
    isRecord (recordName id) = true := by
  rw [isRecord, extension?_recordName usable]
  rfl

/-- The execution in a file of the directory of executions, if it can be read. -/
def readAt (store : FileStore) (fs : FileSystem) (name : String) : Option Execution :=
  (readFile fs (Path.join store.executions name)).toOption

/-- The executions that can be read, as their files come. -/
def readable (store : FileStore) (fs : FileSystem) (place : Place) : List Execution :=
  ((fs.namesAt place).filter isRecord).filterMap (store.readAt fs)

/-- The directory of executions holds what a store in memory does. -/
structure Mirrors (store : FileStore) (place : Place) (fs : FileSystem) (s : MemoryStore) : Prop where
  opens : fs.Opens store.executions place
  workflows : store.workflows = "" ∨ ∃ p, fs.Opens store.workflows p
  own : ∀ id e, s.executions.get? id = some e → e.id = id ∧ isFileId id = true ∧ Durable e
  kept : ∀ id, isFileId id = true →
    fs.node? (place ++ [recordName id]) = (s.executions.get? id).map fun e => .file (executionText e)
  free : ∀ id, isFileId id = true → fs.node? (place ++ [scratchName id]) ≠ some .directory
  records : ∀ name ∈ fs.namesAt place, isRecord name = true →
    ∃ id, isFileId id = true ∧ name = recordName id
  nodup : ((fs.namesAt place).filter isRecord).Nodup

variable {store : FileStore} {place : Place} {fs : FileSystem} {s : MemoryStore} {id : String}

/-- A directory that is there need not be made. -/
theorem makeDirectory_of_opens {path : String} (opens : fs.Opens path place) : makeDirectory path fs = .ok fs := by
  rw [makeDirectory, FileSystem.makeDirectories_of_opens opens]
  rfl

namespace Mirrors

theorem readFile (mirrors : Mirrors store place fs s) {e : Execution}
    (stored : s.executions.get? id = some e) :
    FileStore.readFile fs (Path.join store.executions (recordName id)) = .ok e := by
  obtain ⟨-, usable, durable⟩ := mirrors.own id e stored
  have there : fs.node? (place ++ [recordName id]) = some (.file (executionText e)) := by
    rw [mirrors.kept id usable, stored]
    rfl
  unfold FileStore.readFile
  rw [mirrors.opens.read_join (fileName_recordName usable) there]
  exact durable

theorem exists? (mirrors : Mirrors store place fs s) (usable : isFileId id = true) :
    fs.exists? (store.executionPath id) = (s.executions.get? id).isSome := by
  refine (mirrors.opens.exists?_join (fileName_recordName usable)).trans ?_
  rw [mirrors.kept id usable, Option.isSome_map]

theorem no_directory (mirrors : Mirrors store place fs s) (usable : isFileId id = true) :
    fs.node? (place ++ [recordName id]) ≠ some .directory := by
  rw [mirrors.kept id usable]
  cases s.executions.get? id <;> simp

/-- An id is looked up alike. -/
theorem get (mirrors : Mirrors store place fs s) (usable : isFileId id = true) :
    store.get fs id = .ok (s.executions.get? id) := by
  unfold FileStore.get
  simp only [usable, mirrors.exists? usable, Bool.true_and]
  cases stored : s.executions.get? id with
  | none => rfl
  | some e =>
    have read := mirrors.readFile stored
    simp only [executionPath, Path.file, Option.isSome_some, if_true]
    rw [recordName] at read
    rw [read]
    rfl

/-- Writing an execution replaces its file. -/
theorem write (mirrors : Mirrors store place fs s) {e : Execution} (usable : isFileId e.id = true) :
    store.write fs e =
      (.ok (), fs.replace place (scratchName e.id) (recordName e.id) (executionText e)) := by
  have source_free := mirrors.free e.id usable
  have target_free := mirrors.no_directory usable
  have written := mirrors.opens.write (fileName_scratchName usable) source_free (executionText e)
  have renamed := mirrors.opens.rename_put (fileName_scratchName usable) (fileName_recordName usable)
    (recordName_ne_scratchName usable usable).symm source_free target_free (executionText e)
  unfold FileStore.write
  simp only [temporaryPath, executionPath, Path.file]
  rw [scratchName] at written
  rw [scratchName, recordName] at renamed
  rw [written]
  simp only
  rw [renamed]
  rfl

/-- After that, the directory holds what the store in memory does with the execution. -/
theorem set (mirrors : Mirrors store place fs s) {e : Execution} (usable : isFileId e.id = true)
    (durable : Durable e) :
    Mirrors store place (fs.replace place (scratchName e.id) (recordName e.id) (executionText e))
      (s.set e.id e) := by
  have keeps : FileSystem.KeepsDirectories fs
      (fs.replace place (scratchName e.id) (recordName e.id) (executionText e)) :=
    FileSystem.keepsDirectories_replace (mirrors.free e.id usable) (mirrors.no_directory usable)
  have names : (fs.replace place (scratchName e.id) (recordName e.id) (executionText e)).namesAt place =
      recordName e.id ::
        (fs.namesAt place).filter fun n => n ≠ recordName e.id ∧ n ≠ scratchName e.id :=
    FileSystem.namesAt_replace (fileName_recordName usable)
  exact {
    opens := mirrors.opens.mono keeps
    workflows := mirrors.workflows.imp_right fun ⟨p, opens⟩ => ⟨p, opens.mono keeps⟩
    own := fun id' e' stored => by
      rw [MemoryStore.get?_set] at stored
      split at stored
      · next same =>
        cases stored
        exact ⟨same, same ▸ usable, durable⟩
      · exact mirrors.own id' e' stored
    kept := fun id' usable' => by
      rw [FileSystem.node?_replace, MemoryStore.get?_set, mirrors.kept id' usable',
        if_neg (recordName_ne_scratchName usable' usable)]
      by_cases same : e.id = id'
      · rw [if_pos same, if_pos (congrArg recordName same.symm), Option.map_some]
      · rw [if_neg same, if_neg fun equal => same ((recordName_inj usable' usable).1 equal).symm]
    free := fun id' usable' => by
      rw [FileSystem.node?_replace, if_neg (recordName_ne_scratchName usable usable').symm]
      split
      · simp
      · exact mirrors.free id' usable'
    records := fun name mem json => by
      rw [names, List.mem_cons, List.mem_filter] at mem
      rcases mem with rfl | ⟨mem, -⟩
      · exact ⟨e.id, usable, rfl⟩
      · exact mirrors.records name mem json
    nodup := by
      have others : ((fs.namesAt place).filter fun n => isRecord n &&
          decide (n ≠ recordName e.id ∧ n ≠ scratchName e.id)).Nodup := by
        simp only [Bool.and_comm (isRecord _)]
        rw [← List.filter_filter]
        exact mirrors.nodup.filter _
      rw [names, List.filter_cons_of_pos (isRecord_recordName usable), List.nodup_cons, List.filter_filter]
      exact ⟨by simp, others⟩ }

/-- What becomes of an execution becomes of it alike. -/
theorem change (mirrors : Mirrors store place fs s) (usable : isFileId id = true)
    {f : Execution → Except EngineError Execution} (keeps_id : ∀ e e', f e = .ok e' → e'.id = e.id)
    (durable : ∀ id' e, (s.change id f).2.executions.get? id' = some e → Durable e) :
    (store.change fs id f).1 = (s.change id f).1 ∧
      Mirrors store place (store.change fs id f).2 (s.change id f).2 := by
  unfold FileStore.change
  rw [mirrors.get usable]
  cases stored : s.executions.get? id with
  | none =>
    have missing : s.change id f = (.error (.executionNotFound id), s) := by
      simp only [MemoryStore.change, MemoryStore.find, stored]
      rfl
    rw [missing]
    exact ⟨rfl, mirrors⟩
  | some e =>
    rw [MemoryStore.change_of_stored stored] at durable ⊢
    simp only [bind, Except.bind]
    cases becomes : f e with
    | error fault => exact ⟨rfl, mirrors⟩
    | ok e' =>
      rw [becomes] at durable
      have same : e'.id = id := (keeps_id e e' becomes).trans (mirrors.own id e stored).1
      have last : Durable e' := durable id e' (by simp)
      simp only [mirrors.write (same ▸ usable : isFileId e'.id = true)]
      refine ⟨rfl, ?_⟩
      have holds := mirrors.set (same ▸ usable : isFileId e'.id = true) last
      rw [same] at holds ⊢
      exact holds

/-- A new execution is kept alike. -/
theorem create (mirrors : Mirrors store place fs s) {e : Execution} (usable : isFileId e.id = true)
    (durable : ∀ id' e', (s.create e).2.executions.get? id' = some e' → Durable e') :
    (store.create fs e).1 = (s.create e).1 ∧ Mirrors store place (store.create fs e).2 (s.create e).2 := by
  unfold FileStore.create
  rw [usable, mirrors.exists? usable]
  cases stored : s.executions.get? e.id with
  | some old =>
    rw [MemoryStore.create_of_stored stored]
    exact ⟨rfl, mirrors⟩
  | none =>
    rw [MemoryStore.create_of_fresh stored] at durable ⊢
    rw [mirrors.write usable]
    exact ⟨rfl, mirrors.set usable (durable e.id e (by simp))⟩

/-- Every file of an execution is that of one in the store. -/
theorem recorded (mirrors : Mirrors store place fs s) {name : String}
    (mem : name ∈ (fs.namesAt place).filter isRecord) :
    ∃ e, s.executions.get? e.id = some e ∧ name = recordName e.id := by
  obtain ⟨there, json⟩ := List.mem_filter.1 mem
  obtain ⟨id, usable, rfl⟩ := mirrors.records name there json
  have some := (FileSystem.mem_namesAt_iff (fileName_recordName usable)).1 there
  rw [mirrors.kept id usable, Option.isSome_map] at some
  obtain ⟨e, stored⟩ := Option.isSome_iff_exists.1 some
  have own := (mirrors.own id e stored).1
  exact ⟨e, own.symm ▸ stored, own ▸ rfl⟩

theorem mem_records (mirrors : Mirrors store place fs s) {e : Execution}
    (stored : s.executions.get? e.id = some e) :
    recordName e.id ∈ (fs.namesAt place).filter isRecord := by
  have usable := (mirrors.own e.id e stored).2.1
  refine List.mem_filter.2 ⟨(FileSystem.mem_namesAt_iff (fileName_recordName usable)).2 ?_,
    isRecord_recordName usable⟩
  rw [mirrors.kept e.id usable, stored]
  rfl

theorem readAt_recordName (mirrors : Mirrors store place fs s) {e : Execution}
    (stored : s.executions.get? e.id = some e) : store.readAt fs (recordName e.id) = some e := by
  unfold readAt
  rw [mirrors.readFile stored]
  rfl

theorem mem_readable_iff (mirrors : Mirrors store place fs s) {e : Execution} :
    e ∈ store.readable fs place ↔ s.executions.get? e.id = some e := by
  rw [readable, List.mem_filterMap]
  constructor
  · rintro ⟨name, mem, found⟩
    obtain ⟨x, stored, rfl⟩ := mirrors.recorded mem
    rw [mirrors.readAt_recordName stored] at found
    cases found
    exact stored
  · exact fun stored => ⟨recordName e.id, mirrors.mem_records stored, mirrors.readAt_recordName stored⟩

/-- No execution is read twice, since no two files hold the same. -/
theorem nodup_readable (mirrors : Mirrors store place fs s) : (store.readable fs place).Nodup := by
  refine List.pairwise_filterMap.2 (mirrors.nodup.imp_of_mem fun mem mem' ne e found e' found' same => ?_)
  obtain ⟨x, stored, rfl⟩ := mirrors.recorded mem
  obtain ⟨x', stored', rfl⟩ := mirrors.recorded mem'
  rw [mirrors.readAt_recordName stored] at found
  rw [mirrors.readAt_recordName stored'] at found'
  cases found
  cases found'
  exact ne (by rw [same])

/-- What is read are the executions in memory, in some order. -/
theorem readable_perm (mirrors : Mirrors store place fs s) :
    (store.readable fs place).Perm s.executions.values := by
  have own : ∀ id e, s.executions.get? id = some e → e.id = id := fun id e stored =>
    (mirrors.own id e stored).1
  refine (List.perm_ext_iff_of_nodup mirrors.nodup_readable (Dict.nodup_values own)).2 fun e => ?_
  rw [mirrors.mem_readable_iff, Dict.mem_values_iff]
  exact ⟨fun stored => ⟨e.id, stored⟩, fun ⟨id, stored⟩ => (own id e stored).symm ▸ stored⟩

/-- The executions are listed alike. -/
theorem list (mirrors : Mirrors store place fs s) :
    store.list fs = .ok (Execution.inOrder s.executions.values) := by
  have ordered := Execution.inOrder_eq_of_perm mirrors.readable_perm fun a mem b mem' same => by
    have stored := mirrors.mem_readable_iff.1 mem
    have stored' := mirrors.mem_readable_iff.1 (mirrors.readable_perm.mem_iff.2 mem')
    rw [same, stored'] at stored
    exact (Option.some.inj stored).symm
  unfold FileStore.list
  rw [FileSystem.entries_of_opens mirrors.opens]
  exact congrArg Except.ok ordered

/-! ## Stores that were opened -/

/-- Opening a store again changes nothing. -/
theorem openDirectories (mirrors : Mirrors store place fs s) :
    store.openDirectories fs = (.ok (), fs) := by
  have workflows : makeDirectory store.workflows fs = .ok fs := by
    rcases mirrors.workflows with empty | ⟨p, opens⟩
    · rw [empty]
      rfl
    · exact makeDirectory_of_opens opens
  unfold FileStore.openDirectories
  simp only [makeDirectory_of_opens mirrors.opens, workflows]

end Mirrors

/-- The directory of workflows that was made when a store was opened is there. -/
theorem workflows_of_openDirectories {fs₀ : FileSystem} (opened : store.openDirectories fs₀ = (.ok (), fs))
    (named : store.workflows ≠ "") : ∃ p, fs.Opens store.workflows p := by
  unfold openDirectories at opened
  split at opened
  · cases opened
  · next fs₁ _ =>
    cases made : makeDirectory store.workflows fs₁ with
    | error fault => simp [made] at opened
    | ok fs₂ =>
      simp only [made, Prod.mk.injEq, true_and] at opened
      subst opened
      unfold makeDirectory at made
      cases directories : FileSystem.makeDirectories (store.workflows.length + 1) store.workflows fs₁ with
      | error fault => rw [directories] at made; cases made
      | ok fs₃ =>
        rw [directories] at made
        cases made
        exact FileSystem.opens_of_makeDirectories named directories

/-- A store that was opened with no executions in it holds what an empty one in memory does. -/
theorem mirrors_empty {fs₀ : FileSystem} {names : List String}
    (opened : store.openDirectories fs₀ = (.ok (), fs))
    (listed : fs.entries store.executions = .ok names)
    (unused : ∀ name ∈ names, Path.extension? name ≠ some "json" ∧ Path.extension? name ≠ some "tmp") :
    ∃ place, Mirrors store place fs ∅ := by
  obtain ⟨place, opens, rfl⟩ := FileSystem.opens_of_entries listed
  have absent {name ext : String} (named : FileSystem.FileName name)
      (extension : Path.extension? name = some ext) (used : ext = "json" ∨ ext = "tmp") :
      fs.node? (place ++ [name]) = none := by
    rw [← Option.not_isSome_iff_eq_none, ← FileSystem.mem_namesAt_iff named]
    intro mem
    obtain ⟨json, tmp⟩ := unused name mem
    rcases used with rfl | rfl
    · exact json extension
    · exact tmp extension
  have no_record (name : String) (mem : name ∈ fs.namesAt place) : ¬ isRecord name = true := by
    simpa [isRecord] using (unused name mem).1
  exact ⟨place, {
    opens
    workflows := (Decidable.em _).imp_right (workflows_of_openDirectories opened)
    own := fun id e stored => by cases stored
    kept := fun id usable =>
      absent (fileName_recordName usable) (extension?_recordName usable) (.inl rfl)
    free := fun id usable => by
      rw [absent (fileName_scratchName usable) (extension?_scratchName usable) (.inr rfl)]
      simp
    records := fun name mem json => absurd json (no_record name mem)
    nodup := by
      rw [List.filter_eq_nil_iff.2 no_record]
      exact List.nodup_nil }⟩

/-- All executions in a store in memory are the same again when they were written and read. -/
def HoldsDurable (s : MemoryStore) : Prop := ∀ id e, s.executions.get? id = some e → Durable e

/-- Different ids have files of their own, and so have the files that are written first. -/
structure SeparatePaths (store : FileStore) (fs : FileSystem) : Prop where
  records : ∀ id id', isFileId id = true → isFileId id' = true →
    fs.locate (store.executionPath id) = fs.locate (store.executionPath id') → id = id'
  temporaries : ∀ id id', isFileId id = true → isFileId id' = true →
    fs.locate (store.temporaryPath id) = fs.locate (store.temporaryPath id') → id = id'
  apart : ∀ id id', isFileId id = true → isFileId id' = true →
    fs.locate (store.executionPath id) ≠ fs.locate (store.temporaryPath id')

theorem Mirrors.separatePaths (mirrors : Mirrors store place fs s) : SeparatePaths store fs := by
  have record {id : String} (usable : isFileId id = true) :
      fs.locate (store.executionPath id) = .ok (place ++ [recordName id]) :=
    mirrors.opens.locate_join (fileName_recordName usable)
  have temporary {id : String} (usable : isFileId id = true) :
      fs.locate (store.temporaryPath id) = .ok (place ++ [scratchName id]) :=
    mirrors.opens.locate_join (fileName_scratchName usable)
  refine ⟨fun id id' usable usable' same => ?_, fun id id' usable usable' same => ?_,
    fun id id' usable usable' same => ?_⟩
  · rw [record usable, record usable'] at same
    exact (recordName_inj usable usable').1 (by simpa using same)
  · rw [temporary usable, temporary usable'] at same
    exact (scratchName_inj usable usable').1 (by simpa using same)
  · rw [record usable, temporary usable'] at same
    exact recordName_ne_scratchName usable usable' (by simpa using same)

/-- Every operation is answered alike, and the directory goes on holding what the store in memory does. -/
theorem simulates_memory :
    Repository.Simulates store.repository MemoryStore.repository (Mirrors store place) StoreOp.Safe
      HoldsDurable := by
  intro fs s op mirrors safe durable
  cases op with
  | create e =>
    obtain ⟨same, next⟩ := mirrors.create safe durable
    exact ⟨congrArg StoreAnswer.done same, next⟩
  | append id r =>
    obtain ⟨same, next⟩ := mirrors.change safe (fun _ _ => Execution.id_of_append) durable
    have answer : (store.append fs id r).1 = (s.append id r).1 := congrArg (·.map fun _ => ()) same
    exact ⟨congrArg StoreAnswer.done answer, next⟩
  | update id expected u =>
    obtain ⟨same, next⟩ := mirrors.change safe (fun _ _ => Execution.id_of_update) durable
    exact ⟨congrArg StoreAnswer.changed same, next⟩
  | get id => exact ⟨congrArg StoreAnswer.found (mirrors.get safe), mirrors⟩
  | list => exact ⟨congrArg StoreAnswer.listed mirrors.list, mirrors⟩

/-- **A store in files answers every sequence of operations as one in memory does**, where it was opened with
no executions in it and the executions that come to be stored are the same again when they were written and
read. Opening it again in between changes nothing, and no two files are ever the same. -/
theorem answers_eq_memory {fs₀ : FileSystem} {names : List String} {ops : List StoreOp}
    (opened : store.openDirectories fs₀ = (.ok (), fs))
    (listed : fs.entries store.executions = .ok names)
    (unused : ∀ name ∈ names, Path.extension? name ≠ some "json" ∧ Path.extension? name ≠ some "tmp")
    (safe : ∀ op ∈ ops, op.Safe)
    (durable : ∀ before, before <+: ops → HoldsDurable (MemoryStore.repository.after ∅ before)) :
    store.repository.answers fs ops = MemoryStore.repository.answers ∅ ops ∧
      ∀ before, before <+: ops →
        store.openDirectories (store.repository.after fs before) =
          (.ok (), store.repository.after fs before) ∧
        SeparatePaths store (store.repository.after fs before) := by
  obtain ⟨place, start⟩ := mirrors_empty opened listed unused
  refine ⟨(simulates_memory.answers_eq start safe durable).1, fun before first => ?_⟩
  have mirrors := (simulates_memory.answers_eq start (fun op mem => safe op (first.mem mem))
    fun earlier shorter => durable earlier (shorter.trans first)).2
  exact ⟨mirrors.openDirectories, mirrors.separatePaths⟩

/-! ## A sample -/

theorem eq_ok_of_toOption {ε α : Type} {r : Except ε α} {a : α} (h : r.toOption = some a) : r = .ok a := by
  cases r with
  | error fault => cases h
  | ok b => exact congrArg Except.ok (Option.some.inj h)

/-- An execution is the same again where its numbers are read as they are printed, and its data as the execution. -/
theorem durable_of_legible {e : Execution} (legible : ∀ n ∈ e.encode.numbers, Json.Legible n)
    (fits : e.encode.depth ≤ Json.maxDepth) (decoded : Execution.decode? e.encode = some e) : Durable e := by
  unfold Durable parseExecution executionText
  rw [Json.read?_pretty legible fits, Option.bind_some, decoded]

namespace Sample

def execution : Execution :=
  { id := "a", workflowId := "w", workflowName := "", status := .running, currentStep := none,
    successes := 0, failures := 0, error := none, startedAt := ⟨0, 0⟩, finishedAt := none,
    triggeredBy := none, trigger := none, entityType := "", entityId := "", entityName := none,
    entity := {}, records := [], decisions := {} }

/-- The execution is kept once; the status is not the one that the change expects. -/
def ops : List StoreOp :=
  [.create execution, .create execution, .get "b",
    .update "a" .paused (.statusOnly execution .running), .list]

def files : FileStore := .ofDirectory Yaml.print "data"

/-- What there was before the store was opened. -/
def blank : FileSystem := .new ["home"]

def disk : FileSystem := (files.openDirectories blank).2

theorem durable : Durable execution := by
  have numbers : execution.encode.numbers = [.int 0, .int 0] := rfl
  have zero : Json.Legible (.int 0) := Json.legible_int (by decide) (by decide)
  exact durable_of_legible (by simp [numbers, zero]) (by decide) rfl

theorem holdsDurable {before : List StoreOp} (first : before <+: ops) :
    HoldsDurable (MemoryStore.repository.after ∅ before) := by
  have held : ∀ n : Fin 6, (MemoryStore.repository.after ∅ (ops.take n)).executions.values ⊆ [execution] := by
    decide +kernel
  intro id e stored
  rw [List.prefix_iff_eq_take.1 first] at stored
  have few : before.length < 6 := Nat.lt_succ_of_le first.length_le
  have one := held ⟨before.length, few⟩ (Dict.mem_values_iff.2 ⟨id, stored⟩)
  rw [List.mem_singleton.1 one]
  exact durable

end Sample

/-- A directory below the working directory answers the operations of the sample as memory does. -/
theorem answers_sample : Sample.files.repository.answers Sample.disk Sample.ops =
    MemoryStore.repository.answers ∅ Sample.ops := by
  have opened : Sample.files.openDirectories Sample.blank = (.ok (), Sample.disk) :=
    Prod.ext (eq_ok_of_toOption (by decide +kernel)) rfl
  have listed : Sample.disk.entries Sample.files.executions = .ok [] :=
    eq_ok_of_toOption (by decide +kernel)
  have safe : ∀ op ∈ Sample.ops, op.Safe := by decide +kernel
  exact (answers_eq_memory opened listed (by simp) safe fun _ => Sample.holdsDurable).1

end FileStore

end Workflows

import Workflows.Proofs.Definition.RoundTrip
import Workflows.Proofs.File.Texts
import Workflows.Proofs.Store.File

/-!
# Registered workflows

**`FileStore.workflow_of_register`**: a workflow from a file that is registered in a store is the one that is
looked up by its id.
-/

namespace Workflows

theorem code_of_isAlphanum {c : Char} (letter : c.isAlphanum = true) :
    (65 ≤ c.toNat ∧ c.toNat ≤ 90 ∨ 97 ≤ c.toNat ∧ c.toNat ≤ 122) ∨ 48 ≤ c.toNat ∧ c.toNat ≤ 57 := by
  have ranges : ((decide (65 ≤ c.val ∧ c.val ≤ 90) || decide (97 ≤ c.val) && decide (c.val ≤ 122)) ||
      decide (48 ≤ c.val) && decide (c.val ≤ 57)) = true := letter
  simpa [UInt32.le_iff_toNat_le] using ranges

/-- No character of an id that files can be named by is blank. -/
theorem isBlankChar_of_isFileId {id : String} (usable : isFileId id = true) {c : Char} (mem : c ∈ id.toList) :
    Text.isBlankChar c = false := by
  unfold isFileId at usable
  simp only [Bool.and_eq_true, List.all_eq_true] at usable
  have allowed := usable.2 c mem
  simp only [Bool.or_eq_true, decide_eq_true_eq] at allowed
  rcases allowed with ((letter | rfl) | rfl) | rfl
  · have code := code_of_isAlphanum letter
    unfold Text.isBlankChar
    simp only [Bool.or_eq_false_iff, Bool.and_eq_false_iff, decide_eq_false_iff_not]
    omega
  · decide
  · decide
  · decide

/-- An id that files can be named by is not blank. -/
theorem isBlank_of_isFileId {id : String} (usable : isFileId id = true) : Text.isBlank id = false := by
  obtain ⟨c, mem⟩ := List.exists_mem_of_ne_nil id.toList (by simpa using ne_empty_of_isFileId usable)
  rw [Text.isBlank, List.all_eq_false]
  exact ⟨c, mem, by simp [isBlankChar_of_isFileId usable mem]⟩

namespace FileStore

variable {store : FileStore} {fs : FileSystem} {w : Definition}

/-- **A workflow that was loaded and is registered is looked up by its id as it is.** -/
theorem workflow_of_register {fs₀ : FileSystem} {path : String} {n : Yaml.Node}
    (loaded : Definition.load fs₀ path = .ok w) (usable : isFileId w.id = true)
    (ready : fs.isDirectory store.workflows = true)
    (free : fs.isDirectory (store.workflowPath w.id) = false)
    (read : Yaml.read? (store.printYaml w.encode) = some n) (denotes : Document.Denotes n w.encode) :
    ∃ fs', store.register fs w = (.ok (), fs') ∧ store.workflow fs' w.id = .ok (some w) := by
  obtain ⟨place, opens⟩ := FileSystem.isDirectory_iff.1 ready
  have named : FileSystem.FileName (w.id ++ "." ++ "yaml") :=
    fileName_of_isFileId usable (by decide) (by decide)
  have no_directory : fs.node? (place ++ [w.id ++ "." ++ "yaml"]) ≠ some .directory := fun there => by
    have found : fs.isDirectory (store.workflowPath w.id) = true :=
      FileSystem.isDirectory_iff.2 ⟨_, opens.locate_join named, there⟩
    rw [free] at found
    cases found
  let fs' := fs.put (place ++ [w.id ++ "." ++ "yaml"]) (.file (store.printYaml w.encode))
  have written : fs.write (store.workflowPath w.id) (store.printYaml w.encode) = .ok fs' :=
    opens.write named no_directory _
  have opens' : fs'.Opens store.workflows place :=
    opens.mono (FileSystem.keepsDirectories_put no_directory _)
  have there : fs'.node? (place ++ [w.id ++ "." ++ "yaml"]) = some (.file (store.printYaml w.encode)) := by
    rw [FileSystem.node?_put _ _ (by simp), if_pos ⟨by simp, rfl⟩]
  have exists_there : fs'.exists? (store.workflowPath w.id) = true := by
    refine (opens'.exists?_join named).trans ?_
    rw [there]
    rfl
  have loaded_again : Definition.load fs' (store.workflowPath w.id) = .ok w :=
    Definition.load_of_load loaded (isBlank_of_isFileId usable) (opens'.read_join named there) read denotes
  refine ⟨fs', ?_, ?_⟩
  · unfold register Definition.save
    rw [usable, written]
    rfl
  · unfold workflow
    simp only [usable, exists_there, loaded_again]
    rfl

/-! ## A sample -/

namespace Sample

/-- A definition without an id and a name, whose branch is not trimmed. -/
def source : String := "steps:\n- id: s\n  type: pass\n  on_pass: ' t '\n"

def sources : FileSystem := ⟨[("home/a.yaml", .file source), ("home", .directory)], ["home"]⟩

/-- The definition that is read from it. -/
def definition : Definition :=
  { Definition.new "a" "a" with steps := [{ Step.new "s" .pass with onPass := some "t" }] }

def plain (text : String) : Yaml.Node := .scalar text .plain none

def quoted (text : String) : Yaml.Node := .scalar text .doubleQuoted none

def sourceNode : Yaml.Node :=
  .mapping [(plain "steps", .list [.mapping [(plain "id", plain "s"), (plain "type", plain "pass"),
    (plain "on_pass", .scalar " t " .singleQuoted none)] none] none)] none

def savedStep : Yaml.Node :=
  .mapping [(quoted "on_pass", quoted "t"), (quoted "step_id", quoted "s"), (quoted "type", quoted "pass")]
    none

def savedNode : Yaml.Node :=
  .mapping [(quoted "id", quoted "a"), (quoted "is_active", plain "true"), (quoted "name", quoted "a"),
    (quoted "steps", .list [savedStep] none)] none

def sourceEvents : List Yaml.Event :=
  [.mappingStart .none, .scalar "steps" .plain .none, .listStart .none, .mappingStart .none,
    .scalar "id" .plain .none, .scalar "s" .plain .none, .scalar "type" .plain .none,
    .scalar "pass" .plain .none, .scalar "on_pass" .plain .none, .scalar " t " .singleQuoted .none,
    .mappingEnd, .listEnd, .mappingEnd]

def savedEvents : List Yaml.Event :=
  [.mappingStart .none, .scalar "id" .doubleQuoted .none, .scalar "a" .doubleQuoted .none,
    .scalar "is_active" .doubleQuoted .none, .scalar "true" .plain .none,
    .scalar "name" .doubleQuoted .none, .scalar "a" .doubleQuoted .none,
    .scalar "steps" .doubleQuoted .none, .listStart .none, .mappingStart .none,
    .scalar "on_pass" .doubleQuoted .none, .scalar "t" .doubleQuoted .none,
    .scalar "step_id" .doubleQuoted .none, .scalar "s" .doubleQuoted .none,
    .scalar "type" .doubleQuoted .none, .scalar "pass" .doubleQuoted .none, .mappingEnd, .listEnd,
    .mappingEnd]

theorem read?_of_events {text : String} {events : List Yaml.Event} {n : Yaml.Node}
    (parsed : (Yaml.scan? text.toList).bind Yaml.parse? = some events)
    (composed : Yaml.compose events = some n) : Yaml.read? text = some n := by
  obtain ⟨tokens, scanned, parsed⟩ := Option.bind_eq_some_iff.1 parsed
  simp only [Yaml.read?, scanned, parsed, composed, Option.bind_eq_bind, Option.bind_some]

theorem read?_source : Yaml.read? source = some sourceNode :=
  read?_of_events
    (by decide +kernel : (Yaml.scan? source.toList).bind Yaml.parse? = some sourceEvents) (by cbv)

/-- A file with the text of the source is loaded as the definition. -/
theorem load_source {fs : FileSystem} (read : fs.read "a.yaml" = .ok source) :
    Definition.load fs "a.yaml" = .ok definition := by
  have decoded : Definition.decode? sourceNode = some { definition with id := "", name := "" } := rfl
  exact Definition.load_eq_ok_iff.2 ⟨source, sourceNode, _, read, read?_source, decoded, rfl⟩

theorem loaded : Definition.load sources "a.yaml" = .ok definition :=
  load_source (FileSystem.read_of_find (FileSystem.find_name (by decide) rfl))

theorem denotes_quoted (text : String) : Document.Denotes (quoted text) (.text text) :=
  .text rfl rfl rfl rfl

theorem denotes_saved : Document.Denotes savedNode definition.encode := by
  have step : Document.Denotes savedStep
      (.object [("on_pass", .text "t"), ("step_id", .text "s"), ("type", .text "pass")]) :=
    .object rfl rfl rfl rfl
      (.cons (denotes_quoted _) (.cons (denotes_quoted _) (.cons (denotes_quoted _) .nil))) rfl
  have steps : Document.Denotes (Yaml.Node.list [savedStep] none) (.list [_]) :=
    .list rfl rfl (.cons step .nil) rfl
  have active : Document.Denotes (plain "true") (.bool true) := .bool rfl rfl rfl
  have data : definition.encode = .object [("id", .text "a"), ("is_active", .bool true),
      ("name", .text "a"), ("steps", .list [.object
        [("on_pass", .text "t"), ("step_id", .text "s"), ("type", .text "pass")]])] := rfl
  rw [data]
  exact .object rfl rfl rfl rfl
    (.cons (denotes_quoted _) (.cons active (.cons (denotes_quoted _) (.cons steps .nil)))) rfl

/-- What is kept of the definition. -/
def saved : String :=
  "\x7b\"id\": \"a\", \"is_active\": true, \"name\": \"a\", \"steps\": " ++
    "[\x7b\"on_pass\": \"t\", \"step_id\": \"s\", \"type\": \"pass\"\x7d]\x7d\n"

theorem read?_saved : Yaml.read? (Yaml.print definition.encode) = some savedNode := by
  have printed : Yaml.print definition.encode = saved := by cbv
  rw [printed]
  exact read?_of_events
    (by decide +kernel : (Yaml.scan? saved.toList).bind Yaml.parse? = some savedEvents) (by cbv)

end Sample

/-- The definition of the sample, whose id and name come from its file, is looked up as it was loaded. -/
theorem workflow_of_register_sample : ∃ fs',
    Sample.files.register Sample.disk Sample.definition = (.ok (), fs') ∧
      Sample.files.workflow fs' "a" = .ok (some Sample.definition) :=
  workflow_of_register Sample.loaded (by decide +kernel) (by decide +kernel) (by decide +kernel)
    Sample.read?_saved Sample.denotes_saved

end FileStore

end Workflows

import Workflows.Definition.File
import Workflows.Proofs.Data.Document
import Workflows.Proofs.Text.Blank
import Workflows.Proofs.Yaml.Node

/-!
# Definitions are read back as they were kept

What is read from a document is in a normal form: branches and known kinds are trimmed, blank branches are
absent, and an id and a name are there. A definition in normal form is read back from its data.

* `StepKind.ofName_name`: the name of a kind that was named is a name of that kind;
* `Step.Normal`: a step as it is read; `Step.normal_of_decode?`, `Definition.normal_of_load`: so all steps
  are;
* `Step.tidied`, `Definition.tidied`: what a document is read as that stands for the data of a step or of a
  definition; `decode?_tidied`;
* `Step.decode?_of_denotes`, `Definition.decode?_of_denotes`: where it is in normal form, that is the definition
  itself;
* `Definition.load_of_load`: so it is from a file that such a document was written to.
-/

namespace Workflows

open Document

theorem StepKind.ofName_name (name : String) : ofName (ofName name).name = ofName name := by
  cases named : ofName name with
  | unknown other =>
    have same : other = name := by
      unfold ofName at named
      split at named <;> cases named
      rfl
    rw [StepKind.name, same, named, same]
  | validation | approval | notification | assignTag | removeTag | conditional | script | pass | fail
  | policyCheck | delivery => decide +kernel

namespace Step

/-- A step as it is read: its settings in canonical form, its kind one that its name stands for, and its
branches trimmed and not blank. -/
structure Normal (s : Step) : Prop where
  config : s.config.IsCanonical
  kind : StepKind.ofName s.kind.name = s.kind
  onPass : cleanBranch s.onPass = s.onPass
  onFail : cleanBranch s.onFail = s.onFail

theorem cleanBranch_cleanBranch (branch : Option String) :
    cleanBranch (cleanBranch branch) = cleanBranch branch := by
  cases branch with
  | none => rfl
  | some s =>
    simp only [cleanBranch, Option.bind_some]
    cases kept : Text.nonBlank? s with
    | none => rfl
    | some t => exact Text.nonBlank?_of_nonBlank? kept

theorem isCanonical_of_object? {n : Yaml.Node} {o : Object} (read : object? n = some o) : o.IsCanonical := by
  unfold object? dict? at read
  obtain ⟨ms, -, read⟩ := Option.bind_eq_some_iff.1 read
  obtain ⟨bs, bindings, same⟩ := Option.bind_eq_some_iff.1 read
  cases same
  intro b mem
  obtain ⟨m, -, bound⟩ :=
    Denotes.exists_of_mapM_eq_some bindings (Bindings.mem_of_mem_ascending mem)
  obtain ⟨v, read, rfl⟩ := Option.map_eq_some_iff.1 bound
  exact Yaml.Node.canonical_of_value? m.2 read

/-- **Every step that is read from a document is in normal form.** -/
theorem normal_of_decode? {n : Yaml.Node} {s : Step} (read : decode? n = some s) : s.Normal := by
  simp only [decode?, Option.bind_eq_bind, Option.bind_eq_some_iff] at read
  obtain ⟨fs, -, id, -, name, -, kind, -, config, config_read, onPass, -, onFail, -, same⟩ := read
  cases same
  exact {
    config := by
      unfold Fields.orElse at config_read
      split at config_read
      · cases config_read
        intro b mem
        cases mem
      · exact isCanonical_of_object? config_read
    kind := StepKind.ofName_name kind
    onPass := cleanBranch_cleanBranch onPass
    onFail := cleanBranch_cleanBranch onFail }

variable {δ : Type} [Document δ] {d : δ}

theorem proper_fields : Proper fields := by decide +kernel

/-- The step as it is read back: its kind is the one that its name stands for, its branches are trimmed, and blank
ones are absent. -/
def tidied (s : Step) : Step :=
  { s with kind := .ofName s.kind.name, onPass := cleanBranch s.onPass, onFail := cleanBranch s.onFail }

theorem tidied_of_normal {s : Step} (normal : s.Normal) : s.tidied = s := by
  rw [tidied, normal.kind, normal.onPass, normal.onFail]

/-- A document that stands for a step is read as the step when tidied. -/
theorem decode?_tidied {s : Step} (canonical : s.config.IsCanonical) (h : Denotes d s.encode) :
    decode? d = some s.tidied := by
  obtain ⟨fs, given, holds⟩ := h.fields? proper_fields rfl
  have id : fs.required "step_id" text? = some s.id := holds.required_text (by simp)
  have name : fs.optional "name" text? = some s.name := holds.optional_text (by simp)
  have kind : fs.required "type" text? = some s.kind.name := holds.required_text (by simp)
  have config : fs.orElse "config" {} object? = some s.config :=
    holds.orElse_dict (by simp) fun _ denotes => denotes.object? canonical
  have onPass : fs.optional "on_pass" text? = some s.onPass := holds.optional_text (by simp)
  have onFail : fs.optional "on_fail" text? = some s.onFail := holds.optional_text (by simp)
  exact read_then given <| read_then id <| read_then name <| read_then kind <| read_then config <|
    read_then onPass <| read_then onFail rfl

/-- A document that stands for a step in normal form is read as it. -/
theorem decode?_of_denotes {s : Step} (normal : s.Normal) (h : Denotes d s.encode) :
    decode? d = some s := by
  rw [decode?_tidied normal.config h, tidied_of_normal normal]

end Step

namespace Definition

variable {δ : Type} [Document δ] {d : δ} {w : Definition}

theorem proper_fields : Proper fields := by decide +kernel

/-- The definition as it is read back. -/
def tidied (w : Definition) : Definition := { w with steps := w.steps.map Step.tidied }

/-- A document that stands for a definition is read as the definition when tidied. -/
theorem decode?_tidied (canonical : ∀ s ∈ w.steps, s.config.IsCanonical) (h : Denotes d w.encode) :
    decode? d = some w.tidied := by
  obtain ⟨fs, given, holds⟩ := h.fields? proper_fields rfl
  have id : fs.orElse "id" "" text? = some w.id := holds.orElse (by simp) fun _ => Denotes.text?
  have name : fs.orElse "name" "" text? = some w.name := holds.orElse (by simp) fun _ => Denotes.text?
  have description : fs.optional "description" text? = some w.description := holds.optional_text (by simp)
  have version : fs.optional "version" text? = some w.version := holds.optional_text (by simp)
  have isActive : fs.orElse "is_active" true bool? = some w.isActive :=
    holds.orElse (by simp) fun _ => Denotes.bool?
  have steps : fs.orElse "steps" [] (list? Step.decode?) = some (w.steps.map Step.tidied) :=
    holds.orElse (by simp) fun _ denotes => denotes.list?_map fun s mem _ =>
      Step.decode?_tidied (canonical s mem)
  exact read_then given <| read_then id <| read_then name <| read_then description <|
    read_then version <| read_then isActive <| read_then steps rfl

theorem tidied_of_normal (normal : ∀ s ∈ w.steps, s.Normal) : w.tidied = w := by
  have steps : w.steps.map Step.tidied = w.steps :=
    (List.map_congr_left fun s mem => Step.tidied_of_normal (normal s mem)).trans (List.map_id _)
  rw [tidied, steps]

/-- A document that stands for a definition with steps in normal form is read as it. -/
theorem decode?_of_denotes (normal : ∀ s ∈ w.steps, s.Normal) (h : Denotes d w.encode) :
    decode? d = some w := by
  rw [decode?_tidied (fun s mem => (normal s mem).config) h, tidied_of_normal normal]

/-! ## Files -/

/-- All steps of a definition that is read from a document are in normal form. -/
theorem normal_of_decode? {n : Yaml.Node} (read : decode? n = some w) : ∀ s ∈ w.steps, s.Normal := by
  simp only [decode?, Option.bind_eq_bind, Option.bind_eq_some_iff] at read
  obtain ⟨fs, -, id, -, name, -, description, -, version, -, isActive, -, steps, steps_read, same⟩ := read
  cases same
  intro s mem
  unfold Fields.orElse at steps_read
  split at steps_read
  · cases steps_read
    cases mem
  · unfold list? at steps_read
    obtain ⟨items, -, mapped⟩ := Option.bind_eq_some_iff.1 steps_read
    obtain ⟨item, -, read⟩ := Denotes.exists_of_mapM_eq_some mapped mem
    exact Step.normal_of_decode? read

theorem load_eq_ok_iff {fs : FileSystem} {path : String} : load fs path = .ok w ↔
    ∃ text n w₀, fs.read path = .ok text ∧ Yaml.read? text = some n ∧ decode? n = some w₀ ∧
      w₀.withDefaults path = w := by
  unfold load
  cases read : fs.read path with
  | error fault => simp [Except.mapError, bind, Except.bind]
  | ok text =>
    simp only [Except.mapError, bind, Except.bind, parse?, Yaml.decode?]
    cases tree : Yaml.read? text with
    | none => simp [tree, throw, throwThe, MonadExceptOf.throw]
    | some n =>
      cases decoded : decode? n with
      | none => simp [tree, decoded, throw, throwThe, MonadExceptOf.throw]
      | some w₀ => simp [tree, decoded, pure, Except.pure]

/-- All steps of a definition from a file are in normal form. -/
theorem normal_of_load {fs : FileSystem} {path : String} (loaded : load fs path = .ok w) :
    ∀ s ∈ w.steps, s.Normal := by
  obtain ⟨-, n, w₀, -, -, read, rfl⟩ := load_eq_ok_iff.1 loaded
  exact fun s mem => normal_of_decode? read s mem

/-- A definition from a file with an id that is not blank has a name that is not. -/
theorem isBlank_name_of_load {fs : FileSystem} {path : String} (loaded : load fs path = .ok w)
    (visible : Text.isBlank w.id = false) : Text.isBlank w.name = false := by
  obtain ⟨-, -, w₀, -, -, -, rfl⟩ := load_eq_ok_iff.1 loaded
  unfold withDefaults at visible ⊢
  dsimp only at visible ⊢
  cases named : Text.isBlank w₀.name with
  | true => exact visible
  | false => exact named

theorem withDefaults_eq_self (id : Text.isBlank w.id = false) (name : Text.isBlank w.name = false)
    (path : String) : w.withDefaults path = w := by
  unfold withDefaults
  simp only [id, name]
  rfl

/-- **A definition that was loaded is loaded again from the file that it was written to**, wherever that
is. -/
theorem load_of_load {fs fs' : FileSystem} {path path' text : String} {n : Yaml.Node}
    (loaded : load fs path = .ok w) (visible : Text.isBlank w.id = false)
    (written : fs'.read path' = .ok text) (read : Yaml.read? text = some n) (denotes : Denotes n w.encode) :
    load fs' path' = .ok w :=
  load_eq_ok_iff.2 ⟨_, n, w, written, read, decode?_of_denotes (normal_of_load loaded) denotes,
    withDefaults_eq_self visible (isBlank_name_of_load loaded visible) path'⟩

end Definition

end Workflows

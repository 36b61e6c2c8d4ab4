import Workflows.Data.Document
import Workflows.Data.Path
import Workflows.Text.Blank

/-!
# Settings

* `ScriptSettings`, `Fallbacks`, `Config`: the settings of script steps, the addresses asked when an
  entity names nobody, and all settings together, each with its defaults;
* `Config.problem?`: a setting that is not usable;
* `Config.override`: settings taken from the environment.
-/

namespace Workflows

/-- The settings of script steps. -/
structure ScriptSettings where
  interpreter : String
  timeoutSeconds : Nat
  maxOutputBytes : Nat
  deriving DecidableEq

/-- The settings of script steps where nothing else is said. -/
def ScriptSettings.default : ScriptSettings := ⟨"python3", 60, 1024 * 1024⟩

/-- The addresses asked when an entity names nobody. -/
structure Fallbacks where
  domainOwner : String
  projectOwner : String
  deriving DecidableEq

/-- The addresses where nothing else is said. -/
def Fallbacks.default : Fallbacks := ⟨"domain-owner@example.com", "project-owner@example.com"⟩

/-- All settings. -/
structure Config where
  dataDir : String
  maxDispatches : Nat
  script : ScriptSettings
  approvals : Fallbacks
  deriving DecidableEq

/-- How many steps a call may carry out where nothing else is said. -/
def defaultMaxDispatches : Nat := 10000

/-- The settings where nothing else is said. -/
def Config.default : Config := ⟨".procflow", defaultMaxDispatches, .default, .default⟩

open Document

namespace ScriptSettings

/-- The settings of a document. -/
def decode? {δ : Type} [Document δ] (d : δ) : Option ScriptSettings := do
  let fs ← fields? (["python_path", "timeout_seconds", "max_output_bytes"].map .plain) d
  return {
    interpreter := ← fs.orElse "python_path" default.interpreter text?
    timeoutSeconds := ← fs.orElse "timeout_seconds" default.timeoutSeconds nat?
    maxOutputBytes := ← fs.orElse "max_output_bytes" default.maxOutputBytes nat? }

/-- The settings as data. -/
def encode (s : ScriptSettings) : Value :=
  .record [
    ("python_path", some (.text s.interpreter)),
    ("timeout_seconds", some (.nat s.timeoutSeconds)),
    ("max_output_bytes", some (.nat s.maxOutputBytes))]

end ScriptSettings

namespace Fallbacks

/-- The addresses of a document. -/
def decode? {δ : Type} [Document δ] (d : δ) : Option Fallbacks := do
  let fs ← fields? (["domain_owner_fallback", "project_owner_fallback"].map .plain) d
  return {
    domainOwner := ← fs.orElse "domain_owner_fallback" default.domainOwner text?
    projectOwner := ← fs.orElse "project_owner_fallback" default.projectOwner text? }

/-- The addresses as data. -/
def encode (f : Fallbacks) : Value :=
  .record [
    ("domain_owner_fallback", some (.text f.domainOwner)),
    ("project_owner_fallback", some (.text f.projectOwner))]

end Fallbacks

/-- A setting that is not usable. -/
inductive ConfigProblem where
  | noDispatches
  | noTimeout
  deriving DecidableEq

/-- What a problem is called. -/
def ConfigProblem.message : ConfigProblem → String
  | .noDispatches => "max_step_dispatches must be at least 1"
  | .noTimeout => "script.timeout_seconds must be at least 1"

namespace Config

/-- The settings of a document. -/
def decode? {δ : Type} [Document δ] (d : δ) : Option Config := do
  let fs ← fields? (["data_dir", "max_step_dispatches", "script", "approvals"].map .plain) d
  return {
    dataDir := ← fs.orElse "data_dir" default.dataDir text?
    maxDispatches := ← fs.orElse "max_step_dispatches" default.maxDispatches nat?
    script := ← fs.orElse "script" default.script ScriptSettings.decode?
    approvals := ← fs.orElse "approvals" default.approvals Fallbacks.decode? }

/-- The settings as data. -/
def encode (c : Config) : Value :=
  .record [
    ("data_dir", some (.text c.dataDir)),
    ("max_step_dispatches", some (.nat c.maxDispatches)),
    ("script", some c.script.encode),
    ("approvals", some c.approvals.encode)]

/-- The first setting that is not usable. -/
def problem? (c : Config) : Option ConfigProblem :=
  if c.maxDispatches = 0 then some .noDispatches
  else if c.script.timeoutSeconds = 0 then some .noTimeout
  else none

/-- The settings with those that the environment gives, blank ones aside. -/
def override (c : Config) (environment : String → Option String) : Config :=
  let given (key : String) := (environment key).filter fun v => !Text.isBlank v
  { c with
    dataDir := (given "PROCFLOW_DATA_DIR").getD c.dataDir
    script := { c.script with interpreter := (given "PROCFLOW_PYTHON").getD c.script.interpreter } }

/-- Where the policies are kept. -/
def policiesPath (c : Config) : String := Path.join c.dataDir "policies.yaml"

end Config

end Workflows

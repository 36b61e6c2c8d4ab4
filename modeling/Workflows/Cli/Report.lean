import Workflows.Cli.Paint
import Workflows.Definition.Lint
import Workflows.Timeline

/-!
# Reports

What the program prints: its banner, its usage, and what it says of executions and of definitions.
-/

namespace Workflows

namespace Cli

/-- Lines, each with its end. -/
def unlines (lines : List String) : String := String.join (lines.map fun l => l ++ "\n")

/-- The name of the program. -/
def appName : String := "Procflow"

/-- The version of the program. -/
def version : String := "0.1.0"

/-- What the program prints before anything else. -/
def banner : String :=
  unlines ["", appName ++ " v" ++ version, "Process Automation Workflow Engine", ""]

/-- What the program prints of its version. -/
def versionText : String := appName ++ " " ++ version ++ "\n"

/-- How the program is used. -/
def usage : String := unlines [
  "Usage: procflow [OPTIONS] <COMMAND> [ARGS]",
  "",
  "Commands:",
  "  run <WORKFLOW_FILE>      Run a workflow against an entity",
  "      --entity FILE        JSON file holding the entity object",
  "      --entity-type TYPE   Entity type (e.g. data_product)",
  "      --entity-id ID       Entity identifier",
  "      --entity-name NAME   Display name of the entity",
  "      --actor EMAIL        User triggering the run",
  "  resume <EXECUTION_ID>    Resolve a paused step and continue",
  "      --approve | --reject Decision for the paused step",
  "      --data JSON          Extra result data (object)",
  "  show <EXECUTION_ID>      Print an execution and its timeline",
  "  list                     List recorded executions",
  "  validate <WORKFLOW_FILE> Lint a workflow definition",
  "",
  "Options:",
  "  --config FILE            Engine config (default: procflow.yaml if present)",
  "  --data-dir PATH          Directory for executions, workflows and policies",
  "  --verbose                Enable debug logging",
  "  --help                   Show this help message",
  "  --version                Show version information",
  "",
  "Examples:",
  "  procflow run review.yaml --entity dp.json --entity-type data_product --entity-id dp-1",
  "  procflow resume <EXECUTION_ID> --reject --data '\x7b\"message\": \"Missing docs\"\x7d'"]

/-- `s` with blanks before it up to a length of `width`. -/
def padStart (width : Nat) (s : String) : String :=
  String.ofList (List.replicate (width - s.length) ' ') ++ s

/-- `s` with blanks after it up to a length of `width`. -/
def padEnd (width : Nat) (s : String) : String := Timeline.padEnd width s

variable (colour : Bool)

/-- What is said of an execution as a whole. -/
def summary (e : Execution) : String :=
  unlines ([
    "",
    "Execution " ++ Paint.bold.apply colour e.id,
    "  Workflow:  " ++ e.workflowName ++ " (" ++ e.workflowId ++ ")",
    "  Entity:    " ++ e.entityType ++ " '" ++ e.entityId ++ "'" ++
      (match e.entityName with
        | some name => " (" ++ name ++ ")"
        | none => ""),
    "  Status:    " ++ (statusPaint e.status).apply colour e.status.name,
    "  Steps:     " ++ toString e.records.length ++ " run, " ++ toString e.successes.toNat ++
      " passed, " ++ toString e.failures.toNat ++ " failed"]
    ++ (e.currentStep.map fun s => "  Waiting:   step '" ++ s ++ "'").toList
    ++ (e.error.map fun m => "  Error:     " ++ Paint.red.apply colour m).toList)

/-- What is said of a step that was carried out; it is the step at position `i`. -/
def stepLine (r : StepRecord) (i : Nat) : String :=
  let verdict :=
    if r.passed then Paint.green.apply colour "passed" else Paint.red.apply colour "failed"
  "  " ++ padStart 3 (toString (i + 1)) ++ ". " ++ padEnd 16 r.stepId ++ " " ++ verdict ++
    (if r.blocking then " (paused)" else "") ++ " " ++
    padStart 8 (Decimal.fixedText 1 r.duration.toFloat) ++ " ms  " ++
    ((r.error <|> r.message).getD "")

/-- What is said of the steps of an execution. -/
def stepList (e : Execution) : String :=
  unlines (["", "Steps:"] ++ e.records.zipIdx.map fun (r, i) => stepLine colour r i)

/-- What is said of an execution and its history. -/
def details (e : Execution) : String :=
  summary colour e ++
    if e.records.isEmpty then "" else stepList colour e ++ (Timeline.ofExecution e).chart

/-- What is said of an execution in a list. -/
def listLine (e : Execution) : String :=
  e.id ++ "  " ++ (statusPaint e.status).apply colour (padEnd 10 e.status.name) ++ "  " ++
    padEnd 24 e.workflowName ++ "  " ++ e.entityType ++ " '" ++ e.entityId ++ "'  " ++
    e.startedAt.shortText

/-- What is said of a finding. -/
def findingLine (f : Finding) : String :=
  "  " ++ (if f.isError then Paint.boldRed.apply colour "error:"
    else Paint.boldYellow.apply colour "warning:") ++ " " ++ f.message

/-- What is said of a definition without findings. -/
def validLine (w : Definition) : String :=
  Paint.boldGreen.apply colour "OK" ++ " '" ++ w.id ++ "' is valid"

end Cli

end Workflows

import Workflows.Carry.Setting
import Workflows.Execution.Context
import Workflows.Services.Basic

/-!
# Script steps

`ScriptStep.code` and `ScriptStep.language` are what a step's settings say; `ScriptStep.outcome` is the
outcome of running it.
-/

namespace Workflows

namespace ScriptStep

/-- The code of a step as it is written, since its indentation counts. -/
def code (config : Object) : Except StepFault String :=
  match (config.get? "code").bind Value.text? with
  | some code => if Text.isBlank code then .error (.notConfigured "code") else .ok code
  | none => .error (.notConfigured "code")

/-- The language of a step, in lower case. -/
def language (config : Object) : String :=
  Text.lowerAscii ((Setting.text? config "language").getD "python")

/-- Runs a step's code. -/
def outcome (services : Services) (config : Object) (ctx : Context) : Except StepFault Outcome := do
  let code ← code config
  match language config with
  | "python" =>
    let timeoutSeconds ← Setting.count config "timeout_seconds" services.script.timeoutSeconds
    let request : ScriptRequest := {
      interpreter := services.script.interpreter
      code
      context := ctx.projection
      timeoutSeconds
      maxOutputBytes := services.script.maxOutputBytes }
    ((services.runScript request).outcome request).mapError .script
  | "sql" => return .ofError "SQL execution is not implemented"
  | other => return .ofError ("Unsupported language: " ++ other)

end ScriptStep

end Workflows

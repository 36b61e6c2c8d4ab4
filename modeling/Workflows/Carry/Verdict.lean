import Workflows.Carry.Setting
import Workflows.Execution.Context
import Workflows.Services.Basic

/-!
# Steps that judge the entity

`Judge.validation`, `Judge.conditional` and `Judge.policyCheck` are the outcomes of steps that evaluate a
rule, a condition and the rule of a policy; `Judge.fail` is the outcome of a step that always fails.
-/

namespace Workflows

namespace Judge

variable (services : Services) (config : Object) (ctx : Context)

/-- Whether the entity meets a rule. -/
def validation : Except StepFault Outcome := do
  let rule ← Setting.required config "rule"
  let (passed, message) ← (services.evaluator.rule rule ctx.entity).mapError (.ofService .expression)
  return (Outcome.verdict passed message).withData [("rule", .text rule)]

/-- Whether the entity meets a condition. -/
def conditional : Except StepFault Outcome := do
  let condition ← Setting.required config "condition"
  let result ← (services.evaluator.condition condition ctx.entity).mapError (.ofService .expression)
  let message := "Condition evaluated to: " ++ if result then "true" else "false"
  return (Outcome.verdict result message).withData
    [("condition", .text condition), ("result", .bool result)]

/-- The message of a policy's verdict: where it fails, what the policy says of it before the
explanation. -/
def policyMessage (p : Policy) (passed : Bool) (explanation : String) : String :=
  match p.failureMessage, passed with
  | some friendly, false => friendly ++ "\n\nTechnical: " ++ explanation
  | _, _ => explanation

/-- Whether the entity meets a policy. -/
def applyPolicy (p : Policy) : Except StepFault Outcome :=
  let named : List (String × Value) := [("policy_id", .text p.id), ("policy_name", .text p.name)]
  if p.isActive then
    match services.evaluator.rule p.rule ctx.entity with
    | .error (.brokeDown reason) => .error (.brokeDown reason)
    | .error (.refused e) =>
      .ok ((Outcome.ofError e.message).withData (named ++ [("rule", .text p.rule)]))
    | .ok (passed, explanation) =>
      .ok ((Outcome.verdict passed (policyMessage p passed explanation)).withData (named ++ [
        ("rule", .text p.rule),
        ("severity", .text p.severity),
        ("failure_message", .ofText? p.failureMessage),
        ("technical_message", .text explanation)]))
  else
    .ok ((Outcome.pass ("Policy '" ++ p.name ++ "' is inactive, skipped")).withData
      (named ++ [("skipped", .bool true)]))

/-- Whether the entity meets the policy that is named. -/
def policyCheck : Except StepFault Outcome := do
  let id ← Setting.required config "policy_id"
  match ← (services.policies id).mapError (.ofService nofun) with
  | none => return (Outcome.ofError ("Policy not found: " ++ id)).withData [("policy_id", .text id)]
  | some p => applyPolicy services ctx p

/-- A failure with a message of choice. -/
def fail : Outcome := Outcome.fail ((Setting.text? config "message").getD "Workflow failed")

end Judge

end Workflows

import Workflows.Carry.Contact
import Workflows.Carry.Script
import Workflows.Carry.Tag
import Workflows.Carry.Verdict
import Workflows.Definition.Basic

/-!
# Carrying out a step

`Step.carryOut` is the outcome of a step of any kind, the entity afterwards and what was handed to the
outside world. Whatever goes wrong is an outcome too; only tag steps change the entity.
-/

namespace Workflows

/-- What carrying out a step leaves behind. -/
structure Carried where
  outcome : Outcome
  entity : Object
  outbox : Outbox

/-- The outcome of a step, or of the fault in its place. -/
def settle : Except StepFault Outcome → Outcome
  | .ok outcome => outcome
  | .error fault => .ofError fault.message

/-- Carries out a step. -/
def Step.carryOut (services : Services) (now : Time) (s : Step) (ctx : Context) (outbox : Outbox) :
    Carried :=
  let judged (result : Except StepFault Outcome) : Carried := ⟨settle result, ctx.entity, outbox⟩
  let tagged (result : Except StepFault Outcome × Object) : Carried :=
    ⟨settle result.1, result.2, outbox⟩
  let sent (result : Except StepFault Outcome × Outbox) : Carried :=
    ⟨settle result.1, ctx.entity, result.2⟩
  match s.kind with
  | .validation => judged (Judge.validation services s.config ctx)
  | .approval => judged (Contact.approval services s.config ctx)
  | .notification => sent (Contact.notification services s.config ctx outbox)
  | .assignTag => tagged (Tag.assign s.config ctx now)
  | .removeTag => tagged (Tag.remove s.config ctx)
  | .conditional => judged (Judge.conditional services s.config ctx)
  | .script => judged (ScriptStep.outcome services s.config ctx)
  | .pass => judged (.ok (.pass "Workflow completed successfully"))
  | .fail => judged (.ok (Judge.fail s.config))
  | .policyCheck => judged (Judge.policyCheck services s.config ctx)
  | .delivery => sent (Contact.delivery services s.config ctx outbox)
  | .unknown name => judged (.ok (.ofError ("Unknown step type: " ++ name)))

end Workflows

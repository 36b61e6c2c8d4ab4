import Workflows.Carry.Addressee
import Workflows.Carry.Setting
import Workflows.Carry.Template
import Workflows.Services.Basic

/-!
# Steps that reach out

* `Contact.approval`: asks for a decision, for which the run waits;
* `Contact.notification`: sends a message; `Contact.notice` is the message;
* `Contact.delivery`: hands a change to the delivery service; `Contact.payload` is what is handed over.
-/

namespace Workflows

namespace Contact

variable (services : Services) (config : Object) (ctx : Context)

/-- The addresses that a setting stands for. -/
def addresses (audience : Audience) (setting : Option Value) : List String :=
  (setting.map (Addressee.resolve ctx services.fallbacks audience)).getD []

/-- The days that approvers have where nothing else is said. -/
def defaultTimeoutDays : Nat := 7

/-- Asks for a decision. -/
def approval : Except StepFault Outcome := do
  let setting := config.get? "approvers"
  if !Addressee.isNamed setting then throw (.notConfigured "approvers")
  let timeoutDays ← Setting.count config "timeout_days" defaultTimeoutDays
  let requireAll ← Setting.flag config "require_all" false
  let approvers := addresses services ctx .approvers setting
  if approvers.isEmpty then throw .nobodyToAsk
  let message := "Approval requested from: " ++ String.intercalate ", " approvers
  let outcome := (Outcome.pass message).withData [
    ("approvers", .ofTexts approvers),
    ("timeout_days", .nat timeoutDays),
    ("require_all", .bool requireAll),
    ("status", .text "pending")]
  return { outcome with blocking := true }

/-- The message of a notification step. -/
def notice : Except StepFault Notification := do
  let setting := config.get? "recipients"
  if !Addressee.isNamed setting then throw (.notConfigured "recipients")
  let recipients := addresses services ctx .recipients setting
  if recipients.isEmpty then throw .nobodyToTell
  let template := Setting.text? config "template"
  return {
    recipients
    message := (Setting.text? config "custom_message").getD (Template.render template ctx)
    template
    entityType := ctx.entityType
    entityId := ctx.entityId
    executionId := ctx.executionId }

/-- The outcome of a notification that was sent. -/
def sentOutcome (n : Notification) : Outcome :=
  (Outcome.pass ("Notification sent to: " ++ String.intercalate ", " n.recipients)).withData [
    ("recipients", .ofTexts n.recipients),
    ("template", .ofText? n.template),
    ("message", .text n.message)]

/-- Sends a message. The notifier has it whatever it answers, and also if it breaks down. -/
def notification (outbox : Outbox) : Except StepFault Outcome × Outbox :=
  match notice services config ctx with
  | .error fault => (.error fault, outbox)
  | .ok n =>
    let result := match services.notifier outbox n with
      | .ok () => .ok (sentOutcome n)
      | .error fault => .error (.ofService .notSent fault)
    (result, outbox.notify n)

/-- The change that a step delivers; a change of another name counts as a grant. -/
def changeType : ChangeType :=
  ((Setting.text? config "change_type").bind ChangeType.ofName?).getD .grant

/-- The ways that a step asks for; without a known one the service chooses. -/
def modes : Option (List DeliveryMode) :=
  ((config.get? "modes").bind Value.list?).bind fun items =>
    let modes := items.filterMap fun v => v.text?.bind DeliveryMode.ofName?
    if modes.isEmpty then none else some modes

/-- What a step hands over: the entity, and the further data of its settings over it. -/
def payload : Payload where
  change := changeType config
  entityType := ctx.entityType
  entityId := ctx.entityId
  data :=
    let base : Object := Dict.empty.insert "entity" (.ofObject ctx.entity)
    match (config.get? "data").bind Value.object? with
    | some extra => base.overlay extra
    | none => base
  user := ctx.actor

/-- The outcome of a delivery, by how it went by each way. -/
def deliveredOutcome (results : Deliveries) : Outcome :=
  let total := toString results.length
  let outcome :=
    if results.allSuccess then Outcome.pass ("Delivered via " ++ total ++ " mode(s)")
    else if results.anySuccess then
      Outcome.pass ("Partially delivered (" ++ toString results.successCount ++ "/" ++ total ++
        " modes succeeded)")
    else if results.errors.isEmpty then Outcome.ofError "All delivery modes failed"
    else Outcome.ofError (String.intercalate "; " results.errors)
  outcome.withData results.toData

/-- Delivers a change. The delivery service has it whatever it answers, and also if it breaks down. -/
def delivery (outbox : Outbox) : Except StepFault Outcome × Outbox :=
  match services.delivery with
  | none => (.ok (Outcome.ofError "Delivery service not initialized"), outbox)
  | some deliver =>
    let p := payload config ctx
    let modes := modes config
    let result := match deliver outbox p modes with
      | .ok results => .ok (deliveredOutcome results)
      | .error fault => .error (.ofService .notDelivered fault)
    (result, outbox.deliver p modes)

end Contact

end Workflows

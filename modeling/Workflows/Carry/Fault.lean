import Workflows.Expr.Token
import Workflows.Json.Printer
import Workflows.Script.Report
import Workflows.Services.Delivery
import Workflows.Services.Evaluator

/-!
# Faults of steps

`StepFault` lists why a step gives no outcome of its own; `StepFault.message` is what is recorded then.
-/

namespace Workflows

/-- The shape that a setting should have. -/
inductive SettingShape where
  | count
  | truth
  deriving DecidableEq

/-- What a shape is called. -/
def SettingShape.name : SettingShape → String
  | .count => "a non-negative integer"
  | .truth => "a boolean"

/-- Why a step gives no outcome of its own. -/
inductive StepFault where
  /-- A required setting is missing. -/
  | notConfigured (key : String)
  /-- A setting has the wrong shape. -/
  | badSetting (key : String) (shape : SettingShape) (got : Value)
  | unresolvedTag
  | tagsNotObject
  | nobodyToAsk
  | nobodyToTell
  | expression (e : ExprError)
  /-- A service broke down while the step was carried out. -/
  | brokeDown (reason : Option String)
  | notSent (reason : String)
  | notDelivered (fault : DeliveryFault)
  | script (e : ScriptError)

namespace StepFault

/-- What a required setting is called. -/
def settingLabel (key : String) : String := if key = "key" then "tag key" else key

/-- The text of a fault. -/
def message : StepFault → String
  | .notConfigured key => "No " ++ settingLabel key ++ " configured"
  | .badSetting key shape got =>
    "Invalid config value for '" ++ key ++ "': expected " ++ shape.name ++ ", got " ++
      Json.compact got
  | .unresolvedTag => "Could not resolve tag value"
  | .tagsNotObject => "Entity 'tags' is not an object"
  | .nobodyToAsk => "Approvers could not be resolved to anyone"
  | .nobodyToTell => "Recipients could not be resolved to anyone"
  | .expression e => e.message
  | .brokeDown reason => "Step handler panicked: " ++ reason.getD "unknown panic"
  | .notSent reason => "Notification delivery failed: " ++ reason
  | .notDelivered fault => fault.message
  | .script e => e.heading ++ e.message

/-- The fault of a step whose service gave no answer: what the service's own errors count as, or its
breakdown. -/
def ofService {ε : Type} (own : ε → StepFault) : ServiceFault ε → StepFault
  | .refused e => own e
  | .brokeDown reason => .brokeDown reason

end StepFault

end Workflows

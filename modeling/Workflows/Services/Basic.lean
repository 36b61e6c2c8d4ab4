import Workflows.Config
import Workflows.Script.Report
import Workflows.Services.Delivery
import Workflows.Services.Evaluator
import Workflows.Services.Notice
import Workflows.Services.Policy

/-!
# Services for steps

* `Outbox`: what was handed to the outside world, in order;
* `Services`: the evaluator, the policies, the notifier, the delivery service, the interpreter of
  scripts and the settings that steps work with. The answers of the notifier and of the delivery
  service may depend on what they were handed before.
-/

namespace Workflows

/-- What was handed to the outside world, in order. -/
structure Outbox where
  notifications : List Notification
  deliveries : List (Payload × Option (List DeliveryMode))
  deriving DecidableEq

/-- Nothing was handed over. -/
def Outbox.empty : Outbox := ⟨[], []⟩

instance : EmptyCollection Outbox := ⟨Outbox.empty⟩

/-- The outbox with a further notification. -/
def Outbox.notify (o : Outbox) (n : Notification) : Outbox :=
  { o with notifications := o.notifications ++ [n] }

/-- The outbox with a further delivery. -/
def Outbox.deliver (o : Outbox) (p : Payload) (modes : Option (List DeliveryMode)) : Outbox :=
  { o with deliveries := o.deliveries ++ [(p, modes)] }

/-- Sends notifications, says why it cannot, or breaks down over one. -/
abbrev Notifier := Outbox → Notification → Except (ServiceFault String) Unit

/-- Delivers a payload by some ways, or by its own choice of them. -/
abbrev DeliveryService :=
  Outbox → Payload → Option (List DeliveryMode) → Except (ServiceFault DeliveryFault) Deliveries

/-- What steps work with. -/
structure Services where
  evaluator : Evaluator
  policies : PolicyStore
  notifier : Notifier
  delivery : Option DeliveryService
  runScript : ScriptRequest → ScriptEnding
  script : ScriptSettings
  fallbacks : Fallbacks

namespace Services

/-- Services with the built-in evaluator, no policies, a notifier that always succeeds and no delivery
service. -/
def basic (runScript : ScriptRequest → ScriptEnding) : Services where
  evaluator := .builtIn
  policies := Policies.store {}
  notifier _ _ := .ok ()
  delivery := none
  runScript
  script := .default
  fallbacks := .default

/-- The services with the settings of `c`. -/
def configured (s : Services) (c : Config) : Services :=
  { s with script := c.script, fallbacks := c.approvals }

end Services

end Workflows

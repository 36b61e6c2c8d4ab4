/-!
# Faults of services

Evaluators, policies, notifiers and delivery services are not part of the engine. One that is asked may
refuse, with an error of its own, or break down on the way.
-/

namespace Workflows

/-- Why a service gives no answer. -/
inductive ServiceFault (ε : Type) where
  | refused (e : ε)
  /-- The service broke down; a reason is known if it was a text. -/
  | brokeDown (reason : Option String)
  deriving DecidableEq

end Workflows

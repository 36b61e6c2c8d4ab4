import Workflows.Data.Document

/-!
# Notifications

`Notification` is a message ready to be sent, and `Notification.encode` the same as data.
-/

namespace Workflows

/-- A message ready to be sent. -/
structure Notification where
  recipients : List String
  message : String
  template : Option String
  entityType : String
  entityId : String
  executionId : String
  deriving DecidableEq

/-- A notification as data. -/
def Notification.encode (n : Notification) : Value :=
  .record [
    ("recipients", some (.ofTexts n.recipients)),
    ("message", some (.text n.message)),
    ("template", n.template.map .text),
    ("entity_type", some (.text n.entityType)),
    ("entity_id", some (.text n.entityId)),
    ("execution_id", some (.text n.executionId))]

end Workflows

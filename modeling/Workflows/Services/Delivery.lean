import Workflows.Data.Document
import Workflows.Text.Blank

/-!
# Deliveries of changes

* `ChangeType`, `DeliveryMode`: what is delivered and by which way, with their names;
* `Payload`: what is handed over; `ModeResult`: how it went by one way;
* `DeliveryFault`: why nothing could be handed over;
* `Deliveries`: how it went by all ways.
-/

namespace Workflows

/-- What a delivery changes. -/
inductive ChangeType where
  | grant
  | revoke
  | tagAssign
  | tagRemove
  | statusChange
  deriving DecidableEq

namespace ChangeType

/-- The name of a change. -/
def name : ChangeType → String
  | .grant => "grant"
  | .revoke => "revoke"
  | .tagAssign => "tag_assign"
  | .tagRemove => "tag_remove"
  | .statusChange => "status_change"

/-- The change of a name; blanks around it do not count. -/
def ofName? (s : String) : Option ChangeType :=
  match Text.trim s with
  | "grant" => some .grant
  | "revoke" => some .revoke
  | "tag_assign" => some .tagAssign
  | "tag_remove" => some .tagRemove
  | "status_change" => some .statusChange
  | _ => none

end ChangeType

/-- The way that a delivery takes. -/
inductive DeliveryMode where
  | direct
  | indirect
  | manual
  deriving DecidableEq

namespace DeliveryMode

/-- The name of a way. -/
def name : DeliveryMode → String
  | .direct => "direct"
  | .indirect => "indirect"
  | .manual => "manual"

/-- The way of a name. -/
def exactly? : String → Option DeliveryMode
  | "direct" => some .direct
  | "indirect" => some .indirect
  | "manual" => some .manual
  | _ => none

/-- The way of a name; blanks around it do not count. -/
def ofName? (s : String) : Option DeliveryMode := exactly? (Text.trim s)

end DeliveryMode

/-- What is handed to the delivery service. -/
structure Payload where
  change : ChangeType
  entityType : String
  entityId : String
  data : Object
  user : Option String
  deriving DecidableEq

/-- A payload as data. -/
def Payload.encode (p : Payload) : Value :=
  .record [
    ("change_type", some (.text p.change.name)),
    ("entity_type", some (.text p.entityType)),
    ("entity_id", some (.text p.entityId)),
    ("data", some (.ofObject p.data)),
    ("user", p.user.map .text)]

/-- How a delivery went by one way. -/
structure ModeResult where
  mode : DeliveryMode
  success : Bool
  message : Option String
  error : Option String
  deriving DecidableEq

namespace ModeResult

/-- A success with a message. -/
def ok (mode : DeliveryMode) (message : String) : ModeResult := ⟨mode, true, some message, none⟩

/-- A failure with an error. -/
def failed (mode : DeliveryMode) (error : String) : ModeResult := ⟨mode, false, none, some error⟩

open Document

/-- The result of a document. -/
def decode? {δ : Type} [Document δ] (d : δ) : Option ModeResult := do
  let fs ← fields? (["mode", "success", "message", "error"].map .plain) d
  return {
    mode := ← fs.required "mode" fun d => (name? d).bind DeliveryMode.exactly?
    success := ← fs.required "success" bool?
    message := ← fs.optional "message" text?
    error := ← fs.optional "error" text? }

/-- A result as data. -/
def encode (r : ModeResult) : Value :=
  .record [
    ("mode", some (.text r.mode.name)),
    ("success", some (.bool r.success)),
    ("message", r.message.map .text),
    ("error", r.error.map .text)]

end ModeResult

/-- Why nothing could be handed over. -/
inductive DeliveryFault where
  | unavailable (reason : String)
  | failed (reason : String)
  deriving DecidableEq

/-- The text of a fault. -/
def DeliveryFault.message : DeliveryFault → String
  | .unavailable reason => "Delivery service unavailable: " ++ reason
  | .failed reason => "Delivery failed: " ++ reason

/-- How a delivery went by all ways it took. -/
abbrev Deliveries := List ModeResult

namespace Deliveries

/-- How many ways succeeded. -/
def successCount (rs : Deliveries) : Nat := rs.countP (·.success)

/-- Whether some way was taken and all succeeded. -/
def allSuccess (rs : Deliveries) : Bool := !rs.isEmpty && rs.all (·.success)

/-- Whether some way succeeded. -/
def anySuccess (rs : Deliveries) : Bool := rs.any (·.success)

/-- The errors that were given. -/
def errors (rs : Deliveries) : List String := rs.filterMap (·.error)

/-- The results as a step records them. -/
def toData (rs : Deliveries) : List (String × Value) := [
  ("results", .list (rs.map ModeResult.encode)),
  ("all_success", .bool (allSuccess rs)),
  ("any_success", .bool (anySuccess rs)),
  ("errors", .ofTexts (errors rs))]

end Deliveries

end Workflows

import Workflows.Data.Document
import Workflows.Services.Fault

/-!
# Policies

A policy is a named rule that steps refer to by its id.

* `PolicyStore`: where steps look policies up;
* `Policies`, `Policies.store`: policies by id. `Policies.ofList` keeps the last policy of an id.
-/

namespace Workflows

/-- A named rule. -/
structure Policy where
  id : String
  name : String
  rule : String
  isActive : Bool
  severity : String
  failureMessage : Option String
  description : Option String
  deriving DecidableEq

namespace Policy

open Document

/-- The fields of a policy. -/
def fields : List Field :=
  ["id", "name", "rule", "is_active", "severity", "failure_message", "description"].map .plain

/-- The policy of a document. -/
def decode? {δ : Type} [Document δ] (d : δ) : Option Policy := do
  let fs ← fields? fields d
  return {
    id := ← fs.required "id" text?
    name := ← fs.required "name" text?
    rule := ← fs.required "rule" text?
    isActive := ← fs.orElse "is_active" true bool?
    severity := ← fs.orElse "severity" "medium" text?
    failureMessage := ← fs.optional "failure_message" text?
    description := ← fs.optional "description" text? }

/-- A policy as data. -/
def encode (p : Policy) : Value :=
  .record [
    ("id", some (.text p.id)),
    ("name", some (.text p.name)),
    ("rule", some (.text p.rule)),
    ("is_active", some (.bool p.isActive)),
    ("severity", some (.text p.severity)),
    ("failure_message", p.failureMessage.map .text),
    ("description", p.description.map .text)]

end Policy

/-- Where policies are looked up. A store has no errors of its own, but it may break down. -/
abbrev PolicyStore := String → Except (ServiceFault Empty) (Option Policy)

/-- Policies by id. -/
abbrev Policies := Dict Policy

/-- Policies by id; of several with one id the last counts. -/
def Policies.ofList (policies : List Policy) : Policies := Dict.ofList (policies.map fun p => (p.id, p))

/-- Policies as a store, which never breaks down. -/
def Policies.store (policies : Policies) : PolicyStore := fun id => .ok (policies.get? id)

end Workflows

import Workflows.Text.Blank

/-!
# Kinds of steps

`StepKind` lists the kinds that can be carried out and keeps any other name as it is written;
`StepKind.ofName` and `StepKind.name` go from names to kinds and back.
-/

namespace Workflows

/-- What a step does. -/
inductive StepKind where
  | validation
  | approval
  | notification
  | assignTag
  | removeTag
  | conditional
  | script
  | pass
  | fail
  | policyCheck
  | delivery
  /-- A kind that cannot be carried out. -/
  | unknown (name : String)
  deriving DecidableEq

namespace StepKind

/-- The name of a kind in definitions. -/
def name : StepKind → String
  | .validation => "validation"
  | .approval => "approval"
  | .notification => "notification"
  | .assignTag => "assign_tag"
  | .removeTag => "remove_tag"
  | .conditional => "conditional"
  | .script => "script"
  | .pass => "pass"
  | .fail => "fail"
  | .policyCheck => "policy_check"
  | .delivery => "delivery"
  | .unknown name => name

/-- The kind of a name; blanks around a known name do not count. -/
def ofName (name : String) : StepKind :=
  match Text.trim name with
  | "validation" => .validation
  | "approval" => .approval
  | "notification" => .notification
  | "assign_tag" => .assignTag
  | "remove_tag" => .removeTag
  | "conditional" => .conditional
  | "script" => .script
  | "pass" => .pass
  | "fail" => .fail
  | "policy_check" => .policyCheck
  | "delivery" => .delivery
  | _ => .unknown name

/-- Whether steps of the kind can be carried out. -/
def isKnown : StepKind → Bool
  | .unknown _ => false
  | _ => true

/-- The settings that a step of the kind cannot do without. -/
def requiredKeys : StepKind → List String
  | .validation => ["rule"]
  | .approval => ["approvers"]
  | .notification => ["recipients"]
  | .assignTag | .removeTag => ["key"]
  | .conditional => ["condition"]
  | .script => ["code"]
  | .policyCheck => ["policy_id"]
  | .pass | .fail | .delivery | .unknown _ => []

end StepKind

end Workflows

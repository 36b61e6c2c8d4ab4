import Workflows.Execution.Context
import Workflows.Text.Search

/-!
# Templates of notifications

`Template.text` is the text of a named template, in which `\x7bentity_type\x7d` and
`\x7bentity_name\x7d` stand for the entity's type and name; `Template.render` puts these in.
-/

namespace Workflows

namespace Template

/-- The mark for the entity's type. -/
def typeMark : String := "\x7bentity_type\x7d"

/-- The mark for the entity's name. -/
def nameMark : String := "\x7bentity_name\x7d"

/-- The text of a template; a template of another name, or none, gives the general text. -/
def text : Option String → String
  | some "validation_failed" => "Validation failed for " ++ typeMark ++ " '" ++ nameMark ++ "'"
  | some "validation_passed" => "Validation passed for " ++ typeMark ++ " '" ++ nameMark ++ "'"
  | some "product_approved" => "Data product '" ++ nameMark ++ "' has been approved"
  | some "product_rejected" => "Data product '" ++ nameMark ++ "' has been rejected"
  | some "approval_requested" => "Approval requested for " ++ typeMark ++ " '" ++ nameMark ++ "'"
  | _ => "Workflow notification for " ++ nameMark

/-- A template's text for the entity of a context; an entity without a name goes by its id. -/
def render (template : Option String) (ctx : Context) : String :=
  Text.replaceAll nameMark (ctx.entityName.getD ctx.entityId)
    (Text.replaceAll typeMark ctx.entityType (text template))

end Template

end Workflows

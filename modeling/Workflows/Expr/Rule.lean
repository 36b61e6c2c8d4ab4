import Workflows.Expr.Parser
import Workflows.Expr.Eval

/-!
# Rules and conditions

* `Rule.evaluate`: whether an entity meets a rule, with a message that explains the verdict;
* `Rule.holds`: whether an entity meets a condition.
-/

namespace Workflows

namespace Rule

/-- The verdict on an entity and its explanation. -/
def evaluate (rule : String) (entity : Object) : Except ExprError (Bool × String) := do
  let e ← Expr.parse rule
  if ← e.test entity then
    return (true, "Rule passed: " ++ Text.trim rule)
  else
    let reasons ← e.explain entity
    return (false, "Rule failed: " ++ String.intercalate "; " reasons)

/-- The verdict on an entity. -/
def holds (condition : String) (entity : Object) : Except ExprError Bool := do
  let e ← Expr.parse condition
  e.test entity

end Rule

end Workflows

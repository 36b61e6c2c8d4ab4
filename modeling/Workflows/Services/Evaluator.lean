import Workflows.Expr.Rule
import Workflows.Services.Fault

/-!
# Evaluators

Steps ask an evaluator for verdicts, so that another language can stand in for the built-in one.

* `Evaluator`: it refuses an expression with its error;
* `Evaluator.builtIn`, `Evaluator.broken`.
-/

namespace Workflows

/-- An evaluator of rules and conditions. -/
structure Evaluator where
  /-- The verdict on an entity and its explanation. -/
  rule : String → Object → Except (ServiceFault ExprError) (Bool × String)
  /-- The verdict on an entity. -/
  condition : String → Object → Except (ServiceFault ExprError) Bool

namespace Evaluator

/-- The evaluator of the built-in language. -/
def builtIn : Evaluator where
  rule text entity := (Rule.evaluate text entity).mapError .refused
  condition text entity := (Rule.holds text entity).mapError .refused

/-- An evaluator that breaks down whatever it is asked. -/
def broken (reason : Option String) : Evaluator where
  rule _ _ := .error (.brokeDown reason)
  condition _ _ := .error (.brokeDown reason)

end Evaluator

end Workflows

import Workflows.Expr.Token
import Workflows.Json.Printer

/-!
# Expressions

`Expr` is the tree of a rule or condition, and `Expr.text` its written form as messages show it.
-/

namespace Workflows

/-- A rule or condition over an entity's attributes. -/
inductive Expr where
  | literal (v : Value)
  /-- An attribute, its segments divided by points. -/
  | path (p : String)
  | list (items : List Expr)
  | not (e : Expr)
  | and (left right : Expr)
  | or (left right : Expr)
  | compare (op : CompareOp) (left right : Expr)
  deriving Inhabited

namespace Expr

/-- A literal as it is written: texts in single quotes, the others as data. -/
def literalText : Value → String
  | .text s => "'" ++ s ++ "'"
  | v => Json.compact v

mutual

/-- The written form: chains of `AND` and `OR` in parentheses, the others bare. -/
def text : Expr → String
  | .literal v => literalText v
  | .path p => p
  | .list items => "[" ++ String.intercalate ", " (itemTexts items) ++ "]"
  | .not e => "NOT " ++ e.text
  | .and l r => "(" ++ l.text ++ " AND " ++ r.text ++ ")"
  | .or l r => "(" ++ l.text ++ " OR " ++ r.text ++ ")"
  | .compare op l r => l.text ++ " " ++ op.text ++ " " ++ r.text

/-- The written forms of the items of a list. -/
def itemTexts : List Expr → List String
  | [] => []
  | e :: rest => e.text :: itemTexts rest

end

end Expr

end Workflows

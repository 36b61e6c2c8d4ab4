import Workflows.Expr.Basic
import Workflows.Decimal.Reading

/-!
# The meaning of expressions

* `lookup?`: the attribute that a path names, if the entity has it;
* `Value.truthy`, `Value.equal`, `Value.order?`, `membership`: truth, equality, order and membership;
* `Expr.eval`, `Expr.test`: the value of an expression and its truth; a missing attribute is null;
* `Expr.explain`: the checks that make an expression false.
-/

namespace Workflows

namespace Value

/-- The type of a value. -/
def type : Value → ValueType
  | .null => .null
  | .bool _ => .boolean
  | .number _ => .number
  | .text _ => .text
  | .list _ => .list
  | .object _ => .object

/-- Whether a value counts as true: a number that is not zero, or a text, a list or an object that is
not empty. -/
def truthy : Value → Bool
  | .null => false
  | .bool b => b
  | .number n => n.toFloat != 0.0
  | .text s => !s.isEmpty
  | .list items => !items.isEmpty
  | .object members => !members.isEmpty

/-- Equality of operands: two numbers by amount, all others as data. -/
def equal : Value → Value → Bool
  | .number a, .number b => a.toFloat == b.toFloat
  | a, b => a.same b

end Value

/-- The order of two doubles, if they have one. -/
def floatOrder? (a b : Float) : Option Ordering :=
  if a < b then some .lt else if a == b then some .eq else if b < a then some .gt else none

/-- The order of two texts by code points. -/
def textOrder (s t : String) : Ordering :=
  if s < t then .lt else if s = t then .eq else .gt

/-- The order of two operands, numbers by amount and texts by code points; null has none. -/
def Value.order? (op : CompareOp) (a b : Value) : Except ExprError (Option Ordering) :=
  match a, b with
  | .null, _ => .ok none
  | _, .null => .ok none
  | .number a, .number b => .ok (floatOrder? a.toFloat b.toFloat)
  | .text s, .text t => .ok (some (textOrder s t))
  | a, b => .error (.typeMismatch op a.type b.type)

/-- Whether `part` stands somewhere in `whole`. -/
def isInfix (part : List Char) : List Char → Bool
  | [] => part.isEmpty
  | c :: rest => part.isPrefixOf (c :: rest) || isInfix part rest

/-- Whether `needle` is in `haystack`: an item of a list, a part of a text or a member's name. Nothing
is in null. -/
def membership (op : CompareOp) (needle haystack : Value) : Except ExprError Bool :=
  match needle, haystack with
  | _, .null => .ok false
  | needle, .list items => .ok (items.any fun item => item.equal needle)
  | .text s, .text t => .ok (isInfix s.toList t.toList)
  | .text s, .object members => .ok (members.any fun m => m.1 == s)
  | needle, haystack => .error (.typeMismatch op needle.type haystack.type)

/-- What a comparison yields. -/
def CompareOp.apply (op : CompareOp) (a b : Value) : Except ExprError Bool :=
  match op with
  | .eq => .ok (a.equal b)
  | .ne => .ok (!a.equal b)
  | .lt => (a.order? op b).map (· == some .lt)
  | .le => (a.order? op b).map fun o => o == some .lt || o == some .eq
  | .gt => (a.order? op b).map (· == some .gt)
  | .ge => (a.order? op b).map fun o => o == some .gt || o == some .eq
  | .contains => membership op b a
  | .isIn => membership op a b
  | .notIn => (membership op a b).map (!·)

/-! ## Attributes -/

/-- The pieces of a text between points. -/
def segments (p : String) : List String :=
  (p.toList.splitOn '.').map String.ofList

/-- The position that a piece stands for: digits, perhaps behind a plus sign. -/
def segmentIndex? (segment : String) : Option Nat :=
  match segment.toList with
  | '+' :: digits => Decimal.readNat? digits
  | digits => Decimal.readNat? digits

/-- One step into a value: a member of an object by name, an item of a list by position. -/
def Value.child? (segment : String) : Value → Option Value
  | .object members => Bindings.find? segment members
  | .list items => (segmentIndex? segment).bind fun n => items[n]?
  | _ => none

/-- The attribute that a path names. -/
def lookup? (entity : Object) (p : String) : Option Value :=
  match segments p with
  | [] => none
  | first :: rest => rest.foldl (fun v s => v.bind (Value.child? s)) (entity.get? first)

/-- The attribute that a path names as messages show it: a text in single quotes, others as data. -/
def describe (entity : Object) (p : String) : String :=
  match lookup? entity p with
  | some v => Expr.literalText v
  | none => "null"

namespace Expr

variable (entity : Object)

/-! ## Evaluation -/

mutual

/-- The value of an expression. `AND` and `OR` do not look at their right side where the left one
settles the matter. -/
def eval : Expr → Except ExprError Value
  | .literal v => .ok v
  | .path p => .ok ((lookup? entity p).getD .null)
  | .list items => (evalItems items).map .list
  | .not e => (eval e).map fun v => .bool !v.truthy
  | .and l r => do
    if (← eval l).truthy then return .bool (← eval r).truthy else return .bool false
  | .or l r => do
    if (← eval l).truthy then return .bool true else return .bool (← eval r).truthy
  | .compare op l r => do
    let a ← eval l
    let b ← eval r
    (op.apply a b).map .bool

/-- The values of the items of a list. -/
def evalItems : List Expr → Except ExprError (List Value)
  | [] => .ok []
  | e :: rest => do
    let v ← eval e
    let vs ← evalItems rest
    return v :: vs

end

/-- Whether an expression's value counts as true. -/
def test (e : Expr) : Except ExprError Bool := (e.eval entity).map Value.truthy

/-- What an operand's value is, if it is a path. -/
def actual? : Expr → Option String
  | .path p => some (p ++ " = " ++ describe entity p)
  | _ => none

/-- A check as a reason: with the values of the attributes it reads. -/
def reason (e : Expr) : String :=
  match e with
  | .compare _ l r =>
    match [l, r].filterMap (actual? entity) with
    | [] => e.text
    | actuals => e.text ++ " (actual: " ++ String.intercalate ", " actuals ++ ")"
  | .path p => p ++ " is not set (actual: " ++ describe entity p ++ ")"
  | e => e.text

/-- The checks that make an expression false, from left to right: those of the false sides of an `AND`
and of both sides of an `OR`. -/
def explain : Expr → Except ExprError (List String)
  | .and l r => do
    let left ← if ← l.test entity then pure [] else explain l
    let right ← if ← r.test entity then pure [] else explain r
    return left ++ right
  | .or l r => do
    let left ← explain l
    let right ← explain r
    return left ++ right
  | e => .ok [e.reason entity]

end Expr

end Workflows

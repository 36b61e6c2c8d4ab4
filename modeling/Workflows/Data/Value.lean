import Workflows.Data.Dict

/-!
# Values

The data that entities, step settings and results are made of: null, booleans, numbers, texts,
lists and objects.

* `Real64`: a finite double; `Number`: a whole number or a double, which stay apart (`1` is not `1.0`);
* `Value`: a piece of data; the members of an object stand as a list of bindings;
* `Object`: the dictionary of an object's members; `Value.ofObject` and `Value.object?`;
* `Value.canonical`: every object's members in ascending key order, the later of two members of one
  name counting;
* `Value.same`: equality of data, by which `0.0` and `-0.0` are equal; `Value.decEq` decides identity.
-/

namespace Workflows

/-- A finite double. -/
structure Real64 where
  toFloat : Float
  isFinite : toFloat.isFinite = true
  deriving DecidableEq

namespace Real64

/-- The double `x`, if it is finite. -/
def ofFloat? (x : Float) : Option Real64 :=
  if h : x.isFinite = true then some ⟨x, h⟩ else none

/-- The number zero. -/
def zero : Real64 := ⟨0.0, by decide⟩

instance : Inhabited Real64 := ⟨zero⟩

end Real64

/-- A number of the data format. -/
inductive Number where
  /-- A whole number. -/
  | int (n : Int)
  /-- A number written with a point or an exponent, or too large for a whole number. -/
  | real (x : Real64)
  deriving DecidableEq, Inhabited

namespace Number

/-- The largest whole number; beyond it a number is a double. -/
def maxInt : Int := 0xffffffffffffffff

/-- The smallest whole number; below it a number is a double. -/
def minInt : Int := -0x8000000000000000

/-- The nearest double. -/
def toFloat : Number → Float
  | .int n => Float.ofInt n
  | .real x => x.toFloat

/-- Equality of numbers of one form; `0.0` and `-0.0` are equal. -/
def same : Number → Number → Bool
  | .int m, .int n => m == n
  | .real x, .real y => x.toFloat == y.toFloat
  | _, _ => false

end Number

/-- A piece of data. -/
inductive Value where
  | null
  | bool (b : Bool)
  | number (n : Number)
  | text (s : String)
  | list (items : List Value)
  | object (members : List (String × Value))
  deriving Inhabited

/-- The members of an object, in ascending key order. -/
abbrev Object := Dict Value

namespace Value

/-- The value of a dictionary of members. -/
def ofObject (o : Object) : Value := .object o.entries

/-- The whole number `n`. -/
def int (n : Int) : Value := .number (.int n)

/-- The whole number `n`. -/
def nat (n : Nat) : Value := .number (.int n)

/-- The double `x`; one that is not finite has no written form and stands as null. -/
def ofFloat (x : Float) : Value :=
  match Real64.ofFloat? x with
  | some r => .number (.real r)
  | none => .null

/-- A text if there is one, else null. -/
def ofText? : Option String → Value
  | some s => .text s
  | none => .null

/-- The list of `texts`. -/
def ofTexts (texts : List String) : Value := .list (texts.map .text)

/-- The members of an object. -/
def object? : Value → Option Object
  | .object members => some (Dict.ofList members)
  | _ => none

/-- The text of a text. -/
def text? : Value → Option String
  | .text s => some s
  | _ => none

/-- The items of a list. -/
def list? : Value → Option (List Value)
  | .list items => some items
  | _ => none

/-- Whether the value is null. -/
def isNull : Value → Bool
  | .null => true
  | _ => false

@[simp] theorem object?_ofObject (o : Object) : (ofObject o).object? = some o := by
  simp [ofObject, object?]

/-! ## Canonical form -/

mutual

/-- The same data with the members of every object in ascending key order, each name once. -/
def canonical : Value → Value
  | .list items => .list (canonicalItems items)
  | .object members => .object (Bindings.ascending (canonicalMembers members))
  | v => v

/-- The canonical form of every item. -/
def canonicalItems : List Value → List Value
  | [] => []
  | v :: rest => canonical v :: canonicalItems rest

/-- The canonical form of every member's value. -/
def canonicalMembers : List (String × Value) → List (String × Value)
  | [] => []
  | (k, v) :: rest => (k, canonical v) :: canonicalMembers rest

end

/-! ## Equality of data -/

mutual

/-- Equality of canonical data: same shape, same texts, numbers of the same form and amount. -/
def same : Value → Value → Bool
  | .null, .null => true
  | .bool a, .bool b => a == b
  | .number m, .number n => m.same n
  | .text s, .text t => s == t
  | .list xs, .list ys => sameItems xs ys
  | .object xs, .object ys => sameMembers xs ys
  | _, _ => false

/-- Equality of two lists, item by item. -/
def sameItems : List Value → List Value → Bool
  | [], [] => true
  | x :: xs, y :: ys => same x y && sameItems xs ys
  | _, _ => false

/-- Equality of two objects, member by member. -/
def sameMembers : List (String × Value) → List (String × Value) → Bool
  | [], [] => true
  | (k, x) :: xs, (l, y) :: ys => k == l && same x y && sameMembers xs ys
  | _, _ => false

end

/-! ## Identity of values -/

mutual

/-- Whether two values are one and the same, members in the same order. -/
def decEq : (a b : Value) → Decidable (a = b)
  | .null, b => match b with
    | .null => isTrue rfl
    | .bool _ | .number _ | .text _ | .list _ | .object _ => isFalse (by simp)
  | .bool x, b => match b with
    | .bool y => if h : x = y then isTrue (by rw [h]) else isFalse (by simpa using h)
    | .null | .number _ | .text _ | .list _ | .object _ => isFalse (by simp)
  | .number x, b => match b with
    | .number y => if h : x = y then isTrue (by rw [h]) else isFalse (by simpa using h)
    | .null | .bool _ | .text _ | .list _ | .object _ => isFalse (by simp)
  | .text x, b => match b with
    | .text y => if h : x = y then isTrue (by rw [h]) else isFalse (by simpa using h)
    | .null | .bool _ | .number _ | .list _ | .object _ => isFalse (by simp)
  | .list x, b => match b with
    | .list y => match decEqItems x y with
      | isTrue h => isTrue (by rw [h])
      | isFalse h => isFalse (by simpa using h)
    | .null | .bool _ | .number _ | .text _ | .object _ => isFalse (by simp)
  | .object x, b => match b with
    | .object y => match decEqMembers x y with
      | isTrue h => isTrue (by rw [h])
      | isFalse h => isFalse (by simpa using h)
    | .null | .bool _ | .number _ | .text _ | .list _ => isFalse (by simp)

/-- Whether two lists of items are one and the same. -/
def decEqItems : (a b : List Value) → Decidable (a = b)
  | [], [] => isTrue rfl
  | [], _ :: _ => isFalse (by simp)
  | _ :: _, [] => isFalse (by simp)
  | x :: xs, y :: ys => match decEq x y, decEqItems xs ys with
    | isTrue h, isTrue g => isTrue (by rw [h, g])
    | isFalse h, _ => isFalse (by simp [h])
    | _, isFalse g => isFalse (by simp [g])

/-- Whether two lists of members are one and the same. -/
def decEqMembers : (a b : List (String × Value)) → Decidable (a = b)
  | [], [] => isTrue rfl
  | [], _ :: _ => isFalse (by simp)
  | _ :: _, [] => isFalse (by simp)
  | (k, x) :: xs, (l, y) :: ys =>
    if hk : k = l then
      match decEq x y, decEqMembers xs ys with
      | isTrue h, isTrue g => isTrue (by rw [hk, h, g])
      | isFalse h, _ => isFalse (by simp [h])
      | _, isFalse g => isFalse (by simp [g])
    else isFalse (by simp [hk])

end

instance : DecidableEq Value := decEq

end Value

end Workflows

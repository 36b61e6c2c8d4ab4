import Workflows.Interpreter.Machine

/-!
# Truth, equality and order of items

* `Item.amount?`: the number that an item is; truth values count as 0 and 1;
* `Machine.truth`: whether an item counts as true;
* `Machine.same`, `Machine.less?`: equality, and order where there is one;
* `Machine.hashable`: whether an item may be a key; `Machine.find?`: a look-up by key.
-/

namespace Workflows

namespace Interpreter

/-- A number of a script. -/
inductive Amount where
  | int (n : Int)
  | real (x : Float)

namespace Amount

/-- The nearest double. -/
def toFloat : Amount → Float
  | .int n => Float.ofInt n
  | .real x => x

/-- Equality of amounts. -/
def same : Amount → Amount → Bool
  | .int m, .int n => m == n
  | a, b => a.toFloat == b.toFloat

/-- Order of amounts; no order where one is no number. -/
def less : Amount → Amount → Bool
  | .int m, .int n => m < n
  | a, b => a.toFloat < b.toFloat

end Amount

namespace Item

/-- The number that an item is. -/
def amount? : Item → Option Amount
  | .bool b => some (.int (if b then 1 else 0))
  | .int n => some (.int n)
  | .real x => some (.real x)
  | _ => Option.none

/-- The whole number that an item is. -/
def int? : Item → Option Int
  | .bool b => some (if b then 1 else 0)
  | .int n => some n
  | _ => Option.none

/-- How many numbers a range holds. -/
def rangeLength (start stop step : Int) : Nat :=
  if 0 < step then ((stop - start + step - 1) / step).toNat
  else if step < 0 then ((start - stop - step - 1) / (-step)).toNat
  else 0

/-- The numbers of a range. -/
def rangeItems (start stop step : Int) : List Item :=
  (List.range (rangeLength start stop step)).map fun (i : Nat) => .int (start + step * i)

/-- Whether two items are one and the same, without looking into cells. -/
def identical : Item → Item → Bool
  | .none, .none => true
  | .bool a, .bool b => a == b
  | .int a, .int b => a == b
  | .real a, .real b => a.toBits == b.toBits
  | .text a, .text b => a == b
  | .tuple [], .tuple [] => true
  | .cell a, .cell b => a == b
  | .native a, .native b => a == b
  | .kind a, .kind b => a == b
  | .library a, .library b => a == b
  | .stream a, .stream b => a == b
  | _, _ => false

end Item

namespace Machine

variable (m : Machine)

/-- Whether an item counts as true. -/
def truth : Item → Bool
  | .none => false
  | .bool b => b
  | .int n => n ≠ 0
  | .real x => x != 0
  | .text s => !s.isEmpty
  | .tuple items => !items.isEmpty
  | .range start stop step => Item.rangeLength start stop step ≠ 0
  | .view _ a => match m.cells[a]? with
    | some (.dict entries) => !entries.isEmpty
    | _ => false
  | .cell a => match m.cells[a]? with
    | some (.list items) | some (.set items) => !items.isEmpty
    | some (.dict entries) => !entries.isEmpty
    | _ => true
  | _ => true

/-- How deeply nested items are compared. -/
def compareDepth : Nat := 200

/-- Equality of items that are nested no deeper than a number of levels. -/
def sameWithin : Nat → Item → Item → Bool
  | 0, _, _ => false
  | n + 1, a, b =>
    let all (xs ys : List Item) : Bool :=
      xs.length == ys.length && (xs.zip ys).all fun (x, y) => sameWithin n x y
    let subset (xs ys : List Item) : Bool := xs.all fun x => ys.any (sameWithin n x)
    match a.amount?, b.amount? with
    | some x, some y => x.same y
    | _, _ =>
      match a, b with
      | .tuple xs, .tuple ys => all xs ys
      | .range s t u, .range s' t' u' =>
        all (Item.rangeItems s t u) (Item.rangeItems s' t' u')
      | .cell x, .cell y =>
        x == y || (match m.cells[x]?, m.cells[y]? with
          | some (.list xs), some (.list ys) => all xs ys
          | some (.set xs), some (.set ys) => xs.length == ys.length && subset xs ys
          | some (.dict xs), some (.dict ys) =>
            xs.length == ys.length && xs.all fun (k, v) =>
              ys.any fun (l, w) => sameWithin n k l && sameWithin n v w
          | _, _ => false)
      | a, b => a.identical b

/-- Equality of items. -/
def same (a b : Item) : Bool := m.sameWithin compareDepth a b

/-- The items of a tuple or a list. -/
def sequence? : Item → Option (List Item)
  | .tuple items => some items
  | .cell a => match m.cells[a]? with
    | some (.list items) => some items
    | _ => none
  | _ => none

/-- Whether two items have an order at all: numbers, texts, two lists, two tuples or two sets. -/
def lessWithin : Nat → Item → Item → Option Bool
  | 0, _, _ => none
  | n + 1, a, b =>
    match a.amount?, b.amount? with
    | some x, some y => some (x.less y)
    | _, _ =>
      let inOrder (xs ys : List Item) : Option Bool :=
        match (xs.zip ys).find? fun (x, y) => !m.same x y with
        | some (x, y) => lessWithin n x y
        | none => some (xs.length < ys.length)
      match a, b with
      | .text s, .text t => some (s < t)
      | .tuple xs, .tuple ys => inOrder xs ys
      | .cell x, .cell y =>
        match m.cells[x]?, m.cells[y]? with
        | some (.list xs), some (.list ys) => inOrder xs ys
        | some (.set xs), some (.set ys) =>
          some (xs.length < ys.length && xs.all fun x => ys.any (m.same x))
        | _, _ => none
      | _, _ => none

/-- Whether an item comes before another one, where there is an order. -/
def less? (a b : Item) : Option Bool := m.lessWithin compareDepth a b

/-- The type of a part of an item that may be no key, if there is one. -/
def unhashableWithin : Nat → Item → Option String
  | 0, _ => none
  | n + 1, i =>
    match i with
    | .tuple items => items.findSome? (unhashableWithin n)
    | .cell a => match m.cells[a]? with
      | some (.list _) | some (.dict _) | some (.set _) => some (m.typeName i)
      | _ => none
    | _ => none

/-- The type of a part of an item that may be no key, if there is one. -/
def unhashable? (i : Item) : Option String := m.unhashableWithin compareDepth i

/-- The value of a key. -/
def find? (entries : List (Item × Item)) (key : Item) : Option Item :=
  (entries.find? fun e => m.same e.1 key).map (·.2)

/-- Entries with a key's value set; a new key comes last. -/
def insert (entries : List (Item × Item)) (key value : Item) : List (Item × Item) :=
  if entries.any fun e => m.same e.1 key then
    entries.map fun e => if m.same e.1 key then (e.1, value) else e
  else entries ++ [(key, value)]

/-- Items of which no two are equal, the first of each kept. -/
def distinct (items : List Item) : List Item :=
  items.foldl (fun kept i => if kept.any (m.same i) then kept else kept ++ [i]) []

end Machine

end Interpreter

end Workflows

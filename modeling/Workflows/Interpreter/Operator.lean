import Workflows.Interpreter.Format

/-!
# Operators of scripts

* `Operator.unary`, `Operator.binary`, `Operator.compare`: operators on items;
* `Operator.contains`: whether an item is in another one;
* `Run.items`: the items of an item, one by one; `Run.itemAt`, `Run.putAt`, `Run.dropAt`: what stands under
  an index or a key; `Run.slice`: a part of an item.
-/

namespace Workflows

namespace Interpreter

open Run

namespace Run

/-- The type of an item. -/
def typeName (i : Item) : Run String := return (← get).typeName i

/-- Whether an item counts as true. -/
def truth (i : Item) : Run Bool := return (← get).truth i

/-- Refuses items that may be no keys. -/
def checkKey (i : Item) : Run Unit := do
  match (← get).unhashable? i with
  | some type => raise "TypeError" ("unhashable type: '" ++ type ++ "'")
  | none => return ()

/-- How many items are held at most. -/
def maxItems : Nat := 10000000

/-- The items of an item, if it has any; those of a cursor are used up. -/
def items? (i : Item) : Run (Option (List Item)) := do
  let m ← get
  match i with
  | .text s => return some (s.toList.map fun c => .text c.toString)
  | .tuple items => return some items
  | .range start stop step =>
    if maxItems < Item.rangeLength start stop step then raise "MemoryError" ""
    return some (Item.rangeItems start stop step)
  | .view .keys a => return some ((m.entries a).map (·.1))
  | .view .values a => return some ((m.entries a).map (·.2))
  | .view .entries a => return some ((m.entries a).map fun (k, v) => .tuple [k, v])
  | .input => return some []
  | .cell a =>
    match m.cells[a]? with
    | some (.list items) => return some items
    | some (.dict entries) => return some (entries.map (·.1))
    | some (.set items) => return some (Machine.setOrder items)
    | some (.cursor items) => setCell a (.cursor []); return some items
    | _ => return none
  | _ => return none

/-- The items of an item. -/
def items (i : Item) : Run (List Item) := do
  match ← items? i with
  | some items => return items
  | none => raise "TypeError" ("'" ++ (← typeName i) ++ "' object is not iterable")

/-- An index counted from the start; negative ones count from the end. -/
def position? (length : Nat) (i : Int) : Option Nat :=
  let p := if i < 0 then i + length else i
  if 0 ≤ p ∧ p < length then some p.toNat else none

/-- The whole number that an index is. -/
def index (what : String) (i : Item) : Run Int := do
  match i.int? with
  | some n => return n
  | none => raise "TypeError" (what ++ " indices must be integers or slices, not " ++ (← typeName i))

/-- The item at an index. -/
def nth (what : String) (items : List Item) (i : Item) : Run Item := do
  match (position? items.length (← index what i)).bind (items[·]?) with
  | some item => return item
  | none => raise "IndexError" (what ++ " index out of range")

/-- The item under an index or a key. -/
def itemAt (container key : Item) : Run Item := do
  let m ← get
  match container with
  | .text s =>
    match key.int? with
    | none => raise "TypeError" ("string indices must be integers, not '" ++ m.typeName key ++ "'")
    | some _ => nth "string" (s.toList.map fun c => .text c.toString) key
  | .tuple items => nth "tuple" items key
  | .range start stop step =>
    match (position? (Item.rangeLength start stop step) (← index "range" key)) with
    | some p => return .int (start + step * p)
    | none => raise "IndexError" "range object index out of range"
  | .cell a =>
    match m.cells[a]? with
    | some (.list items) => nth "list" items key
    | some (.dict entries) =>
      checkKey key
      match m.find? entries key with
      | some item => return item
      | none => raiseWith "KeyError" [key]
    | _ => raise "TypeError" ("'" ++ m.typeName container ++ "' object is not subscriptable")
  | _ => raise "TypeError" ("'" ++ m.typeName container ++ "' object is not subscriptable")

/-- Puts an item under an index or a key. -/
def putAt (container key value : Item) : Run Unit := do
  let m ← get
  let refuse : Run Unit :=
    raise "TypeError" ("'" ++ m.typeName container ++ "' object does not support item assignment")
  match container with
  | .cell a =>
    match m.cells[a]? with
    | some (.list items) =>
      match position? items.length (← index "list" key) with
      | some p => setCell a (.list (items.set p value))
      | none => raise "IndexError" "list assignment index out of range"
    | some (.dict entries) =>
      checkKey key
      setCell a (.dict (m.insert entries key value))
    | _ => refuse
  | _ => refuse

/-- Removes what stands under an index or a key. -/
def dropAt (container key : Item) : Run Unit := do
  let m ← get
  let refuse : Run Unit :=
    raise "TypeError" ("'" ++ m.typeName container ++ "' object doesn't support item deletion")
  match container with
  | .cell a =>
    match m.cells[a]? with
    | some (.list items) =>
      match position? items.length (← index "list" key) with
      | some p => setCell a (.list (items.eraseIdx p))
      | none => raise "IndexError" "list assignment index out of range"
    | some (.dict entries) =>
      checkKey key
      if (m.find? entries key).isSome then
        setCell a (.dict (entries.filter fun e => !m.same e.1 key))
      else raiseWith "KeyError" [key]
    | _ => refuse
  | _ => refuse

/-- The positions that a slice picks out of `length` items. -/
def slicePositions (length : Nat) (start stop : Option Int) (step : Int) : List Nat :=
  let clamp (low high i : Int) : Int := max low (min high (if i < 0 then i + length else i))
  if 0 < step then
    let first := (start.map (clamp 0 length)).getD 0
    let last := (stop.map (clamp 0 length)).getD length
    (List.range (Item.rangeLength first last step)).map fun (i : Nat) => (first + step * i).toNat
  else
    let first := (start.map (clamp (-1) (length - 1))).getD (length - 1)
    let last := (stop.map (clamp (-1) (length - 1))).getD (-1)
    (List.range (Item.rangeLength first last step)).map fun (i : Nat) => (first + step * i).toNat

/-- A bound of a slice. -/
def bound (i : Item) : Run (Option Int) := do
  match i with
  | .none => return none
  | i =>
    match i.int? with
    | some n => return some n
    | none => raise "TypeError" "slice indices must be integers or None or have an __index__ method"

/-- The part of an item that a slice picks out. -/
def slice (container start stop step : Item) : Run Item := do
  let start ← bound start
  let stop ← bound stop
  let step := (← bound step).getD 1
  if step = 0 then raise "ValueError" "slice step cannot be zero"
  let pick (items : List Item) : List Item :=
    let all := items.toArray
    (slicePositions items.length start stop step).filterMap fun p => all[p]?
  match container with
  | .text s =>
    let all := s.toList.toArray
    return .text (String.ofList ((slicePositions all.size start stop step).filterMap fun p => all[p]?))
  | .tuple items => return .tuple (pick items)
  | .range a b c => newList (pick (Item.rangeItems a b c))
  | i =>
    match (← get).sequence? i with
    | some items => newList (pick items)
    | none => raise "TypeError" ("'" ++ (← typeName i) ++ "' object is not subscriptable")

end Run

namespace Operator

/-- Refuses two items for an operator. -/
def unsupported (op : BinaryOp) (a b : Item) : Run Item := do
  raise "TypeError" ("unsupported operand type(s) for " ++ op.sign ++ ": '" ++ (← typeName a) ++ "' and '"
    ++ (← typeName b) ++ "'")

/-- Arithmetic on doubles. -/
def onReals (op : BinaryOp) (x y : Float) : Run Item := do
  let nonZero (what : String) (value : Float) : Run Item := do
    if y == 0 then raise "ZeroDivisionError" what
    return .real value
  match op with
  | .add => return .real (x + y)
  | .subtract => return .real (x - y)
  | .multiply => return .real (x * y)
  | .divide => nonZero "float division by zero" (x / y)
  | .floorDivide => nonZero "float floor division by zero" (x / y).floor
  | .modulo => nonZero "float modulo" (x - y * (x / y).floor)
  | .power =>
    if x == 0 && y < 0 then raise "ZeroDivisionError" "0.0 cannot be raised to a negative power"
    let z := x.pow y
    if z.isInf && x.isFinite && y.isFinite then
      raiseWith "OverflowError" [.int 34, .text "Numerical result out of range"]
    return .real z
  | op => unsupported op (.real x) (.real y)

/-- The largest number of bits that a power may have. -/
def maxPowerBits : Nat := 1000000

/-- Arithmetic on whole numbers. -/
def onInts (op : BinaryOp) (x y : Int) : Run Item := do
  let nonZero (what : String) (value : Item) : Run Item := do
    if y = 0 then raise "ZeroDivisionError" what
    return value
  let shift (value : Item) : Run Item := do
    if y < 0 then raise "ValueError" "negative shift count"
    if maxPowerBits < y.toNat then raise "MemoryError" ""
    return value
  match op with
  | .add => return .int (x + y)
  | .subtract => return .int (x - y)
  | .multiply => return .int (x * y)
  | .divide => nonZero "division by zero" (.real (Float.ofInt x / Float.ofInt y))
  | .floorDivide => nonZero "integer division or modulo by zero" (.int (x.fdiv y))
  | .modulo => nonZero "integer modulo by zero" (.int (x.fmod y))
  | .power =>
    if 0 ≤ y then
      if maxPowerBits < (Nat.log2 x.natAbs + 1) * y.toNat then raise "MemoryError" ""
      return .int (x.pow y.toNat)
    else onReals .power (Float.ofInt x) (Float.ofInt y)
  | .shiftLeft => shift (.int (x * Int.pow 2 (min y.toNat maxPowerBits)))
  | .shiftRight => shift (.int (x.fdiv (Int.pow 2 (min y.toNat maxPowerBits))))
  | .bitAnd => return .int (bits.1 &&& bits.2).toInt
  | .bitOr => return .int (bits.1 ||| bits.2).toInt
  | .bitXor => return .int (bits.1 ^^^ bits.2).toInt
where
  /-- The two numbers in so many bits that none is lost. -/
  bits : BitVec (Nat.log2 (x.natAbs + y.natAbs) + 2) × BitVec (Nat.log2 (x.natAbs + y.natAbs) + 2) :=
    (.ofInt _ x, .ofInt _ y)

/-- How often something is repeated. -/
def times (length : Nat) (n : Int) : Run Nat := do
  if maxItems < length * n.toNat then raise "MemoryError" ""
  return n.toNat

/-- A text whose `%` marks are filled in. -/
def fillIn (template : String) (b : Item) : Run Item := do
  let m ← get
  let (given, byName) : List Item × (String → Option Item) := match b with
    | .tuple items => (items, fun _ => none)
    | .cell a => ([b], fun name => m.find? (m.entries a) (.text name))
    | b => ([b], fun _ => none)
  let isDict := match b with
    | .cell a => !(m.entries a).isEmpty
    | _ => false
  let cs := template.toList
  match percentFormat m byName (cs.length + 1) cs given with
  | .ok (text, []) => return .text (String.ofList text)
  | .ok (text, _) =>
    if isDict then return .text (String.ofList text)
    else raise "TypeError" "not all arguments converted during string formatting"
  | .error .tooFew => raise "TypeError" "not enough arguments for format string"
  | .error .leftOver => raise "TypeError" "not all arguments converted during string formatting"
  | .error (.unfit form item) =>
    raise "TypeError" ("%" ++ form.toString ++ " format: a real number is required, not "
      ++ m.typeName item)
  | .error (.unknown form) =>
    raise "ValueError" ("unsupported format character '" ++ form.toString ++ "'")

/-- Operators on two cells: lists, sets and dictionaries. -/
def onCells (op : BinaryOp) (a b : Item) (x y : Address) : Run Item := do
  let m ← get
  match op, m.cells[x]?, m.cells[y]? with
  | .add, some (.list xs), some (.list ys) => newList (xs ++ ys)
  | .bitOr, some (.set xs), some (.set ys) => alloc (.set (m.distinct (xs ++ ys)))
  | .bitAnd, some (.set xs), some (.set ys) => alloc (.set (xs.filter fun i => ys.any (m.same i)))
  | .subtract, some (.set xs), some (.set ys) =>
    alloc (.set (xs.filter fun i => !ys.any (m.same i)))
  | .bitXor, some (.set xs), some (.set ys) =>
    alloc (.set (xs.filter (fun i => !ys.any (m.same i)) ++ ys.filter fun i => !xs.any (m.same i)))
  | .bitOr, some (.dict xs), some (.dict ys) => newDict (ys.foldl (fun es (k, v) => m.insert es k v) xs)
  | .add, some (.list _), _ =>
    raise "TypeError" ("can only concatenate list (not \"" ++ m.typeName b ++ "\") to list")
  | op, _, _ => unsupported op a b

/-- An operator on two items. -/
def binary (op : BinaryOp) (a b : Item) : Run Item := do
  let repeatItem (i : Item) (n : Int) : Run Item := do
    match i with
    | .text s => return .text (String.join (List.replicate (← times s.length n) s))
    | .tuple items => return .tuple (List.replicate (← times items.length n) items).flatten
    | i =>
      match (← get).sequence? i with
      | some items => newList (List.replicate (← times items.length n) items).flatten
      | none => unsupported op a b
  match op, a, b with
  | .modulo, .text s, b => fillIn s b
  | .add, .text s, .text t => return .text (s ++ t)
  | .add, .tuple xs, .tuple ys => return .tuple (xs ++ ys)
  | .bitAnd, .bool x, .bool y => return .bool (x && y)
  | .bitOr, .bool x, .bool y => return .bool (x || y)
  | .bitXor, .bool x, .bool y => return .bool (x != y)
  | .add, .text _, b =>
    raise "TypeError" ("can only concatenate str (not \"" ++ (← typeName b) ++ "\") to str")
  | .add, .tuple _, b =>
    raise "TypeError" ("can only concatenate tuple (not \"" ++ (← typeName b) ++ "\") to tuple")
  | op, a, b =>
    match a.amount?, b.amount? with
    | some (.int x), some (.int y) => onInts op x y
    | some x, some y => onReals op x.toFloat y.toFloat
    | _, _ =>
      match op, a, b with
      | .multiply, a, .int n => repeatItem a n
      | .multiply, .int n, b => repeatItem b n
      | .multiply, .text _, b =>
        raise "TypeError" ("can't multiply sequence by non-int of type '" ++ (← typeName b) ++ "'")
      | op, .cell x, .cell y => onCells op a b x y
      | .add, .cell x, b =>
        match (← get).cells[x]? with
        | some (.list _) =>
          raise "TypeError" ("can only concatenate list (not \"" ++ (← typeName b) ++ "\") to list")
        | _ => unsupported op a b
      | op, a, b => unsupported op a b

/-- An operator on one item. -/
def unary (op : UnaryOp) (a : Item) : Run Item := do
  let sign := match op with
    | .negative => "-"
    | .positive => "+"
    | .invert => "~"
  match op, a.amount? with
  | .negative, some (.int n) => return .int (-n)
  | .negative, some (.real x) => return .real (-x)
  | .positive, some (.int n) => return .int n
  | .positive, some (.real x) => return .real x
  | .invert, some (.int n) => return .int (-n - 1)
  | _, _ => raise "TypeError" ("bad operand type for unary " ++ sign ++ ": '" ++ (← typeName a) ++ "'")

/-- Whether one text occurs in another. -/
def occurs (needle : List Char) : List Char → Bool
  | [] => needle.isEmpty
  | c :: rest => needle.isPrefixOf (c :: rest) || occurs needle rest

/-- Whether an item is in another one. -/
def contains (container item : Item) : Run Bool := do
  let m ← get
  match container, item with
  | .text s, .text t => return occurs t.toList s.toList
  | .text _, i =>
    raise "TypeError" ("'in <string>' requires string as left operand, not " ++ m.typeName i)
  | container, item =>
    if let .cell a := container then
      match m.cells[a]? with
      | some (.dict _) | some (.set _) => checkKey item
      | _ => pure ()
    match ← items? container with
    | some items => return items.any (m.same item)
    | none => raise "TypeError" ("argument of type '" ++ m.typeName container ++ "' is not iterable")

/-- A comparison that needs an order. -/
def ordered (op : Comparison) (answer : Option Bool) (a b : Item) : Run Bool := do
  match answer with
  | some answer => return answer
  | none => raise "TypeError" ("'" ++ op.sign ++ "' not supported between instances of '"
      ++ (← typeName a) ++ "' and '" ++ (← typeName b) ++ "'")

/-- A comparison of two items. -/
def compare (op : Comparison) (a b : Item) : Run Bool := do
  let m ← get
  match op with
  | .eq => return m.same a b
  | .ne => return !m.same a b
  | .lt => ordered op (m.less? a b) a b
  | .gt => ordered op (m.less? b a) a b
  | .le => ordered op ((m.less? a b).map fun l => l || m.same a b) a b
  | .ge => ordered op ((m.less? b a).map fun l => l || m.same a b) a b
  | .isIn => contains b a
  | .notIn => return !(← contains b a)
  | .same => return a.identical b
  | .notSame => return !a.identical b

end Operator

end Interpreter

end Workflows

import Workflows.Interpreter.CellMethod
import Workflows.Interpreter.Encoded
import Workflows.Interpreter.Lexer

/-!
# Functions and types of the language

* `Run.member`: what stands behind a point;
* `Run.formatted`: an item in a format; `Run.fillBraces`: a text whose braces are filled in;
* `Native.construct`: what a type makes of its arguments;
* `Native.call`: a function by its name.
-/

namespace Workflows

namespace Interpreter

open Run

namespace Run

/-- An item in a format. -/
def formatted (item : Item) (format : String) : Run String := do
  let m ← get
  if format.isEmpty then return m.str item
  match FormatSpec.read? format with
  | none => raise "ValueError" "Invalid format specifier"
  | some spec =>
    match spec.apply m item with
    | .ok s => return s
    | .error form =>
      raise "ValueError" ("Unknown format code '" ++ form.toString ++ "' for object of type '"
        ++ m.typeName item ++ "'")

/-- An item after a conversion: as a term, or as a text. -/
def converted (item : Item) (conversion : Option Char) : Run Item := do
  match conversion with
  | some 'r' | some 'a' => return .text ((← get).repr item)
  | some 's' => return .text ((← get).str item)
  | _ => return item

/-- A text whose braces are filled in from arguments. The second argument counts the unnamed ones. -/
def fillBraces (args : Arguments) : List Piece → Nat → Run (List String)
  | [], _ => return []
  | .plain s :: rest, k => do return s :: (← fillBraces args rest k)
  | .field source conversion format :: rest, k => do
    let (item?, k) := if source.isEmpty then (args.positional[k]?, k + 1)
      else match Decimal.readNat? source.toList with
        | some n => (args.positional[n]?, k)
        | none => (args.named.lookup source, k)
    match item? with
    | some item =>
      let text ← formatted (← converted item conversion) format
      return text :: (← fillBraces args rest k)
    | none =>
      if source.isEmpty || (Decimal.readNat? source.toList).isSome then
        raise "IndexError" "Replacement index 0 out of range for positional args tuple"
      else raiseWith "KeyError" [.text source]

/-- What stands behind a point of an item, apart from libraries. -/
def member (item : Item) (name : String) : Run Item := do
  let m ← get
  let missing : Run Item :=
    raise "AttributeError" ("'" ++ m.typeName item ++ "' object has no attribute '" ++ name ++ "'")
  let methodOf (names : List String) : Run Item :=
    if names.contains name then return .method item name else missing
  if name = "__class__" then return .kind (m.typeName item)
  match item with
  | .text _ => methodOf TextMethod.names
  | .tuple _ => methodOf ["index", "count"]
  | .int _ | .bool _ => methodOf ["bit_length"]
  | .real _ => methodOf ["is_integer"]
  | .stream _ => methodOf ["write", "flush", "writelines"]
  | .input => methodOf ["read", "readline", "readlines"]
  | .native n => if name = "__name__" then return .text n else missing
  | .kind k =>
    if name = "__name__" then return .text (shortKind k)
    else if k = "dict" && name = "fromkeys" then return .native "dict.fromkeys"
    else if k = "str" && TextMethod.names.contains name then return .native ("str." ++ name)
    else raise "AttributeError" ("type object '" ++ shortKind k ++ "' has no attribute '" ++ name ++ "'")
  | .cell a =>
    match m.cells[a]? with
    | some (.list _) => methodOf CellMethod.listNames
    | some (.dict _) => methodOf CellMethod.dictNames
    | some (.set _) => methodOf CellMethod.setNames
    | some (.function f) => if name = "__name__" then return .text f.name else missing
    | some (.error kind arguments) =>
      if name = "args" then return .tuple arguments
      else if name = "code" && isKindOf kind "SystemExit" then
        return match arguments with
          | [] => .none
          | [i] => i
          | items => .tuple items
      else missing
    | _ => missing
  | _ => missing

/-- The whole number that an item is. -/
def integer (i : Item) : Run Int := do
  match i.int? with
  | some n => return n
  | none => raise "TypeError" ("'" ++ (← typeName i) ++ "' object cannot be interpreted as an integer")

/-- The double that an item is. -/
def real (i : Item) : Run Float := do
  match i.amount? with
  | some a => return a.toFloat
  | none => raise "TypeError" ("must be real number, not " ++ (← typeName i))

/-- The whole number next to a finite double towards zero. -/
def truncated (x : Float) : Int :=
  let b := Binary.ofFloat x
  let n := b.mantissa * Nat.pow 2 b.exponent.toNat / Nat.pow 2 (-b.exponent).toNat
  if x < 0 then -(n : Int) else n

/-- How many items an item holds. -/
def length (i : Item) : Run Nat := do
  match i with
  | .text s => return s.length
  | .range start stop step => return Item.rangeLength start stop step
  | .cell a =>
    match (← get).cells[a]? with
    | some (.cursor _) => raise "TypeError" "object of type 'generator' has no len()"
    | _ => size
  | _ => size
where
  /-- The number of items that are found one by one. -/
  size : Run Nat := do
    match ← items? i with
    | some items => return items.length
    | none => raise "TypeError" ("object of type '" ++ (← typeName i) ++ "' has no len()")

end Run

namespace Native

/-- The types of the language. -/
def kinds : List String := [
  "int", "float", "str", "bool", "list", "dict", "tuple", "set", "frozenset", "object", "type"]

/-- The functions of the language. -/
def functions : List String := [
  "abs", "all", "any", "bin", "callable", "chr", "divmod", "enumerate", "filter", "format", "getattr",
  "hasattr", "hex", "id", "input", "isinstance", "iter", "len", "map", "max", "min", "next", "oct", "ord",
  "pow", "print", "range", "repr", "reversed", "round", "sorted", "sum", "zip"]

/-- Whether an item is of a type. -/
def isOf (m : Machine) (item : Item) : Item → Bool
  | .kind "object" => true
  | .kind kind =>
    match item with
    | .bool _ => kind = "bool" || kind = "int"
    | .cell a =>
      match m.cells[a]? with
      | some (.error k _) => isKindOf k kind
      | _ => m.typeName item = kind
    | item => m.typeName item = kind
  | _ => false

/-- A whole number read from a text. -/
def readInt (s : String) (base : Int) : Run Item := do
  let (negative, digits) := Decimal.splitSign (Text.trim s).toList
  let base := if base = 0 then 10 else base.toNat
  let digits := match base, digits with
    | 16, '0' :: 'x' :: rest | 8, '0' :: 'o' :: rest | 2, '0' :: 'b' :: rest => rest
    | _, digits => digits
  let fine := !digits.isEmpty && digits.all (isBaseDigit base) && digits.head? ≠ some '_'
    && digits.getLast? ≠ some '_'
  if !fine then
    raise "ValueError" ("invalid literal for int() with base " ++ toString base ++ ": " ++ quoted s)
  let n : Int := natInBase base (digits.filter (· ≠ '_'))
  return .int (if negative then -n else n)

/-- A double read from a text. -/
def readReal (s : String) : Run Item := do
  let (negative, body) := Decimal.splitSign (Text.trim s).toList
  let signed (x : Float) : Item := .real (if negative then -x else x)
  match Text.lowerAscii (String.ofList body) with
  | "nan" => return signed (0.0 / 0.0)
  | "inf" | "infinity" => return signed (1.0 / 0.0)
  | _ =>
    match Decimal.read? (body.filter (· ≠ '_')) with
    | some x => return signed x
    | none => raise "ValueError" ("could not convert string to float: " ++ quoted s)

/-- What a type makes of its arguments. -/
def construct (kind : String) (args : Arguments) : Run Item := do
  let first := args.positional[0]?
  match kind, first with
  | "object", _ => alloc (.cursor [])
  | "type", some i => return .kind ((← get).typeName i)
  | "bool", none => return .bool false
  | "bool", some i => return .bool (← truth i)
  | "str", none => return .text ""
  | "str", some i => return .text ((← get).str i)
  | "int", none => return .int 0
  | "int", some (.text s) => readInt s (((args.get? 1 "base").bind Item.int?).getD 10)
  | "int", some (.real x) =>
    if x.isNaN then raise "ValueError" "cannot convert float NaN to integer"
    if x.isInf then raise "OverflowError" "cannot convert float infinity to integer"
    return .int (truncated x)
  | "int", some i =>
    match i.int? with
    | some n => return .int n
    | none => raise "TypeError" ("int() argument must be a string, a bytes-like object or a real number, not '"
        ++ (← typeName i) ++ "'")
  | "float", none => return .real 0
  | "float", some (.text s) => readReal s
  | "float", some i =>
    match i.amount? with
    | some a => return .real a.toFloat
    | none => raise "TypeError" ("float() argument must be a string or a real number, not '"
        ++ (← typeName i) ++ "'")
  | "list", none => newList []
  | "list", some i => newList (← items i)
  | "tuple", none => return .tuple []
  | "tuple", some i => return .tuple (← items i)
  | "set", none | "frozenset", none => alloc (.set [])
  | "set", some i | "frozenset", some i =>
    let all ← items i
    all.forM checkKey
    alloc (.set ((← get).distinct all))
  | "dict", first =>
    let given ← match first with
      | some source => updated [] source
      | none => pure []
    let m ← get
    newDict (args.named.foldl (fun es (k, v) => m.insert es (.text k) v) given)
  | kind, _ => alloc (.error kind args.positional)

/-- The text that items are printed as. -/
def printed (args : Arguments) : Run String := do
  let m ← get
  let textOr (name default : String) : String := match args.named.lookup name with
    | some (.text s) => s
    | _ => default
  return String.intercalate (textOr "sep" " ") (args.positional.map m.str) ++ textOr "end" "\n"

/-- The first of the items that no other one comes before, by their keys; with `last`, the first that
comes before no other one. -/
def extreme (call : Callback) (function : String) (args : Arguments) (last : Bool) : Run Item := do
  let candidates ← match args.positional with
    | [one] => items one
    | many => pure many
  let key (i : Item) : Run Item := do
    match args.named.lookup "key" with
    | none | some .none => return i
    | some f => call f [i]
  match candidates with
  | [] =>
    match args.named.lookup "default" with
    | some i => return i
    | none => raise "ValueError" (function ++ "() arg is an empty sequence")
  | first :: rest =>
    let op : Comparison := if last then .gt else .lt
    let (best, _) ← rest.foldlM (fun (best, bestKey) i => do
      let k ← key i
      if ← Operator.compare op k bestKey then return (i, k) else return (best, bestKey))
      (first, ← key first)
    return best

/-- A number rounded to a number of places, a half going to the even neighbour. -/
def rounded (args : Arguments) : Run Item := do
  let number ← args.required "round" 0
  let places := match args.get? 1 "ndigits" with
    | some .none | none => none
    | some i => i.int?
  match number.amount?, places with
  | some (.int n), none => return .int n
  | some (.int n), some p =>
    if 0 ≤ p then return .int n
    let unit : Nat := Nat.pow 10 (-p).toNat
    let q : Int := Decimal.roundDiv n.natAbs unit * unit
    return .int (if n < 0 then -q else q)
  | some (.real x), none =>
    if x.isNaN then raise "ValueError" "cannot convert float NaN to integer"
    if x.isInf then raise "OverflowError" "cannot convert float infinity to integer"
    let n : Int := FormatSpec.digitsIn x 0
    return .int (if x < 0 then -n else n)
  | some (.real x), some p =>
    if !x.isFinite then return .real x
    let y := Decimal.nearest (FormatSpec.digitsIn x (-p)) (-p)
    return .real (if negativeSign x then -y else y)
  | none, _ => raise "TypeError" ("type " ++ (← typeName number) ++ " doesn't define __round__ method")

/-- Functions of exactly one argument. -/
def ofOne : List String := [
  "abs", "all", "any", "bin", "callable", "chr", "hex", "id", "len", "oct", "ord", "repr"]

/-- A function by its name. -/
def call (invoke : Callback) (name : String) (args : Arguments) : Run Item := do
  let first : Run Item := do
    if args.positional.isEmpty && ofOne.contains name then
      raise "TypeError" (name ++ "() takes exactly one argument (0 given)")
    args.required name 0
  let cursor (items : List Item) : Run Item := alloc (.cursor items)
  match name with
  | "print" =>
    let text ← printed args
    match args.named.lookup "file" with
    | some (.stream isError) => write isError text
    | _ => write false text
    if ← truth ((args.named.lookup "flush").getD .none) then flush
    return .none
  | "len" => return .int (← length (← first))
  | "repr" => return .text ((← get).repr (← first))
  | "abs" =>
    match (← first).amount? with
    | some (.int n) => return .int n.natAbs
    | some (.real x) => return .real x.abs
    | none => raise "TypeError" ("bad operand type for abs(): '" ++ (← typeName (← first)) ++ "'")
  | "all" => return .bool ((← items (← first)).all (← get).truth)
  | "any" => return .bool ((← items (← first)).any (← get).truth)
  | "bin" => return .text ({ (← intSpec 'b') with alternate := true }.int (← integer (← first)))
  | "hex" => return .text ({ (← intSpec 'x') with alternate := true }.int (← integer (← first)))
  | "oct" => return .text ({ (← intSpec 'o') with alternate := true }.int (← integer (← first)))
  | "callable" =>
    let m ← get
    return .bool (match ← first with
      | .native _ | .kind _ | .method .. => true
      | .cell a => match m.cells[a]? with
        | some (.function _) => true
        | _ => false
      | _ => false)
  | "chr" =>
    match charOfNat? (← integer (← first)).toNat with
    | some c => return .text c.toString
    | none => raise "ValueError" "chr() arg not in range(0x110000)"
  | "ord" =>
    match ← first with
    | .text s =>
      match s.toList with
      | [c] => return .int c.toNat
      | cs => raise "TypeError" ("ord() expected a character, but string of length "
          ++ toString cs.length ++ " found")
    | i => raise "TypeError" ("ord() expected string of length 1, but " ++ (← typeName i) ++ " found")
  | "divmod" =>
    let a ← first
    let b ← args.required name 1
    return .tuple [← Operator.binary .floorDivide a b, ← Operator.binary .modulo a b]
  | "pow" =>
    let z ← Operator.binary .power (← first) (← args.required name 1)
    match args.positional[2]? with
    | some k => Operator.binary .modulo z k
    | none => return z
  | "enumerate" =>
    let start ← integer (args.getD 1 "start" (.int 0))
    cursor ((← items (← first)).zipIdx.map fun (i, k) => .tuple [.int (start + k), i])
  | "filter" =>
    let all ← items (← args.required name 1)
    let kept ← all.filterM fun i => do
      match ← first with
      | .none => truth i
      | f => truth (← invoke f [i])
    cursor kept
  | "map" =>
    let f ← first
    let rows ← (args.positional.drop 1).mapM items
    cursor (← (zipped rows).mapM fun row => invoke f row)
  | "zip" => cursor ((zipped (← args.positional.mapM items)).map .tuple)
  | "format" =>
    let format := match args.getD 1 "format_spec" (.text "") with
      | .text s => s
      | _ => ""
    return .text (← formatted (← first) format)
  | "id" => return .int 140000000000000
  | "input" =>
    if let some i := args.positional[0]? then write false ((← get).str i)
    raise "EOFError" "EOF when reading a line"
  | "isinstance" =>
    let item ← first
    let m ← get
    match ← args.required name 1 with
    | .tuple kinds => return .bool (kinds.any (isOf m item))
    | kind => return .bool (isOf m item kind)
  | "iter" =>
    match ← first with
    | .cell a =>
      match ← cell a with
      | .cursor _ => return .cell a
      | _ => cursor (← items (.cell a))
    | i => cursor (← items i)
  | "next" =>
    match ← first with
    | .cell a =>
      match ← cell a, args.positional[1]? with
      | .cursor (i :: rest), _ => setCell a (.cursor rest); return i
      | .cursor [], some default => return default
      | .cursor [], none => raiseWith "StopIteration" []
      | _, _ => raise "TypeError" ("'" ++ (← typeName (.cell a)) ++ "' object is not an iterator")
    | i => raise "TypeError" ("'" ++ (← typeName i) ++ "' object is not an iterator")
  | "max" => extreme invoke name args true
  | "min" => extreme invoke name args false
  | "range" =>
    match ← args.positional.mapM integer with
    | [stop] => return .range 0 stop 1
    | [start, stop] => return .range start stop 1
    | [start, stop, step] =>
      if step = 0 then raise "ValueError" "range() arg 3 must not be zero"
      return .range start stop step
    | _ => raise "TypeError" "range expected at least 1 argument, got 0"
  | "reversed" => cursor (← items (← first)).reverse
  | "round" => rounded args
  | "sorted" => newList (← sorted invoke args (← items (← first)))
  | "sum" =>
    (← items (← first)).foldlM (Operator.binary .add) (args.getD 1 "start" (.int 0))
  | "dict.fromkeys" =>
    let m ← get
    let value := args.positional[1]?.getD .none
    newDict ((m.distinct (← items (← first))).map fun k => (k, value))
  | name =>
    match name.splitOn "." with
    | ["str", method] =>
      match args.positional with
      | .text s :: rest => TextMethod.call s method { args with positional := rest }
      | _ => raise "TypeError" ("unbound method str." ++ method ++ "() needs an argument")
    | _ => raise "NameError" ("name '" ++ name ++ "' is not defined")
where
  /-- A plain format of whole numbers. -/
  intSpec (form : Char) : Run FormatSpec :=
    return ⟨' ', none, none, false, false, 0, none, none, some form⟩
  /-- The rows of columns, as many as the shortest column has. -/
  zipped : List (List Item) → List (List Item)
    | [] => []
    | [column] => column.map fun i => [i]
    | column :: others => (column.zip (zipped others)).map fun (i, row) => i :: row

/-- A function of a receiver. -/
def method (invoke : Callback) (receiver : Item) (name : String) (args : Arguments) : Run Item := do
  match receiver, name with
  | .text s, "format" =>
    return .text (String.join (← fillBraces args (pieces true (s.length + 1) [] s.toList) 0))
  | .text s, name => TextMethod.call s name args
  | .tuple xs, "index" => return .int (← indexOf xs (← args.required name 0))
  | .tuple xs, "count" =>
    let item ← args.required name 0
    return .int (xs.countP ((← get).same item))
  | .int n, "bit_length" => return .int (if n = 0 then 0 else Nat.log2 n.natAbs + 1)
  | .bool b, "bit_length" => return .int (if b then 1 else 0)
  | .real x, "is_integer" => return .bool (x.isFinite && x.floor == x)
  | .stream isError, "write" =>
    let text ← args.text name 0
    write isError text
    return .int text.length
  | .stream isError, "writelines" =>
    for i in ← items (← args.required name 0) do write isError ((← get).str i)
    return .none
  | .stream isError, "flush" =>
    unless isError do flush
    return .none
  | .input, "readlines" => newList []
  | .input, _ => return .text ""
  | .cell a, name =>
    match ← cell a with
    | .list xs => CellMethod.onList invoke a xs name args
    | .dict xs => CellMethod.onDict a xs name args
    | .set xs => CellMethod.onSet a xs name args
    | _ => member receiver name
  | receiver, name => member receiver name

end Native

end Interpreter

end Workflows

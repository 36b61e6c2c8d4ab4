import Workflows.Interpreter.TextMethod

/-!
# Functions of lists, dictionaries and sets

* `Callback`: how functions that were handed over are called;
* `Run.sorted`: items in ascending order of their keys, equal ones in the order in which they came;
* `CellMethod.onList`, `.onDict`, `.onSet`: a function by its name.
-/

namespace Workflows

namespace Interpreter

open Run

/-- How functions that were handed over are called. -/
abbrev Callback := Item → List Item → Run Item

namespace Run

/-- Refuses items of which two neighbours have no order. -/
def checkOrder : List Item → Run Unit
  | a :: b :: rest => do
    let _ ← Operator.ordered .lt ((← get).less? b a) b a
    checkOrder (b :: rest)
  | _ => return ()

/-- Items in ascending order of their keys, or in descending order; equal ones keep their order. -/
def sorted (call : Callback) (a : Arguments) (items : List Item) : Run (List Item) := do
  let keys ← match a.named.lookup "key" with
    | none | some .none => pure items
    | some f => items.mapM fun i => call f [i]
  let reverse ← truth ((a.named.lookup "reverse").getD (.bool false))
  checkOrder keys
  let m ← get
  let pairs := keys.zip items
  let le (x y : Item × Item) : Bool := !(m.less? y.1 x.1).getD false
  let result := if reverse then (pairs.reverse.mergeSort le).reverse else pairs.mergeSort le
  return result.map (·.2)

/-- Entries with those of a dictionary, or with pairs, put in. -/
def updated (entries : List (Item × Item)) (source : Item) : Run (List (Item × Item)) := do
  let m ← get
  let pairs ← match source with
    | .cell b =>
      match m.cells[b]? with
      | some (.dict others) => pure others
      | _ => (← items source).mapM fun i => do
          match ← items i with
          | [k, v] => return (k, v)
          | _ => raise "ValueError" "dictionary update sequence element #0 has length 1; 2 is required"
    | _ => raise "TypeError" ("'" ++ m.typeName source ++ "' object is not iterable")
  pairs.forM fun (k, _) => checkKey k
  return pairs.foldl (fun es (k, v) => m.insert es k v) entries

/-- The index of an item. -/
def indexOf (items : List Item) (i : Item) : Run Nat := do
  let m ← get
  match items.findIdx? fun x => m.same x i with
  | some k => return k
  | none => raise "ValueError" (m.repr i ++ " is not in list")

end Run

namespace CellMethod

/-- The functions of lists. -/
def listNames : List String := [
  "append", "extend", "insert", "pop", "remove", "clear", "index", "count", "sort", "reverse", "copy"]

/-- The functions of dictionaries. -/
def dictNames : List String := [
  "get", "keys", "values", "items", "pop", "popitem", "setdefault", "update", "clear", "copy"]

/-- The functions of sets. -/
def setNames : List String := [
  "add", "discard", "remove", "update", "union", "intersection", "difference", "symmetric_difference",
  "issubset", "issuperset", "isdisjoint", "clear", "copy", "pop"]

/-- A function of the list at an address. -/
def onList (call : Callback) (a : Address) (xs : List Item) (name : String) (args : Arguments) :
    Run Item := do
  let m ← get
  match name with
  | "append" => setCell a (.list (xs ++ [← args.required "list.append" 0])); return .none
  | "extend" => setCell a (.list (xs ++ (← items (← args.required "list.extend" 0)))); return .none
  | "insert" =>
    let k ← args.int "insert" 0
    let item ← args.required "insert" 1
    let k := if k < 0 then (k + xs.length).toNat else min k.toNat xs.length
    setCell a (.list (xs.take k ++ item :: xs.drop k))
    return .none
  | "pop" =>
    if xs.isEmpty then raise "IndexError" "pop from empty list"
    match position? xs.length (((args.positional[0]?).bind Item.int?).getD (-1)) with
    | some k =>
      setCell a (.list (xs.eraseIdx k))
      return xs[k]?.getD .none
    | none => raise "IndexError" "pop index out of range"
  | "remove" =>
    let item ← args.required "list.remove" 0
    match xs.findIdx? fun x => m.same x item with
    | some k => setCell a (.list (xs.eraseIdx k)); return .none
    | none => raise "ValueError" "list.remove(x): x not in list"
  | "clear" => setCell a (.list []); return .none
  | "index" => return .int (← indexOf xs (← args.required "index" 0))
  | "count" =>
    let item ← args.required "count" 0
    return .int (xs.countP fun x => m.same x item)
  | "sort" => setCell a (.list (← sorted call args xs)); return .none
  | "reverse" => setCell a (.list xs.reverse); return .none
  | "copy" => newList xs
  | name => raise "AttributeError" ("'list' object has no attribute '" ++ name ++ "'")

/-- A function of the dictionary at an address. -/
def onDict (a : Address) (xs : List (Item × Item)) (name : String) (args : Arguments) : Run Item := do
  let m ← get
  match name with
  | "get" =>
    let key ← args.required "get" 0
    checkKey key
    return (m.find? xs key).getD (args.positional[1]?.getD .none)
  | "keys" => return .view .keys a
  | "values" => return .view .values a
  | "items" => return .view .entries a
  | "pop" =>
    let key ← args.required "pop" 0
    match m.find? xs key, args.positional[1]? with
    | some v, _ => setCell a (.dict (xs.filter fun e => !m.same e.1 key)); return v
    | none, some default => return default
    | none, none => raiseWith "KeyError" [key]
  | "popitem" =>
    match xs.getLast? with
    | some (k, v) => setCell a (.dict xs.dropLast); return .tuple [k, v]
    | none => raise "KeyError" "popitem(): dictionary is empty"
  | "setdefault" =>
    let key ← args.required "setdefault" 0
    let default := args.positional[1]?.getD .none
    match m.find? xs key with
    | some v => return v
    | none => setCell a (.dict (m.insert xs key default)); return default
  | "update" =>
    let given ← match args.positional[0]? with
      | some source => updated xs source
      | none => pure xs
    setCell a (.dict (args.named.foldl (fun es (k, v) => m.insert es (.text k) v) given))
    return .none
  | "clear" => setCell a (.dict []); return .none
  | "copy" => newDict xs
  | name => raise "AttributeError" ("'dict' object has no attribute '" ++ name ++ "'")

/-- A function of the set at an address. -/
def onSet (a : Address) (xs : List Item) (name : String) (args : Arguments) : Run Item := do
  let m ← get
  let other : Run (List Item) := do
    return (← args.positional.mapM items).flatten
  let isIn (ys : List Item) (x : Item) : Bool := ys.any (m.same x)
  match name with
  | "add" =>
    let item ← args.required "set.add" 0
    checkKey item
    setCell a (.set (m.distinct (xs ++ [item])))
    return .none
  | "discard" =>
    let item ← args.required "set.discard" 0
    setCell a (.set (xs.filter fun x => !m.same x item))
    return .none
  | "remove" =>
    let item ← args.required "set.remove" 0
    if !isIn xs item then raiseWith "KeyError" [item]
    setCell a (.set (xs.filter fun x => !m.same x item))
    return .none
  | "pop" =>
    match Machine.setOrder xs with
    | [] => raise "KeyError" "pop from an empty set"
    | x :: rest => setCell a (.set rest); return x
  | "update" => setCell a (.set (m.distinct (xs ++ (← other)))); return .none
  | "union" => alloc (.set (m.distinct (xs ++ (← other))))
  | "intersection" => let ys ← other; alloc (.set (xs.filter (isIn ys)))
  | "difference" => let ys ← other; alloc (.set (xs.filter fun x => !isIn ys x))
  | "symmetric_difference" =>
    let ys := m.distinct (← other)
    alloc (.set (xs.filter (fun x => !isIn ys x) ++ ys.filter fun y => !isIn xs y))
  | "issubset" => let ys ← other; return .bool (xs.all (isIn ys))
  | "issuperset" => return .bool ((← other).all (isIn xs))
  | "isdisjoint" => let ys ← other; return .bool (!xs.any (isIn ys))
  | "clear" => setCell a (.set []); return .none
  | "copy" => alloc (.set xs)
  | name => raise "AttributeError" ("'set' object has no attribute '" ++ name ++ "'")

end CellMethod

end Interpreter

end Workflows

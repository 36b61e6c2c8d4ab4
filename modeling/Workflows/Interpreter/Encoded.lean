import Workflows.Interpreter.Operator
import Workflows.Data.Value

/-!
# Items as data

* `Encoding`: how data is written; `Run.encode`: an item as JSON in ASCII;
* `Run.ofValue`: the item of data.
-/

namespace Workflows

namespace Interpreter

open Run

/-- How data is written. -/
structure Encoding where
  /-- What stands for an item that is no data. -/
  default : Option (Item → Run Item)
  itemMark : String
  keyMark : String
  /-- The blanks of a level, if items stand on lines of their own. -/
  indent : Option String
  sortKeys : Bool
  ascii : Bool

/-- The plain encoding: one line, keys in their order, ASCII, and no stand-in. -/
def Encoding.plain : Encoding := ⟨none, ", ", ": ", none, false, true⟩

/-- A character inside quotes. -/
def encodedChar (ascii : Bool) (c : Char) : List Char :=
  let unit (n : Nat) : List Char := '\\' :: 'u' :: Json.hex 4 n
  if c.toNat < 0x7f || !ascii then Json.escapeChar c
  else if c.toNat < 0x10000 then unit c.toNat
  else
    let n := c.toNat - 0x10000
    unit (0xd800 + n / 0x400) ++ unit (0xdc00 + n % 0x400)

/-- A text in quotes. -/
def encodedText (ascii : Bool) (s : String) : String :=
  String.ofList ('"' :: s.toList.flatMap (encodedChar ascii) ++ ['"'])

/-- A double as data. -/
def encodedReal (x : Float) : String :=
  if x.isNaN then "NaN" else if x.isFinite then realText x else if x < 0 then "-Infinity" else "Infinity"

namespace Run

/-- The text of a dictionary's key. -/
def encodedKey (key : Item) : Run String := do
  match key with
  | .text s => return s
  | .none => return "null"
  | .bool b => return if b then "true" else "false"
  | .int n => return toString n
  | .real x => return encodedReal x
  | key => raise "TypeError" ("keys must be str, int, float, bool or None, not " ++ (← typeName key))

/-- Texts between an opening and a closing mark, at a depth of nesting. -/
def encodedBlock (e : Encoding) (depth : Nat) (opening closing : String) (texts : List String) : String :=
  match e.indent, texts with
  | _, [] => opening ++ closing
  | none, texts => opening ++ String.intercalate e.itemMark texts ++ closing
  | some unit, texts =>
    let line (n : Nat) : String := "\n" ++ String.join (List.replicate n unit)
    opening ++ line (depth + 1) ++ String.intercalate (e.itemMark ++ line (depth + 1)) texts
      ++ line depth ++ closing

/-- An item as JSON, nested no deeper than a number of levels. -/
def encodeWithin (e : Encoding) : Nat → Nat → Item → Run String
  | 0, _, _ => raise "ValueError" "Circular reference detected"
  | n + 1, depth, item => do
    let m ← get
    let standIn : Run String := do
      match e.default with
      | some f => encodeWithin e n depth (← f item)
      | none =>
        raise "TypeError" ("Object of type " ++ m.typeName item ++ " is not JSON serializable")
    let list (items : List Item) : Run String := do
      return encodedBlock e depth "[" "]" (← items.mapM (encodeWithin e n (depth + 1)))
    match item with
    | .none => return "null"
    | .bool b => return if b then "true" else "false"
    | .int k => return toString k
    | .real x => return encodedReal x
    | .text s => return encodedText e.ascii s
    | .tuple items => list items
    | .cell a =>
      match m.cells[a]? with
      | some (.list items) => list items
      | some (.dict entries) =>
        let entries := if e.sortKeys then
            entries.mergeSort fun x y => !(m.less? y.1 x.1).getD false
          else entries
        let texts ← entries.mapM fun (k, v) => do
          let key ← encodedKey k
          return encodedText e.ascii key ++ e.keyMark ++ (← encodeWithin e n (depth + 1) v)
        return encodedBlock e depth "\x7b" "\x7d" texts
      | _ => standIn
    | _ => standIn

/-- How deeply nested items are written. -/
def encodeDepth : Nat := 500

/-- An item as JSON. -/
def encode (e : Encoding) (item : Item) : Run String := encodeWithin e encodeDepth 0 item

mutual

/-- The item of data. -/
def ofValue : Value → Run Item
  | .null => return .none
  | .bool b => return .bool b
  | .number (.int n) => return .int n
  | .number (.real x) => return .real x.toFloat
  | .text s => return .text s
  | .list vs => do newList (← ofValues vs)
  | .object members => do newDict (← ofMembers members)

/-- The items of a list of data. -/
def ofValues : List Value → Run (List Item)
  | [] => return []
  | v :: rest => do return (← ofValue v) :: (← ofValues rest)

/-- The entries of members. -/
def ofMembers : List (String × Value) → Run (List (Item × Item))
  | [] => return []
  | (k, v) :: rest => do return (.text k, ← ofValue v) :: (← ofMembers rest)

end

end Run

end Interpreter

end Workflows

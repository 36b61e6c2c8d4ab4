import Workflows.Interpreter.Machine
import Workflows.Decimal.Written
import Workflows.Json.Printer

/-!
# Items as texts

* `Interpreter.realText`, `Interpreter.quoted`: doubles and texts as terms;
* `Machine.shown`: an item as a term, or a text as itself;
* `Machine.str`, `Machine.repr`: the two forms that scripts ask for.
-/

namespace Workflows

namespace Interpreter

/-- The layout of doubles in scripts: `0.0001`, `1e-05`, `1000000000000000.0`, `1e+16`. -/
def layout : Decimal.Layout := ⟨-4, 15, 2⟩

/-- A double in shortest form. -/
def realText (x : Float) : String :=
  if x.isNaN then "nan"
  else if x.isFinite then Decimal.realText layout x
  else if x < 0 then "-inf" else "inf"

/-- A character inside quotes. -/
def quotedChar (quote : Char) (c : Char) : List Char :=
  if c = quote || c = '\\' then ['\\', c]
  else if c = '\n' then ['\\', 'n']
  else if c = '\r' then ['\\', 'r']
  else if c = '\t' then ['\\', 't']
  else if c.toNat < 0x20 || (0x7f ≤ c.toNat && c.toNat ≤ 0xa0) || c.toNat = 0xad then
    '\\' :: 'x' :: Json.hex 2 c.toNat
  else [c]

/-- A text as a term: in single quotes, unless it holds some and no double ones. -/
def quoted (s : String) : String :=
  let cs := s.toList
  let quote := if cs.contains '\x27' && !cs.contains '"' then '"' else '\x27'
  String.ofList (quote :: cs.flatMap (quotedChar quote) ++ [quote])

/-- Texts between an opening and a closing mark. -/
def enclosed (opening closing : String) (texts : List String) : String :=
  opening ++ String.intercalate ", " texts ++ closing

namespace Machine

variable (m : Machine)

/-- The items of a set in the order in which they are shown: whole numbers ascend, others keep the order
in which they were added. -/
def setOrder (items : List Item) : List Item :=
  let amount : Item → Int
    | .int n => n
    | _ => 0
  let isInt : Item → Bool
    | .int _ => true
    | _ => false
  if items.all isInt then items.mergeSort fun a b => amount a ≤ amount b else items

/-- The entries of a dictionary. -/
def entries (a : Address) : List (Item × Item) :=
  match m.cells[a]? with
  | some (.dict entries) => entries
  | _ => []

/-- An item as a term, or as its text; items nested deeper than a number of levels are left out. -/
def shown : Nat → Bool → Item → String
  | 0, _, _ => "..."
  | n + 1, asTerm, item =>
    let each (items : List Item) : List String := items.map (shown n true)
    let pairs (entries : List (Item × Item)) : List String :=
      entries.map fun (k, v) => shown n true k ++ ": " ++ shown n true v
    match item with
    | .none => "None"
    | .bool b => if b then "True" else "False"
    | .int n => toString n
    | .real x => realText x
    | .text s => if asTerm then quoted s else s
    | .tuple [i] => "(" ++ shown n true i ++ ",)"
    | .tuple items => enclosed "(" ")" (each items)
    | .range start stop 1 => enclosed "range(" ")" [toString start, toString stop]
    | .range start stop step => enclosed "range(" ")" [toString start, toString stop, toString step]
    | .view .keys a => "dict_keys(" ++ enclosed "[" "]" (each ((m.entries a).map (·.1))) ++ ")"
    | .view .values a => "dict_values(" ++ enclosed "[" "]" (each ((m.entries a).map (·.2))) ++ ")"
    | .view .entries a =>
      "dict_items(" ++ enclosed "[" "]" ((m.entries a).map fun (k, v) =>
        enclosed "(" ")" [shown n true k, shown n true v]) ++ ")"
    | .native name => "<built-in function " ++ name ++ ">"
    | .kind name => "<class '" ++ name ++ "'>"
    | .method receiver name =>
      "<built-in method " ++ name ++ " of " ++ m.typeName receiver ++ " object>"
    | .library name => "<module '" ++ name ++ "'>"
    | .stream isError => "<_io.TextIOWrapper name='<" ++ (if isError then "stderr" else "stdout")
        ++ ">' mode='w' encoding='utf-8'>"
    | .input => "<_io.TextIOWrapper name='<stdin>' mode='r' encoding='utf-8'>"
    | .cell a =>
      match m.cells[a]? with
      | some (.list items) => enclosed "[" "]" (each items)
      | some (.dict entries) => enclosed "\x7b" "\x7d" (pairs entries)
      | some (.set []) => "set()"
      | some (.set items) => enclosed "\x7b" "\x7d" (each (setOrder items))
      | some (.cursor _) => "<generator object>"
      | some (.function f) => "<function " ++ f.name ++ ">"
      | some (.error kind arguments) =>
        if asTerm then enclosed (shortKind kind ++ "(") ")" (each arguments)
        else
          match arguments with
          | [] => ""
          | [i] => shown n (kind = "KeyError") i
          | items => enclosed "(" ")" (each items)
      | none => "<object>"

/-- How deeply nested items are shown. -/
def shownDepth : Nat := 200

/-- The text of an item. -/
def str (i : Item) : String := m.shown shownDepth false i

/-- An item as a term. -/
def repr (i : Item) : String := m.shown shownDepth true i

end Machine

end Interpreter

end Workflows

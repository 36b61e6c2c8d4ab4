import Workflows.Data.Value
import Workflows.Decimal.Written

/-!
# Written JSON

* `Json.quote`: a text in quotes; a quote, a backslash and the characters below U+0020 are escaped,
  all others stand for themselves;
* `Json.compact`: a value without any space;
* `Json.pretty`: a value with one item or member a line, indented by two spaces a level.
-/

namespace Workflows

namespace Json

/-- The hexadecimal digits of `n`, lower case, at least `width` of them. -/
def hex (width n : Nat) : List Char := Decimal.padZeros width (Nat.toDigits 16 n)

/-- A character inside quotes. -/
def escapeChar (c : Char) : List Char :=
  match c with
  | '"' => ['\\', '"']
  | '\\' => ['\\', '\\']
  | '\n' => ['\\', 'n']
  | '\r' => ['\\', 'r']
  | '\t' => ['\\', 't']
  | '\x08' => ['\\', 'b']
  | '\x0c' => ['\\', 'f']
  | c => if c.toNat < 0x20 then '\\' :: 'u' :: hex 4 c.toNat else [c]

/-- A text in quotes. -/
def quote (s : String) : List Char := '"' :: s.toList.flatMap escapeChar ++ ['"']

/-- A number. -/
def number : Number → List Char
  | .int n => (toString n).toList
  | .real x => (Decimal.realText .data x.toFloat).toList

mutual

/-- The characters of a value without any space. -/
def compactChars : Value → List Char
  | .null => "null".toList
  | .bool b => (if b then "true" else "false").toList
  | .number n => number n
  | .text s => quote s
  | .list [] => ['[', ']']
  | .list (v :: rest) => '[' :: compactChars v ++ compactItems rest
  | .object [] => ['\x7b', '\x7d']
  | .object ((k, v) :: rest) => '\x7b' :: quote k ++ ':' :: compactChars v ++ compactMembers rest

/-- The further items of a list and its closing bracket. -/
def compactItems : List Value → List Char
  | [] => [']']
  | v :: rest => ',' :: compactChars v ++ compactItems rest

/-- The further members of an object and its closing brace. -/
def compactMembers : List (String × Value) → List Char
  | [] => ['\x7d']
  | (k, v) :: rest => ',' :: quote k ++ ':' :: compactChars v ++ compactMembers rest

end

/-- A value without any space. -/
def compact (v : Value) : String := String.ofList (compactChars v)

/-- A new line indented by `depth` levels. -/
def newLine (depth : Nat) : List Char := '\n' :: List.replicate (2 * depth) ' '

mutual

/-- The characters of a value at nesting `depth`, one item or member a line. -/
def prettyChars (depth : Nat) : Value → List Char
  | .list (v :: rest) =>
    '[' :: newLine (depth + 1) ++ prettyChars (depth + 1) v ++ prettyItems depth rest
  | .object ((k, v) :: rest) =>
    '\x7b' :: newLine (depth + 1) ++ quote k ++ ':' :: ' ' :: prettyChars (depth + 1) v
      ++ prettyMembers depth rest
  | v => compactChars v

/-- The further items of a list and its closing bracket. -/
def prettyItems (depth : Nat) : List Value → List Char
  | [] => newLine depth ++ [']']
  | v :: rest => ',' :: newLine (depth + 1) ++ prettyChars (depth + 1) v ++ prettyItems depth rest

/-- The further members of an object and its closing brace. -/
def prettyMembers (depth : Nat) : List (String × Value) → List Char
  | [] => newLine depth ++ ['\x7d']
  | (k, v) :: rest =>
    ',' :: newLine (depth + 1) ++ quote k ++ ':' :: ' ' :: prettyChars (depth + 1) v
      ++ prettyMembers depth rest

end

/-- A value with one item or member a line. -/
def pretty (v : Value) : String := String.ofList (prettyChars 0 v)

end Json

end Workflows

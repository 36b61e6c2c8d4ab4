import Workflows.Data.Value
import Workflows.Decimal.Written
import Workflows.Yaml.Source

/-!
# Writing YAML

`Yaml.print` writes a value between brackets, with every text in double quotes, so that no text is taken
for anything else. Characters that may not occur in a text, and line breaks, are escaped.

The command writes workflows with it. Stores take any printer: what they say of a workflow rests on what its
text is read as, not on the text.
-/

namespace Workflows

namespace Yaml

/-- Hexadecimal digits, at least `width` of them. -/
def hexDigits (width n : Nat) : List Char := Decimal.padZeros width (Nat.toDigits 16 n)

/-- A character by its code point. -/
def escapeCode (c : Char) : List Char :=
  let n := c.toNat
  if n < 0x100 then '\\' :: 'x' :: hexDigits 2 n
  else if n < 0x10000 then '\\' :: 'u' :: hexDigits 4 n
  else '\\' :: 'U' :: hexDigits 8 n

/-- A character between double quotes. -/
def escaped (c : Char) : List Char :=
  if c = '"' then ['\\', '"']
  else if c = '\\' then ['\\', '\\']
  else if c = '\n' then ['\\', 'n']
  else if isAllowed c && !isBreak c && c ≠ '\t' && c ≠ byteOrderMark then [c]
  else escapeCode c

/-- A text in double quotes. -/
def quote (s : String) : List Char := '"' :: s.toList.flatMap escaped ++ ['"']

/-- The greatest length of a key that is written without a mark. -/
def maxPlainKey : Nat := 128

/-- A key with the mark of its value; one that is long has a mark of its own. -/
def keyChars (k : String) : List Char :=
  let quoted := quote k
  if quoted.length ≤ maxPlainKey then quoted ++ [':', ' ']
  else '?' :: ' ' :: quoted ++ [' ', ':', ' ']

mutual

/-- The characters of a value. -/
def chars : Value → List Char
  | .null => "null".toList
  | .bool b => (if b then "true" else "false").toList
  | .number (.int n) => (toString n).toList
  | .number (.real x) => (Decimal.realText .data x.toFloat).toList
  | .text s => quote s
  | .list [] => ['[', ']']
  | .list (v :: rest) => '[' :: chars v ++ itemChars rest
  | .object [] => ['\x7b', '\x7d']
  | .object ((k, v) :: rest) => '\x7b' :: keyChars k ++ chars v ++ memberChars rest

/-- The further items of a list and its closing bracket. -/
def itemChars : List Value → List Char
  | [] => [']']
  | v :: rest => ',' :: ' ' :: chars v ++ itemChars rest

/-- The further members of an object and its closing brace. -/
def memberChars : List (String × Value) → List Char
  | [] => ['\x7d']
  | (k, v) :: rest => ',' :: ' ' :: keyChars k ++ chars v ++ memberChars rest

end

/-- A value as a document of its own. -/
def print (v : Value) : String := String.ofList (chars v ++ ['\n'])

end Yaml

end Workflows

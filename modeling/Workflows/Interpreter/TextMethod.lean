import Workflows.Interpreter.Operator
import Workflows.Text.Letter
import Workflows.Text.Case

/-!
# Functions of texts

* `Arguments`: what a function is called with;
* `TextMethod.split`, `.strip`, `.find`, …: the functions on characters;
* `TextMethod.call`: a function of a text by its name.
-/

namespace Workflows

namespace Interpreter

open Run

/-- What a function is called with. -/
structure Arguments where
  positional : List Item
  named : List (String × Item)

namespace Arguments

/-- The argument at a position, or under a name. -/
def get? (a : Arguments) (position : Nat) (name : String) : Option Item :=
  (a.positional[position]?).orElse fun _ => a.named.lookup name

/-- The argument at a position or under a name, or a default. -/
def getD (a : Arguments) (position : Nat) (name : String) (default : Item) : Item :=
  (a.get? position name).getD default

/-- A positional argument that must be given. -/
def required (a : Arguments) (function : String) (position : Nat) : Run Item := do
  match a.positional[position]? with
  | some i => return i
  | none => raise "TypeError" (function ++ "() takes at least " ++ toString (position + 1)
      ++ " argument" ++ (if position = 0 then "" else "s") ++ " (" ++ toString a.positional.length
      ++ " given)")

/-- A positional argument that must be a text. -/
def text (a : Arguments) (function : String) (position : Nat) : Run String := do
  match ← a.required function position with
  | .text s => return s
  | i => raise "TypeError" (function ++ "() argument must be str, not " ++ (← typeName i))

/-- A positional argument that must be a whole number. -/
def int (a : Arguments) (function : String) (position : Nat) : Run Int := do
  let i ← a.required function position
  match i.int? with
  | some n => return n
  | none => raise "TypeError" ("'" ++ (← typeName i) ++ "' object cannot be interpreted as an integer")

end Arguments

namespace TextMethod

/-- The words between blanks, at most `limit` of them cut off and the rest as one. -/
def words : Nat → List Char → List (List Char)
  | limit, cs =>
    let rec go : Nat → Nat → List Char → List (List Char)
      | 0, _, _ => []
      | n + 1, limit, cs =>
        match cs.dropWhile Text.isBlankChar with
        | [] => []
        | rest =>
          if limit = 0 then [Text.trimEnd rest]
          else rest.takeWhile (!Text.isBlankChar ·)
            :: go n (limit - 1) (rest.dropWhile (!Text.isBlankChar ·))
    go (cs.length + 1) limit cs

/-- The parts between a separator, at most `limit` of them cut off. The first argument bounds the number of
characters. -/
def parts (separator : List Char) : Nat → Nat → List Char → List Char → List (List Char)
  | n + 1, limit, part, c :: rest =>
    if limit ≠ 0 && separator.isPrefixOf (c :: rest) then
      part.reverse :: parts separator n (limit - 1) [] ((c :: rest).drop separator.length)
    else parts separator n limit (c :: part) rest
  | _, _, part, rest => [part.reverse ++ rest]

/-- The position of a text in another one. -/
def find? (needle : List Char) : Nat → List Char → Option Nat
  | k, [] => if needle.isEmpty then some k else none
  | k, c :: rest => if needle.isPrefixOf (c :: rest) then some k else find? needle (k + 1) rest

/-- The last position of a text in another one. -/
def findLast? (needle cs : List Char) : Option Nat :=
  (find? needle.reverse 0 cs.reverse).map fun k => cs.length - needle.length - k

/-- How often a text occurs in another one without overlapping. -/
def count (needle : String) (s : String) : Nat :=
  if needle.isEmpty then s.length + 1
  else (parts needle.toList (s.length + 1) s.length [] s.toList).length - 1

/-- A text with up to `limit` occurrences of another one replaced. -/
def replace (old new s : String) (limit : Nat) : String :=
  if old.isEmpty then
    let cs := s.toList
    String.ofList (new.toList ++ cs.flatMap fun c => c :: new.toList)
  else
    String.ofList ((parts old.toList (s.length + 1) limit [] s.toList).intersperse new.toList).flatten

/-- The lines of a text, without or with their ends. -/
def lines (keepEnds : Bool) : List Char → List Char → List (List Char)
  | [], [] => []
  | held, [] => [held.reverse]
  | held, '\r' :: '\n' :: rest =>
    (held.reverse ++ if keepEnds then ['\r', '\n'] else []) :: lines keepEnds [] rest
  | held, c :: rest =>
    if c = '\n' || c = '\r' then
      (held.reverse ++ if keepEnds then [c] else []) :: lines keepEnds [] rest
    else lines keepEnds (c :: held) rest

/-- Whether a character is a capital. -/
def isUpper (c : Char) : Bool := Text.lowerChar c ≠ c

/-- Whether a character is a small letter. -/
def isLower (c : Char) : Bool := Text.upperChar c ≠ c

/-- A text whose words start with a capital. -/
def title (s : String) : String :=
  let rec go : Bool → List Char → List Char
    | _, [] => []
    | inWord, c :: rest =>
      if Text.isLetter c then (if inWord then Text.lowerChar c else Text.upperChar c) :: go true rest else c :: go false rest
  String.ofList (go false s.toList)

/-- A text that starts with a capital and goes on in lower case. -/
def capitalize (s : String) : String :=
  match s.toList with
  | [] => s
  | c :: rest => String.ofList (Text.upperChar c :: rest.map Text.lowerChar)

/-- The functions of texts. -/
def names : List String := [
  "upper", "lower", "casefold", "strip", "lstrip", "rstrip", "split", "rsplit", "splitlines", "join",
  "replace", "startswith", "endswith", "find", "rfind", "index", "rindex", "count", "title", "capitalize",
  "swapcase", "isdigit", "isdecimal", "isnumeric", "isalpha", "isalnum", "isspace", "isupper", "islower",
  "isidentifier", "zfill", "ljust", "rjust", "center", "partition", "rpartition", "removeprefix",
  "removesuffix", "format"]

/-- Drops characters at the ends of a text. -/
def strip (atStart atEnd : Bool) (chars : Item) (s : String) : Run Item := do
  let drops (c : Char) : Bool := match chars with
    | .text set => set.toList.contains c
    | _ => Text.isBlankChar c
  let cs := s.toList
  let cs := if atStart then cs.dropWhile drops else cs
  return .text (String.ofList (if atEnd then (cs.reverse.dropWhile drops).reverse else cs))

/-- Splits a text at blanks or at a separator. -/
def split (a : Arguments) (s : String) : Run Item := do
  let limit := match (a.getD 1 "maxsplit" (.int (-1))).int? with
    | some n => if n < 0 then s.length + 1 else n.toNat
    | none => s.length + 1
  let texts (parts : List (List Char)) : Run Item := newList (parts.map fun p => .text (String.ofList p))
  match a.getD 0 "sep" .none with
  | .text "" => raise "ValueError" "empty separator"
  | .text separator => texts (parts separator.toList (s.length + 1) limit [] s.toList)
  | _ => texts (words limit s.toList)

/-- Splits a text at a separator, starting from the end. -/
def splitBack (a : Arguments) (s : String) : Run Item := do
  match a.getD 0 "sep" .none, a.get? 1 "maxsplit" with
  | .text separator, some limit =>
    if separator.isEmpty then raise "ValueError" "empty separator"
    let limit := match limit.int? with
      | some n => if n < 0 then s.length + 1 else n.toNat
      | none => s.length + 1
    let back := parts separator.toList.reverse (s.length + 1) limit [] s.toList.reverse
    newList (back.reverse.map fun p => .text (String.ofList p.reverse))
  | _, _ => split a s

/-- Whether a text starts or ends with one of some texts. -/
def borders (test : List Char → Bool) (what : Item) : Run Item := do
  match what with
  | .text t => return .bool (test t.toList)
  | .tuple items => return .bool (items.any fun
      | .text t => test t.toList
      | _ => false)
  | i => raise "TypeError" ("startswith first arg must be str or a tuple of str, not " ++ (← typeName i))

/-- The texts of items, joined by another text. -/
def join (separator : String) (parts : List Item) : Run Item := do
  let texts ← parts.zipIdx.mapM fun (i, k) => do
    match i with
    | .text s => return s
    | i => raise "TypeError" ("sequence item " ++ toString k ++ ": expected str instance, "
        ++ (← typeName i) ++ " found")
  return .text (String.intercalate separator texts)

/-- A text put to its place within a width. -/
def aligned (a : Arguments) (function : String) (align : Char) (s : String) : Run Item := do
  let width ← a.int function 0
  let fill := match a.getD 1 "fillchar" (.text " ") with
    | .text f => f.toList.headD ' '
    | _ => ' '
  return .text (FormatSpec.pad ⟨fill, none, none, false, false, width.toNat, none, none, none⟩ align s)

/-- A part before a mark, the mark and the part behind it. -/
def cutAt (cs : List Char) (length : Nat) (k : Nat) : Item :=
  .tuple ([cs.take k, (cs.drop k).take length, cs.drop (k + length)].map fun p => .text (String.ofList p))

/-- Whether all characters are of a class and there are some. -/
def every (p : Char → Bool) (s : String) : Item := .bool (!s.isEmpty && s.toList.all p)

/-- A function of a text. -/
def call (s : String) (name : String) (a : Arguments) : Run Item := do
  let cs := s.toList
  let position (last : Bool) : Run Int := do
    let needle := (← a.text name 0).toList
    let start := match (a.getD 1 "start" (.int 0)).int? with
      | some n => if n < 0 then (n + cs.length).toNat else n.toNat
      | none => 0
    let found := if last then findLast? needle (cs.drop start) else find? needle 0 (cs.drop start)
    return (found.map fun k => ((k + start : Nat) : Int)).getD (-1)
  let mustFind (last : Bool) : Run Item := do
    let k ← position last
    if k < 0 then raise "ValueError" "substring not found" else return .int k
  match name with
  | "upper" => return .text (s.map Text.upperChar)
  | "lower" | "casefold" => return .text (s.map Text.lowerChar)
  | "swapcase" => return .text (s.map fun c => if isUpper c then Text.lowerChar c else Text.upperChar c)
  | "title" => return .text (title s)
  | "capitalize" => return .text (capitalize s)
  | "strip" => strip true true (a.getD 0 "chars" .none) s
  | "lstrip" => strip true false (a.getD 0 "chars" .none) s
  | "rstrip" => strip false true (a.getD 0 "chars" .none) s
  | "split" => split a s
  | "rsplit" => splitBack a s
  | "splitlines" =>
    let keepEnds ← truth (a.getD 0 "keepends" (.bool false))
    newList ((lines keepEnds [] cs).map fun l => .text (String.ofList l))
  | "join" => join s (← items (← a.required name 0))
  | "replace" =>
    let limit := match (a.getD 2 "count" (.int (-1))).int? with
      | some n => if n < 0 then s.length + 1 else n.toNat
      | none => s.length + 1
    return .text (replace (← a.text name 0) (← a.text name 1) s limit)
  | "startswith" => borders (fun t => t.isPrefixOf cs) (← a.required name 0)
  | "endswith" => borders (fun t => t.isSuffixOf cs) (← a.required name 0)
  | "find" => return .int (← position false)
  | "rfind" => return .int (← position true)
  | "index" => mustFind false
  | "rindex" => mustFind true
  | "count" => return .int (count (← a.text name 0) s)
  | "isdigit" | "isdecimal" | "isnumeric" => return every Decimal.isDigit s
  | "isalpha" => return every Text.isLetter s
  | "isalnum" => return every Text.isWordChar s
  | "isspace" => return every Text.isBlankChar s
  | "isupper" => return .bool (cs.any isUpper && !cs.any isLower)
  | "islower" => return .bool (cs.any isLower && !cs.any isUpper)
  | "isidentifier" =>
    return .bool ((cs.head?.map fun c => Text.isLetter c || c = '_').getD false
      && cs.all fun c => Text.isWordChar c || c = '_')
  | "zfill" =>
    let width := (← a.int name 0).toNat
    let (sign, digits) := match cs with
      | '-' :: rest => (['-'], rest)
      | '+' :: rest => (['+'], rest)
      | cs => ([], cs)
    return .text (String.ofList (sign ++ Decimal.padZeros (width - sign.length) digits))
  | "ljust" => aligned a name '<' s
  | "rjust" => aligned a name '>' s
  | "center" => aligned a name '^' s
  | "partition" =>
    let mark := (← a.text name 0).toList
    return match find? mark 0 cs with
      | some k => cutAt cs mark.length k
      | none => .tuple [.text s, .text "", .text ""]
  | "rpartition" =>
    let mark := (← a.text name 0).toList
    return match findLast? mark cs with
      | some k => cutAt cs mark.length k
      | none => .tuple [.text "", .text "", .text s]
  | "removeprefix" =>
    let mark := (← a.text name 0).toList
    return .text (if mark.isPrefixOf cs then String.ofList (cs.drop mark.length) else s)
  | "removesuffix" =>
    let mark := (← a.text name 0).toList
    return .text (if mark.isSuffixOf cs then String.ofList (cs.take (cs.length - mark.length)) else s)
  | name => raise "AttributeError" ("'str' object has no attribute '" ++ name ++ "'")

end TextMethod

end Interpreter

end Workflows

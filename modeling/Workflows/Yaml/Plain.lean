import Workflows.Data.Value
import Workflows.Decimal.Reading
import Workflows.Json.Reader

/-!
# Plain scalars as data

What a scalar without quotes stands for, by its text: null, a truth value, a whole number in decimal,
hexadecimal, octal or binary digits, a double, or else a text.
-/

namespace Workflows

namespace Yaml

/-- Whether a text stands for null. -/
def isNullText (s : String) : Bool := s = "null" || s = "Null" || s = "NULL" || s = "~"

/-- The truth value of a text. -/
def boolOf? (s : String) : Option Bool :=
  if s = "true" || s = "True" || s = "TRUE" then some true
  else if s = "false" || s = "False" || s = "FALSE" then some false
  else none

/-- The amount of digits to a base; a sign may come before them. -/
def radixNumber? (base : Nat) (cs : List Char) : Option Int :=
  let (negative, digits) := Decimal.splitSign cs
  if digits.isEmpty then none
  else
    let n := digits.foldlM (fun n c =>
      (Json.hexValue? c).bind fun d => if d < base then some (n * base + d) else none) 0
    n.map fun n => if negative then -(n : Int) else n

/-- The base that a text names, and the digits after it. -/
def splitBase? : List Char → Option (Nat × List Char)
  | '0' :: 'x' :: rest => some (16, rest)
  | '0' :: 'o' :: rest => some (8, rest)
  | '0' :: 'b' :: rest => some (2, rest)
  | _ => none

/-- Whether `cs` begins with a sign. -/
def beginsWithSign (cs : List Char) : Bool :=
  match cs with
  | c :: _ => c = '+' || c = '-'
  | [] => false

/-- Whether a text has a needless zero before its digits; it is no number then. -/
def hasLeadingZero (cs : List Char) : Bool :=
  let digits := if beginsWithSign cs then cs.drop 1 else cs
  1 < digits.length && digits.head? = some '0' && digits.all Decimal.isDigit

/-- `cs` without a plus sign at its start. -/
def dropPlus : List Char → List Char
  | '+' :: rest => rest
  | cs => cs

/-- The whole number of a text, if it is not negative. -/
def unsigned? (s : String) : Option Nat :=
  let cs := s.toList
  let body := dropPlus cs
  let based := (splitBase? body).bind fun (base, digits) =>
    if beginsWithSign digits then none else radixNumber? base digits
  let whole := if beginsWithSign body || hasLeadingZero cs then none else radixNumber? 10 body
  match splitBase? body with
  | some (_, digits) => if beginsWithSign digits then none else (based <|> whole).map Int.toNat
  | none => whole.map Int.toNat

/-- The negative number of a text. -/
def negative? (s : String) : Option Int :=
  match s.toList with
  | '-' :: body =>
    let based := (splitBase? body).bind fun (base, digits) =>
      if beginsWithSign digits then none else radixNumber? base digits
    let whole := if beginsWithSign body || hasLeadingZero s.toList then none else radixNumber? 10 body
    (based <|> whole).map fun n => -n
  | _ => none

/-- The double of a text; the words for infinity and for what is not a number begin with a point. -/
def real? (s : String) : Option Float :=
  let positive := dropPlus s.toList
  let word := String.ofList positive
  if s.startsWith "+" && beginsWithSign positive then none
  else if word = ".inf" || word = ".Inf" || word = ".INF" then some (1.0 / 0.0)
  else if s = "-.inf" || s = "-.Inf" || s = "-.INF" then some (-1.0 / 0.0)
  else if s = ".nan" || s = ".NaN" || s = ".NAN" then some (0.0 / 0.0)
  else (Decimal.read? positive).filter (·.isFinite)

/-- The data of a whole number; one beyond 64 bits is none. -/
def intValue? (n : Int) : Option Value :=
  if Number.minInt ≤ n && n ≤ Number.maxInt then some (.int n) else none

/-- A number of a text, if it stands for a whole number. -/
def wholeOf? (s : String) : Option Int := ((unsigned? s).map fun n => (n : Int)) <|> negative? s

/-- The largest whole number that a text stands for; a larger one is a double. -/
def maxWhole : Nat := 0xffffffffffffffffffffffffffffffff

/-- The data of a plain scalar. A whole number that is too large for the data is refused. -/
def plainValue? (s : String) : Option Value :=
  if s.isEmpty || isNullText s then some .null
  else
    match boolOf? s with
    | some b => some (.bool b)
    | none =>
      match wholeOf? s with
      | some n => if -0x80000000000000000000000000000000 ≤ n && n ≤ maxWhole then intValue? n else realOrText s
      | none => realOrText s
where
  /-- A double or else a text. -/
  realOrText (s : String) : Option Value :=
    if hasLeadingZero s.toList then some (.text s)
    else
      match real? s with
      | some x => some (.ofFloat x)
      | none => some (.text s)

end Yaml

end Workflows

import Workflows.Data.Value
import Workflows.Decimal.Reading

/-!
# Reading JSON

* `Json.readString`: the rest of a quoted text after its opening quote;
* `Json.readNumber`: a number; `Scaled` is the amount of one with a point, an exponent or too many digits;
* `Json.read?`: a whole document as it is written, members in their order and repeated names kept;
* `Json.parse?`: the same in canonical form.

Lists and objects nest at most `maxDepth` deep.
-/

namespace Workflows

namespace Json

/-- The greatest nesting of lists and objects. -/
def maxDepth : Nat := 127

/-- The characters that may stand between tokens. -/
def isSpace (c : Char) : Bool := c = ' ' || c = '\n' || c = '\t' || c = '\r'

/-- `cs` without the space at its start. -/
def skipSpace (cs : List Char) : List Char := cs.dropWhile isSpace

/-- The amount of a hexadecimal digit. -/
def hexValue? (c : Char) : Option Nat :=
  if Decimal.isDigit c then some (Decimal.digitValue c)
  else if 'a' ≤ c && c ≤ 'f' then some (c.toNat - 'a'.toNat + 10)
  else if 'A' ≤ c && c ≤ 'F' then some (c.toNat - 'A'.toNat + 10)
  else none

/-- The amount of four hexadecimal digits. -/
def hex4? (a b c d : Char) : Option Nat := do
  let a ← hexValue? a
  let b ← hexValue? b
  let c ← hexValue? c
  let d ← hexValue? d
  return ((a * 16 + b) * 16 + c) * 16 + d

/-- The character that a backslash and `c` stand for. -/
def unescape? (c : Char) : Option Char :=
  match c with
  | '"' => some '"'
  | '\\' => some '\\'
  | '/' => some '/'
  | 'b' => some '\x08'
  | 'f' => some '\x0c'
  | 'n' => some '\n'
  | 'r' => some '\r'
  | 't' => some '\t'
  | _ => none

/-- Whether `n` is the first half of a surrogate pair. -/
def isHighSurrogate (n : Nat) : Bool := 0xD800 ≤ n && n ≤ 0xDBFF

/-- Whether `n` is the second half of a surrogate pair. -/
def isLowSurrogate (n : Nat) : Bool := 0xDC00 ≤ n && n ≤ 0xDFFF

/-- The character of a surrogate pair. -/
def surrogatePair (high low : Nat) : Char :=
  Char.ofNat (0x10000 + (high - 0xD800) * 0x400 + (low - 0xDC00))

/-- The rest of a quoted text, and what follows its closing quote. `high` is the first half of a
surrogate pair that waits for its second half; `acc` holds the characters so far, last one first. -/
def readString (high : Option Nat) (acc : List Char) : List Char → Option (String × List Char)
  | [] => none
  | '\\' :: 'u' :: a :: b :: c :: d :: rest =>
    match hex4? a b c d, high with
    | none, _ => none
    | some n, some h =>
      if isLowSurrogate n then readString none (surrogatePair h n :: acc) rest else none
    | some n, none =>
      if isHighSurrogate n then readString (some n) acc rest
      else if isLowSurrogate n then none
      else readString none (Char.ofNat n :: acc) rest
  | '\\' :: c :: rest =>
    match unescape? c, high with
    | some e, none => readString none (e :: acc) rest
    | _, _ => none
  | c :: rest =>
    if high.isSome then none
    else if c = '"' then some (String.ofList acc.reverse, rest)
    else if c = '\\' || c.toNat < 0x20 then none
    else readString none (c :: acc) rest

/-! ## Numbers -/

/-- An amount `digits · 10 ^ exponent` whose digits are kept to what a 64-bit word holds. -/
structure Scaled where
  digits : Nat
  exponent : Int

namespace Scaled

/-- The largest word. -/
def maxWord : Nat := 0xffffffffffffffff

/-- `s` with a further digit, if a word holds the result. -/
def push? (s : Scaled) (c : Char) : Option Nat :=
  let n := s.digits * 10 + Decimal.digitValue c
  if n ≤ maxWord then some n else none

/-- Takes the digits before the point; those after the first that a word cannot hold only scale. -/
def pushWhole (s : Scaled) : List Char → Scaled
  | [] => s
  | c :: rest =>
    match s.push? c with
    | some n => pushWhole { s with digits := n } rest
    | none => { s with exponent := s.exponent + (rest.length + 1 : Nat) }

/-- Takes the digits after the point; those from the first that a word cannot hold are dropped. -/
def pushPlaces (s : Scaled) : List Char → Scaled
  | [] => s
  | c :: rest =>
    match s.push? c with
    | some n => pushPlaces ⟨n, s.exponent - 1⟩ rest
    | none => s

/-- The power of ten with exponent `e` as the nearest double. -/
def tenPower (e : Nat) : Float := Decimal.nearest 1 e

/-- The digits as a double, scaled by steps of at most `10 ^ 308`; no result where it is too large. -/
def toFloat? (s : Scaled) : Option Float :=
  let x := Float.ofNat s.digits
  if 308 < s.exponent then
    if x == 0.0 then some x else none
  else if 0 ≤ s.exponent then
    let y := x * tenPower s.exponent.toNat
    if y.isInf then none else some y
  else
    let e := s.exponent.natAbs
    if e ≤ 308 then some (x / tenPower e)
    else if e ≤ 616 then some (x / tenPower 308 / tenPower (e - 308))
    else some 0.0

end Scaled

/-- The largest exponent that is read digit by digit. -/
def maxExponent : Nat := 0x7fffffff

/-- An exponent and what follows it: a sign if any and at least one digit. -/
def readExponent (cs : List Char) : Option (Int × List Char) :=
  let (negative, rest) := Decimal.splitSign cs
  let (digits, rest) := Decimal.splitDigits rest
  if digits.isEmpty then none
  else
    let n := min (Decimal.natOfDigits digits) maxExponent
    some (if negative then -(n : Int) else n, rest)

/-- The digits before a point, with no zero in front of others, and what follows them. -/
def readWhole (cs : List Char) : Option (List Char × List Char) :=
  let (whole, rest) := Decimal.splitDigits cs
  if whole.isEmpty || (whole.head? = some '0' && 1 < whole.length) then none else some (whole, rest)

/-- The digits after a point, if there is one, and what follows them. -/
def readPlaces : List Char → Option (Option (List Char) × List Char)
  | '.' :: rest =>
    let (places, rest) := Decimal.splitDigits rest
    if places.isEmpty then none else some (some places, rest)
  | rest => some (none, rest)

/-- The exponent after its letter, if there is one, and what follows it. -/
def readPower : List Char → Option (Option Int × List Char)
  | c :: rest =>
    if c = 'e' || c = 'E' then (readExponent rest).map fun (e, rest) => (some e, rest)
    else some (none, c :: rest)
  | [] => some (none, [])

/-- An amount with its sign, as a double. -/
def Scaled.number? (s : Scaled) (negative : Bool) : Option Number := do
  let x ← s.toFloat?
  let r ← Real64.ofFloat? (if negative then -x else x)
  return .real r

/-- The number with these parts. Without point and exponent it is whole where it is in range and not `-0`. -/
def numberOf (negative : Bool) (whole : List Char) (places : Option (List Char)) (power : Option Int) :
    Option Number :=
  let scaled := (Scaled.mk 0 0).pushWhole whole
  if places.isNone && power.isNone then
    let n : Int := if negative then -(Decimal.natOfDigits whole : Int) else Decimal.natOfDigits whole
    if Number.minInt ≤ n && n ≤ Number.maxInt && !(negative && n = 0) then some (.int n)
    else scaled.number? negative
  else
    let scaled := scaled.pushPlaces (places.getD [])
    Scaled.number? ⟨scaled.digits, scaled.exponent + power.getD 0⟩ negative

/-- A minus, if there is one, and what follows it. -/
def splitMinus : List Char → Bool × List Char
  | '-' :: rest => (true, rest)
  | rest => (false, rest)

/-- A number and what follows it. -/
def readNumber (cs : List Char) : Option (Number × List Char) := do
  let (negative, rest) := splitMinus cs
  let (whole, rest) ← readWhole rest
  let (places, rest) ← readPlaces rest
  let (power, rest) ← readPower rest
  let n ← numberOf negative whole places power
  return (n, rest)

/-! ## Documents -/

/-- What follows `word` at the start of a text. -/
def dropWord? : List Char → List Char → Option (List Char)
  | [], cs => some cs
  | _ :: _, [] => none
  | w :: ws, c :: cs => if w = c then dropWord? ws cs else none

mutual

/-- A value and what follows it; `depth` more levels may be opened. -/
def readValue : Nat → Nat → List Char → Option (Value × List Char)
  | 0, _, _ => none
  | fuel + 1, depth, cs =>
    match skipSpace cs with
    | [] => none
    | '"' :: rest => (readString none [] rest).map fun (s, rest) => (.text s, rest)
    | '[' :: rest =>
      match depth, skipSpace rest with
      | 0, _ => none
      | _, ']' :: rest => some (.list [], rest)
      | depth + 1, rest => (readItems fuel depth rest []).map fun (vs, rest) => (.list vs, rest)
    | '\x7b' :: rest =>
      match depth, skipSpace rest with
      | 0, _ => none
      | _, '\x7d' :: rest => some (.object [], rest)
      | depth + 1, rest => (readMembers fuel depth rest []).map fun (ms, rest) => (.object ms, rest)
    | 't' :: rest => (dropWord? "rue".toList rest).map fun rest => (.bool true, rest)
    | 'f' :: rest => (dropWord? "alse".toList rest).map fun rest => (.bool false, rest)
    | 'n' :: rest => (dropWord? "ull".toList rest).map fun rest => (.null, rest)
    | c :: rest => (readNumber (c :: rest)).map fun (n, rest) => (.number n, rest)

/-- The items of a list from one on, and what follows its closing bracket. -/
def readItems : Nat → Nat → List Char → List Value → Option (List Value × List Char)
  | 0, _, _, _ => none
  | fuel + 1, depth, cs, acc =>
    match readValue fuel depth cs with
    | none => none
    | some (v, rest) =>
      match skipSpace rest with
      | ',' :: rest => readItems fuel depth rest (v :: acc)
      | ']' :: rest => some ((v :: acc).reverse, rest)
      | _ => none

/-- The members of an object from one on, and what follows its closing brace. -/
def readMembers : Nat → Nat → List Char → List (String × Value) →
    Option (List (String × Value) × List Char)
  | 0, _, _, _ => none
  | fuel + 1, depth, cs, acc =>
    match skipSpace cs with
    | '"' :: rest =>
      match readString none [] rest with
      | none => none
      | some (k, rest) =>
        match skipSpace rest with
        | ':' :: rest =>
          match readValue fuel depth rest with
          | none => none
          | some (v, rest) =>
            match skipSpace rest with
            | ',' :: rest => readMembers fuel depth rest ((k, v) :: acc)
            | '\x7d' :: rest => some (((k, v) :: acc).reverse, rest)
            | _ => none
        | _ => none
    | _ => none

end

/-- A document as it is written: the members of objects in their order, repeated names kept. -/
def read? (text : String) : Option Value :=
  let cs := text.toList
  match readValue (2 * cs.length + 2) maxDepth cs with
  | some (v, rest) => if (skipSpace rest).isEmpty then some v else none
  | none => none

/-- A document in canonical form. -/
def parse? (text : String) : Option Value := (read? text).map Value.canonical

end Json

end Workflows

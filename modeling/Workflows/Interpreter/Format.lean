import Workflows.Interpreter.Shown
import Workflows.Interpreter.Order
import Workflows.Text.Blank
import Workflows.Decimal.Reading

/-!
# Formats of items

* `Interpreter.FormatSpec`, `FormatSpec.read?`: width, alignment, precision and form;
* `FormatSpec.apply`: an item in a format, or why it has none;
* `Interpreter.percentFormat`: a text whose `%` marks are replaced by items.
-/

namespace Workflows

namespace Interpreter

/-- How an item is to be written. -/
structure FormatSpec where
  fill : Char
  align : Option Char
  sign : Option Char
  alternate : Bool
  zeros : Bool
  width : Nat
  grouping : Option Char
  precision : Option Nat
  form : Option Char
  deriving DecidableEq

namespace FormatSpec

/-- Whether a character is a mark of alignment. -/
def isAlign (c : Char) : Bool := ['<', '>', '^', '='].contains c

/-- The digits at the start of a text as a number. -/
def number (cs : List Char) : Option Nat × List Char :=
  let (digits, rest) := Decimal.splitDigits cs
  (if digits.isEmpty then none else some (Decimal.natOfDigits digits), rest)

/-- A format as it is written. -/
def read? (s : String) : Option FormatSpec :=
  let cs := s.toList
  let (fill, align, cs) := match cs with
    | f :: a :: rest =>
      if isAlign a then (f, some a, rest)
      else if isAlign f then (' ', some f, a :: rest) else (' ', none, cs)
    | [a] => if isAlign a then (' ', some a, []) else (' ', none, cs)
    | [] => (' ', none, cs)
  let (sign, cs) := match cs with
    | '+' :: rest => (some '+', rest)
    | '-' :: rest => (some '-', rest)
    | ' ' :: rest => (some ' ', rest)
    | _ => (none, cs)
  let (alternate, cs) := match cs with
    | '#' :: rest => (true, rest)
    | _ => (false, cs)
  let (zeros, cs) := match cs with
    | '0' :: rest => (true, rest)
    | _ => (false, cs)
  let (width, cs) := number cs
  let (grouping, cs) := match cs with
    | ',' :: rest => (some ',', rest)
    | '_' :: rest => (some '_', rest)
    | _ => (none, cs)
  let (precision, cs) := match cs with
    | '.' :: rest => number rest
    | _ => (none, cs)
  let spec (form : Option Char) : FormatSpec :=
    ⟨fill, align, sign, alternate, zeros, width.getD 0, grouping, precision, form⟩
  match cs with
  | [] => some (spec none)
  | [c] => some (spec (some c))
  | _ => none

variable (spec : FormatSpec)

/-- A text put to its place within the width. -/
def pad (default : Char) (s : String) : String :=
  let missing := spec.width - s.length
  let fill (n : Nat) : String := String.ofList (List.replicate n spec.fill)
  match spec.align.getD default with
  | '<' => s ++ fill missing
  | '^' => fill (missing / 2) ++ s ++ fill (missing - missing / 2)
  | _ => fill missing ++ s

/-- Digits in groups of three, from the end. -/
def group (mark : Char) (digits : List Char) : List Char :=
  let rec go : Nat → List Char → List Char
    | _, [] => []
    | k, c :: rest => if k % 3 = 0 && k ≠ 0 then mark :: c :: go (k + 1) rest else c :: go (k + 1) rest
  (go 0 digits.reverse).reverse

/-- A number with its sign, digits and what follows them. -/
def signed (negative : Bool) (lead : String) (whole : List Char) (rest : String) : String :=
  let signText := if negative then "-" else match spec.sign with
    | some '+' => "+"
    | some ' ' => " "
    | _ => ""
  let digits := match spec.grouping with
    | some mark => group mark whole
    | none => whole
  let bare := String.ofList digits ++ rest
  let missing := spec.width - (signText.length + lead.length + bare.length)
  if spec.align = some '=' then
    signText ++ lead ++ String.ofList (List.replicate missing spec.fill) ++ bare
  else if spec.zeros && spec.align = none then
    signText ++ lead ++ String.ofList (List.replicate missing '0') ++ bare
  else spec.pad '>' (signText ++ lead ++ bare)

/-- The digits of a double in units of `10 ^ unit`, a half going to the even neighbour. -/
def digitsIn (x : Float) (unit : Int) : Nat :=
  let b := Binary.ofFloat x
  Decimal.roundDiv (b.mantissa * Nat.pow 2 b.exponent.toNat * Nat.pow 10 (-unit).toNat)
    (Nat.pow 2 (-b.exponent).toNat * Nat.pow 10 unit.toNat)

/-- The first digits of a double, so many of them, and the exponent of the leading one. -/
def leadingDigits (count : Nat) (x : Float) : List Char × Int :=
  if x == 0 then (List.replicate count '0', 0)
  else
    let e := (Decimal.shortest x).leading
    let digits := Nat.toDigits 10 (digitsIn x (e - count + 1))
    if digits.length > count then (digits.take count, e + 1) else (digits, e)

/-- A whole part and places. -/
def withPlaces (whole places : List Char) : List Char × String :=
  (whole, if places.isEmpty then "" else String.ofList ('.' :: places))

/-- A double with an exponent. -/
def scientific (precision : Nat) (mark : Char) (x : Float) : List Char × String :=
  let (digits, e) := leadingDigits (precision + 1) x
  let (whole, places) := withPlaces (digits.take 1) (digits.drop 1)
  (whole, places ++ String.ofList (mark :: Decimal.exponentText 2 e))

/-- A double in so many digits, with an exponent if it is very large or very small. -/
def general (precision : Nat) (keepZeros : Bool) (x : Float) : List Char × String :=
  let precision := max precision 1
  let (digits, e) := leadingDigits precision x
  let strip (places : List Char) : List Char :=
    if keepZeros then places else (places.reverse.dropWhile (· = '0')).reverse
  if -4 ≤ e ∧ e < precision then
    if 0 ≤ e then withPlaces (digits.take (e.toNat + 1)) (strip (digits.drop (e.toNat + 1)))
    else withPlaces ['0'] (strip (List.replicate (-e - 1).toNat '0' ++ digits))
  else
    let (whole, places) := withPlaces (digits.take 1) (strip (digits.drop 1))
    (whole, places ++ String.ofList ('e' :: Decimal.exponentText 2 e))

/-- A double in a format. -/
def real (x : Float) : String :=
  let negative := negativeSign x && !x.isNaN
  let magnitude := x.abs
  if !x.isFinite then signed spec negative "" [] (if x.isNaN then "nan" else "inf")
  else
    let split (s : String) : List Char × String :=
      let cs := s.toList
      (cs.takeWhile Decimal.isDigit, String.ofList (cs.dropWhile Decimal.isDigit))
    let (whole, rest) := match spec.form, spec.precision with
      | some 'f', p | some 'F', p => split (Decimal.fixedText (p.getD 6) magnitude)
      | some 'e', p => scientific (p.getD 6) 'e' magnitude
      | some 'E', p => scientific (p.getD 6) 'E' magnitude
      | some '%', p =>
        let (whole, rest) := split (Decimal.fixedText (p.getD 6) (100 * magnitude))
        (whole, rest ++ "%")
      | some _, p => general (p.getD 6) spec.alternate magnitude
      | none, some p => general p spec.alternate magnitude
      | none, none => split (realText magnitude)
    signed spec negative "" whole rest

/-- A whole number in a format. -/
def int (n : Int) : String :=
  let based (base : Nat) (lead : String) (upper : Bool) : String :=
    let digits := Nat.toDigits base n.natAbs
    signed spec (n < 0) (if spec.alternate then lead else "")
      (if upper then digits.map Char.toUpper else digits) ""
  match spec.form with
  | some 'x' => based 16 "0x" false
  | some 'X' => based 16 "0X" true
  | some 'o' => based 8 "0o" false
  | some 'b' => based 2 "0b" false
  | some 'c' => spec.pad '<' (Char.ofNat n.toNat).toString
  | none | some 'd' | some 'n' => signed spec (n < 0) "" (Nat.toDigits 10 n.natAbs) ""
  | _ => real spec (Float.ofInt n)

/-- The forms that numbers and texts have. -/
def fits (item : Item) : Bool :=
  match spec.form, item with
  | none, _ => true
  | some 's', .text _ => true
  | some c, .int _ | some c, .bool _ => "bcdeEfFgGnoxX%".toList.contains c
  | some c, .real _ => "eEfFgGn%".toList.contains c
  | some _, _ => false

/-- An item in a format, or the form that it does not have. -/
def apply (m : Machine) (item : Item) : Except Char String :=
  if !spec.fits item then .error (spec.form.getD 's')
  else
    match item with
    | .int n => .ok (spec.int n)
    | .bool b => .ok (if spec.form = none then spec.pad '<' (m.str item) else spec.int (if b then 1 else 0))
    | .real x => .ok (spec.real x)
    | item =>
      let text := m.str item
      .ok (spec.pad '<' (match spec.precision with
        | some p => (text.take p).toString
        | none => text))

end FormatSpec

/-- Why a text with `%` marks cannot be filled in. -/
inductive PercentFault where
  | tooFew
  | leftOver
  | unfit (form : Char) (item : Item)
  | unknown (form : Char)

/-- One item for a `%` mark in a form. -/
def percentItem (m : Machine) (spec : FormatSpec) (form : Char) (item : Item) :
    Except PercentFault String :=
  let right (s : String) : String := { spec with form := none, precision := none }.pad '>' s
  let cut (s : String) : String := match spec.precision with
    | some p => (s.take p).toString
    | none => s
  match form with
  | 's' => .ok (right (cut (m.str item)))
  | 'r' | 'a' => .ok (right (cut (m.repr item)))
  | 'd' | 'i' | 'u' =>
    match item.amount? with
    | some (.int n) => .ok ({ spec with form := some 'd', precision := none }.int n)
    | some (.real x) =>
      .ok ({ spec with form := some 'f', precision := some 0 }.real (if x < 0 then x.ceil else x.floor))
    | none => .error (.unfit form item)
  | 'x' | 'X' | 'o' =>
    match item.int? with
    | some n => .ok ({ spec with form := some form, precision := none }.int n)
    | none => .error (.unfit form item)
  | 'e' | 'E' | 'f' | 'F' | 'g' | 'G' =>
    match item.amount? with
    | some a => .ok ({ spec with form := some form }.real a.toFloat)
    | none => .error (.unfit form item)
  | c => .error (.unknown c)

/-- The width, precision and form of a `%` mark, read behind it. -/
def percentSpec (cs : List Char) : FormatSpec × List Char :=
  let flags := cs.takeWhile fun c => "-+ 0#".toList.contains c
  let (width, cs) := FormatSpec.number (cs.drop flags.length)
  let (precision, cs) := match cs with
    | '.' :: rest => let (p, rest) := FormatSpec.number rest; (some (p.getD 0), rest)
    | _ => (none, cs)
  let left := flags.contains '-'
  (⟨' ', if left then some '<' else none, if flags.contains '+' then some '+' else none,
    flags.contains '#', flags.contains '0' && !left, width.getD 0, none, precision, none⟩, cs)

/-- A text with its `%` marks filled in from positional items or by name. The first argument bounds the
number of characters. -/
def percentFormat (m : Machine) (byName : String → Option Item) :
    Nat → List Char → List Item → Except PercentFault (List Char × List Item)
  | n + 1, '%' :: '%' :: rest, items => do
    let (done, left) ← percentFormat m byName n rest items
    return ('%' :: done, left)
  | n + 1, '%' :: '(' :: rest, items => do
    let name := String.ofList (rest.takeWhile (· ≠ ')'))
    let (spec, rest) := percentSpec ((rest.dropWhile (· ≠ ')')).drop 1)
    match rest, byName name with
    | form :: rest, some item =>
      let text ← percentItem m spec form item
      let (done, left) ← percentFormat m byName n rest items
      return (text.toList ++ done, left)
    | _, _ => throw .tooFew
  | n + 1, '%' :: rest, items => do
    let (spec, rest) := percentSpec rest
    match rest, items with
    | form :: rest, item :: items =>
      let text ← percentItem m spec form item
      let (done, left) ← percentFormat m byName n rest items
      return (text.toList ++ done, left)
    | _, _ => throw .tooFew
  | n + 1, c :: rest, items => do
    let (done, left) ← percentFormat m byName n rest items
    return (c :: done, left)
  | _, _, items => return ([], items)

end Interpreter

end Workflows

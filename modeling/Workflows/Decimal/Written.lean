import Workflows.Decimal.Shortest

/-!
# Written doubles

* `Decimal.Layout`: the range of exponents that are written positionally, the others being scientific;
  `Layout.data` is the one of the data format;
* `Decimal.realText`: a double in shortest form;
* `Decimal.fixedText`: a double rounded to a number of places, a half going to the even neighbour.
-/

namespace Workflows

namespace Decimal

/-- How a shortest decimal is laid out. -/
structure Layout where
  /-- The least exponent of the leading digit that is written positionally. -/
  least : Int
  /-- The greatest exponent of the leading digit that is written positionally. -/
  greatest : Int
  /-- The least number of digits of a written exponent. -/
  exponentWidth : Nat
  deriving DecidableEq

/-- The layout of numbers in data: `0.00001`, `1e-6`, `1000000000000000.0`, `1e+16`. -/
def Layout.data : Layout := ⟨-5, 15, 1⟩

/-- `cs` with zeros put before it up to a length of `n`. -/
def padZeros (n : Nat) (cs : List Char) : List Char := List.replicate (n - cs.length) '0' ++ cs

/-- Digits with a point after the first `n`, and at least one digit on either side of it. -/
def withPoint (digits : List Char) (n : Nat) : List Char :=
  let whole := digits.take n ++ List.replicate (n - digits.length) '0'
  let places := digits.drop n
  (if whole.isEmpty then ['0'] else whole) ++ '.' :: (if places.isEmpty then ['0'] else places)

/-- An exponent with its sign. -/
def exponentText (width : Nat) (e : Int) : List Char :=
  (if e < 0 then '-' else '+') :: padZeros width (Nat.toDigits 10 e.natAbs)

/-- The digits of a decimal without the zeros at their end. -/
def significant (d : Decimal) : List Char :=
  let digits := (d.digitChars.reverse.dropWhile (· = '0')).reverse
  if digits.isEmpty then ['0'] else digits

/-- A decimal laid out. -/
def layOut (layout : Layout) (d : Decimal) : List Char :=
  let digits := d.significant
  let e := if d.digits = 0 then 0 else d.leading
  if layout.least ≤ e ∧ e ≤ layout.greatest then
    if 0 ≤ e then withPoint digits (e.toNat + 1)
    else withPoint (List.replicate (-e - 1).toNat '0' ++ digits) 0
  else
    let head := digits.take 1
    let tail := digits.drop 1
    head ++ (if tail.isEmpty then [] else '.' :: tail) ++ 'e' :: exponentText layout.exponentWidth e

/-- The shortest text of a finite double that reads back as it. -/
def realText (layout : Layout) (x : Float) : String :=
  String.ofList ((if negativeSign x then ['-'] else []) ++ (shortest x).layOut layout)

/-- The quotient rounded to a whole number, a half to the even neighbour. -/
def roundDiv (num den : Nat) : Nat :=
  let q := num / den
  let r := num % den
  if 2 * r < den ∨ (2 * r = den ∧ q % 2 = 0) then q else q + 1

/-- The amount of a double in units of the last of `places` places, rounded. -/
def inUnits (places : Nat) (b : Binary) : Nat :=
  roundDiv (b.mantissa * Nat.pow 2 b.exponent.toNat * Nat.pow 10 places) (Nat.pow 2 (-b.exponent).toNat)

/-- A double rounded to `places` places; `inf` and `NaN` for those that are not finite. -/
def fixedText (places : Nat) (x : Float) : String :=
  if x.isNaN then "NaN"
  else
    let sign := if negativeSign x then "-" else ""
    if x.isFinite then
      let digits := padZeros (places + 1) (Nat.toDigits 10 (inUnits places (Binary.ofFloat x)))
      let whole := digits.take (digits.length - places)
      let rest := digits.drop (digits.length - places)
      sign ++ String.ofList (whole ++ if places = 0 then [] else '.' :: rest)
    else sign ++ "inf"

end Decimal

end Workflows

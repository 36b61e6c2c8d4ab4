/-!
# The shortest decimal of a double

A decimal reads back as a double when it lies in the interval of reals that round to it. Of the
decimals that read back, the shortest one nearest to the double is its written form.

* `Binary`: a double's amount as `mantissa · 2 ^ exponent`; `Binary.ofFloat`;
* `Grid`: the interval and the multiples of a power of ten on one whole-number scale;
* `Decimal`: `digits · 10 ^ exponent`; `Decimal.shortest`: the first grid, from coarse to fine, on
  which a neighbour of the double lies in its interval.
-/

namespace Workflows

/-- The amount `mantissa · 2 ^ exponent`. -/
structure Binary where
  mantissa : Nat
  exponent : Int
  /-- The next smaller double is only half as far away as the next larger one. -/
  narrowBelow : Bool
  deriving DecidableEq

/-- The amount `digits · 10 ^ exponent`. -/
structure Decimal where
  digits : Nat
  exponent : Int
  deriving DecidableEq, Inhabited

/-- The amount of a finite double, without its sign. -/
def Binary.ofFloat (x : Float) : Binary :=
  let bits := x.toBits.toNat
  let exponent : Nat := bits / 0x10000000000000 % 2048
  let fraction := bits % 0x10000000000000
  if exponent = 0 then ⟨fraction, -1074, false⟩
  else ⟨fraction + 0x10000000000000, (exponent : Int) - 1075, fraction = 0 ∧ 1 < exponent⟩

/-- Whether the sign bit of a double is set. -/
def negativeSign (x : Float) : Bool := 0x8000000000000000 ≤ x.toBits.toNat

/-- The interval of a double and the multiples of `10 ^ k`, all on one whole-number scale: a quarter
of the double's last place is `quarter` and a grid step is `step`. -/
structure Grid where
  quarter : Nat
  step : Nat

namespace Grid

/-- The grid of multiples of `10 ^ k` for doubles with the given exponent. -/
def ofExponents (exponent k : Int) : Grid :=
  let s := exponent - 2
  ⟨Nat.pow 2 s.toNat * Nat.pow 10 (-k).toNat, Nat.pow 10 k.toNat * Nat.pow 2 (-s).toNat⟩

/-- The double's amount on the scale. -/
def amount (g : Grid) (b : Binary) : Nat := 4 * b.mantissa * g.quarter

/-- The lower end of the interval on the scale. -/
def lower (g : Grid) (b : Binary) : Nat :=
  (4 * b.mantissa - if b.narrowBelow then 1 else 2) * g.quarter

/-- The upper end of the interval on the scale. -/
def upper (g : Grid) (b : Binary) : Nat := (4 * b.mantissa + 2) * g.quarter

/-- Whether the `d`-th grid point lies in the interval; its ends belong to it for an even mantissa. -/
def reads (g : Grid) (b : Binary) (d : Nat) : Bool :=
  if b.mantissa % 2 = 0 then g.lower b ≤ d * g.step ∧ d * g.step ≤ g.upper b
  else g.lower b < d * g.step ∧ d * g.step < g.upper b

/-- The neighbour of the double on the grid that reads back; of two the nearer, of two equally near
the even one. -/
def hit? (g : Grid) (b : Binary) : Option Nat :=
  let below := g.amount b / g.step
  let rest := g.amount b % g.step
  let nearer := if 2 * rest < g.step ∨ (2 * rest = g.step ∧ below % 2 = 0) then below else below + 1
  let farther := if nearer = below then below + 1 else below
  if g.reads b nearer then some nearer
  else if g.reads b farther then some farther
  else none

end Grid

namespace Binary

/-- So many decimal places that an amount of at least `2 ^ -n` shows a digit before or among them. -/
def places (n : Nat) : Nat := n * 302 / 1000 + 1

/-- The decimal exponent of the amount's leading digit. -/
def leadingExponent (b : Binary) : Int :=
  let below := (-b.exponent).toNat
  let scaled := b.mantissa * Nat.pow 10 (places below) * Nat.pow 2 b.exponent.toNat / Nat.pow 2 below
  ((Nat.toDigits 10 scaled).length : Int) - 1 - places below

end Binary

namespace Decimal

/-- The shortest decimal that reads back as the amount of `x`, nearest to it; zero for zero. Seventeen
digits always suffice. -/
def shortest (x : Float) : Decimal :=
  let b := Binary.ofFloat x
  if b.mantissa = 0 then ⟨0, 0⟩ else
    let top := b.leadingExponent
    let onGrid (k : Int) : Option Decimal :=
      ((Grid.ofExponents b.exponent k).hit? b).map fun d => ⟨d, k⟩
    ((List.range 18).findSome? fun (i : Nat) => onGrid (top - i)).getD ⟨0, 0⟩

/-- The digits, most significant first. -/
def digitChars (d : Decimal) : List Char := Nat.toDigits 10 d.digits

/-- The decimal exponent of the leading digit. -/
def leading (d : Decimal) : Int := d.exponent + d.digitChars.length - 1

end Decimal

end Workflows

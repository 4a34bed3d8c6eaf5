import DialectSql.Number.Binary64

/-!
# The shortest decimal of a floating-point number

Among the decimals that read back as a given finite number, `Binary64.shortest` takes the ones with
the fewest digits and of these the nearest to the number; of two equally near ones it takes the
larger. All comparisons are between natural numbers, so nothing is rounded.

The coarsest grid of powers of ten with a point that reads back holds the decimals with the fewest
digits, and if it has such a point then one of the two neighbours of the number on it is such a
point (`Grid.nearest?`).

`Binary64.text` writes the decimal positionally: never an exponent, a point only before decimal
places, and a minus sign in front of a negative number, zero included.
-/

set_option autoImplicit false

namespace DialectSql

/-- A decimal `digits · 10^exponent`. -/
structure Decimal where
  digits : Nat
  exponent : Int
deriving DecidableEq, Repr

/-- The decimal numeral without an exponent. -/
def Decimal.positional (d : Decimal) : String :=
  if 0 ≤ d.exponent then
    String.ofList (Nat.toDigits 10 d.digits ++ List.replicate d.exponent.toNat '0')
  else
    let places := (-d.exponent).toNat
    let ds := (Nat.toDigits 10 d.digits).leftpad (places + 1) '0'
    String.ofList (ds.take (ds.length - places) ++ '.' :: ds.drop (ds.length - places))

/-- The reals that round to one number, seen from a grid of decimals. The reals are measured in
quarters of the unit of the number's significand; `width` such quarters make `scale` steps of the
grid. The ends belong to the interval when the significand is even. -/
structure Grid where
  low : Nat
  centre : Nat
  high : Nat
  closed : Bool
  width : Nat
  scale : Nat

namespace Grid

/-- Whether the `c`-th point of the grid lies in the interval. -/
def contains (g : Grid) (c : Nat) : Bool :=
  if g.closed then g.low * g.width ≤ c * g.scale && c * g.scale ≤ g.high * g.width
  else g.low * g.width < c * g.scale && c * g.scale < g.high * g.width

/-- The last point of the grid that is not above the centre. -/
def below (g : Grid) : Nat := g.centre * g.width / g.scale

/-- Whether the point below the centre is strictly nearer to it than the next one. -/
def belowIsNearer (g : Grid) : Bool :=
  2 * (g.centre * g.width) < (2 * g.below + 1) * g.scale

/-- The point in the interval that is nearest to the centre, the larger one of two. -/
def nearest? (g : Grid) : Option Nat :=
  match g.contains g.below, g.contains (g.below + 1) with
  | true, true => some (if g.belowIsNearer then g.below else g.below + 1)
  | true, false => some g.below
  | false, true => some (g.below + 1)
  | false, false => none

end Grid

namespace Binary64

/-- The reals that round to `x`, on the grid of the multiples of `10^e`. Below a power of two the
next number is half as far away as above it, unless it is subnormal. -/
def grid (x : Binary64) (e : Int) : Grid :=
  let m := x.significand
  let q := x.exponent - 2
  { low := 4 * m - (if m = hiddenBit && x.exponentField != 1 then 1 else 2)
    centre := 4 * m
    high := 4 * m + 2
    closed := m % 2 == 0
    width := Nat.pow 2 q.toNat * Nat.pow 10 (-e).toNat
    scale := Nat.pow 2 (-q).toNat * Nat.pow 10 e.toNat }

/-- The exponent of a power of ten that no number rounding to `x` reaches: `1233 / 4096` is just
below the logarithm of two to the base ten. -/
def topExponent (x : Binary64) : Int :=
  (x.significand.log2 + x.exponent + 2) * 1233 / 4096 + 1

/-- The exact decimal expansion of the magnitude. -/
def exactDecimal (x : Binary64) : Decimal :=
  if 0 ≤ x.exponent then ⟨x.significand * Nat.pow 2 x.exponent.toNat, 0⟩
  else ⟨x.significand * Nat.pow 5 (-x.exponent).toNat, x.exponent⟩

/-- The shortest decimal that reads back as the magnitude of a finite number other than zero. At
most seventeen digits are needed, so the finest of the twenty-four grids below the top one always
has a point that reads back. -/
def shortest (x : Binary64) : Decimal :=
  ((List.range 24).findSome? fun (i : Nat) =>
    let e := x.topExponent - i
    (x.grid e).nearest?.map (⟨·, e⟩)).getD x.exactDecimal

/-- The text of a number: the shortest decimal that reads back, without an exponent. -/
def text (x : Binary64) : String :=
  if x.isNaN then "NaN"
  else
    let magnitude :=
      if !x.isFinite then "inf"
      else if x.significand = 0 then "0"
      else x.shortest.positional
    if x.isNegative then "-" ++ magnitude else magnitude

end Binary64

end DialectSql

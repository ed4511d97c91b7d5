import BlockScribe.Number.Binary64

/-! # Shortest decimals

The decimal with the fewest digits that reads back as a given double, and among those the
nearest to it. A decimal reads back when it lies in the interval of numbers that round to the
double; the ends belong to it when the mantissa is even. Grids of one digit, two digits and so
on are tried in turn: a grid has a point in the interval exactly when one of the value's two
neighbours on the grid lies there, and seventeen digits always suffice.
-/

namespace BlockScribe

/-- The number `coefficient * 10 ^ exponent`. -/
structure Decimal where
  coefficient : Nat
  exponent : Int
deriving DecidableEq, Repr

namespace Shortest

/-- Multiples of `2 ^ two`, measured in units of `10 ^ ten`: factor and divisor. -/
def units (two ten : Int) : Nat × Nat :=
  (Nat.pow 2 two.toNat * Nat.pow 10 (-ten).toNat, Nat.pow 2 (-two).toNat * Nat.pow 10 ten.toNat)

/-- The exponent of the first decimal digit of `mantissa * 2 ^ exponent`. -/
def firstExponent (mantissa : Nat) (exponent : Int) : Int :=
  let guess : Int := ((mantissa.log2 + exponent) * 30103) / 100000
  let low := units exponent guess
  let high := units exponent (guess + 1)
  if mantissa * low.1 < low.2 then guess - 1
  else if high.2 ≤ mantissa * high.1 then guess + 1
  else guess

/-- A number in quarters of its unit in the last place, with the ends of the interval of numbers
that round to it. -/
structure Window where
  low : Nat
  value : Nat
  high : Nat
  closed : Bool

/-- The interval around a mantissa. Below a power of two the neighbour is half as far. -/
def Window.around (mantissa : Nat) (exponent : Int) : Window where
  low := if mantissa = Binary64.leastFull ∧ Binary64.minExponent < exponent then 4 * mantissa - 1
    else 4 * mantissa - 2
  value := 4 * mantissa
  high := 4 * mantissa + 2
  closed := mantissa % 2 = 0

/-- Whether the grid point `point` lies in the window, given the units of the grid. -/
def Window.holds (w : Window) (factor divisor point : Nat) : Bool :=
  if w.closed then w.low * factor ≤ point * divisor && point * divisor ≤ w.high * factor
  else w.low * factor < point * divisor && point * divisor < w.high * factor

/-- The point of the grid of `10 ^ ten` in the window that is nearest to the value, the even one
of two that are equally near. -/
def Window.nearest? (w : Window) (two ten : Int) : Option Nat :=
  let unit := units two ten
  let value := w.value * unit.1
  let below := value / unit.2
  let gap := 2 * (value % unit.2)
  match w.holds unit.1 unit.2 below, w.holds unit.1 unit.2 (below + 1) with
  | true, true =>
    if gap < unit.2 || (gap == unit.2 && below % 2 == 0) then some below else some (below + 1)
  | true, false => some below
  | false, true => some (below + 1)
  | false, false => none

/-- Tries the grids from `places` digits on, `more` of them. -/
def search (w : Window) (two first : Int) : (more : Nat) → (places : Nat) → Decimal
  | 0, places => ⟨w.value, first - places⟩
  | more + 1, places =>
    let ten := first - (places - 1 : Int)
    match w.nearest? two ten with
    | some point => ⟨point, ten⟩
    | none => search w two first more (places + 1)

end Shortest

/-- Without its trailing zeros. -/
def Decimal.strip (coefficient : Nat) (exponent : Int) : Decimal :=
  if coefficient ≠ 0 ∧ coefficient % 10 = 0 then Decimal.strip (coefficient / 10) (exponent + 1)
  else ⟨coefficient, exponent⟩
termination_by coefficient
decreasing_by omega

/-- The shortest decimal for the absolute value of a double. -/
def Binary64.shortest (x : Binary64) : Decimal :=
  if x.mantissa = 0 then ⟨0, 0⟩
  else
    let first := Shortest.firstExponent x.mantissa x.exponent
    let found := Shortest.search (Shortest.Window.around x.mantissa x.exponent) (x.exponent - 2)
      first 17 1
    Decimal.strip found.coefficient found.exponent

end BlockScribe

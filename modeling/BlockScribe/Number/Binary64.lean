/-! # Finite binary numbers of double precision

A finite double is a sign, a whole mantissa below `2 ^ 53` and a power of two. All arithmetic
here is exact on natural numbers and rounds once at the end, to the nearest double and to the
even mantissa when two are equally near.

* `ofQuotient` rounds a quotient of natural numbers.
* `ofDecimal` reads a decimal in two roundings: the coefficient is rounded first, then the
  product or quotient with the double nearest to a power of ten. A coefficient of up to 64 bits
  and a moderate power thus reads as the nearest double or a close neighbour of it.
-/

namespace BlockScribe

/-- The number `mantissa * 2 ^ exponent`, negated when `negative` holds. Zero has a sign, too. -/
structure Binary64 where
  negative : Bool
  mantissa : Nat
  exponent : Int
deriving DecidableEq, Repr

namespace Binary64

/-- The exponent of the finest doubles. -/
def minExponent : Int := -1074

/-- The exponent of the coarsest doubles. -/
def maxExponent : Int := 971

/-- The least number of 53 bits, `2 ^ 52`. -/
def leastFull : Nat := 4503599627370496

/-- Zero with a sign. -/
def zero (negative : Bool) : Binary64 := ⟨negative, 0, minExponent⟩

/-- The quotient `num / den` times `2 ^ power`, as a quotient. -/
def shift (num den : Nat) (power : Int) : Nat × Nat :=
  if 0 ≤ power then (num * Nat.pow 2 power.toNat, den)
  else (num, den * Nat.pow 2 (-power).toNat)

/-- The whole number nearest to `num / den`, the even one of two that are equally near. -/
def roundDiv (num den : Nat) : Nat :=
  let quotient := num / den
  let twice := 2 * (num % den)
  if twice < den then quotient
  else if den < twice then quotient + 1
  else if quotient % 2 = 0 then quotient
  else quotient + 1

/-- The exponent at which `num / den` has a mantissa of 53 bits, but never below the finest. -/
def unitExponent (num den : Nat) : Int :=
  let guess : Int := num.log2 - den.log2 - 53
  let scaled := shift num den (-guess)
  max (if scaled.1 / scaled.2 < 2 * leastFull then guess else guess + 1) minExponent

/-- The double nearest to `num / den`, or nothing when it lies beyond the finite ones. -/
def ofQuotient (negative : Bool) (num den : Nat) : Option Binary64 :=
  if num = 0 then some (zero negative)
  else
    let unit := unitExponent num den
    let scaled := shift num den (-unit)
    let mantissa := roundDiv scaled.1 scaled.2
    let rounded : Binary64 :=
      if mantissa = 2 * leastFull then ⟨negative, leastFull, unit + 1⟩
      else ⟨negative, mantissa, unit⟩
    if rounded.exponent ≤ maxExponent then some rounded else none

/-- The absolute value, as a quotient. -/
def magnitude (x : Binary64) : Nat × Nat := shift x.mantissa 1 x.exponent

/-- The rounded product. -/
def mul (x y : Binary64) : Option Binary64 :=
  ofQuotient (x.negative != y.negative) (x.magnitude.1 * y.magnitude.1)
    (x.magnitude.2 * y.magnitude.2)

/-- The rounded quotient, for a divisor other than zero. -/
def div (x y : Binary64) : Option Binary64 :=
  ofQuotient (x.negative != y.negative) (x.magnitude.1 * y.magnitude.2)
    (x.magnitude.2 * y.magnitude.1)

/-- The greatest power of ten among the finite doubles. -/
def maxTenPower : Nat := 308

/-- The double nearest to a power of ten. -/
def tenPower (power : Nat) : Option Binary64 := ofQuotient false (Nat.pow 10 power) 1

/-- Divided by a power of ten. -/
def divTen (x : Binary64) (power : Nat) : Option Binary64 := (tenPower power).bind x.div

/-- Times a power of ten, for a number of at most 64 bits. A power below the table is taken in
two steps; below two such steps nothing but zero is left. -/
def scaleTen (x : Binary64) (power : Int) : Option Binary64 :=
  if x.mantissa = 0 then some x
  else if (maxTenPower : Int) < power then none
  else if 0 ≤ power then (tenPower power.toNat).bind x.mul
  else
    let down := (-power).toNat
    if down ≤ maxTenPower then x.divTen down
    else if down ≤ 2 * maxTenPower then
      (x.divTen maxTenPower).bind fun y => y.divTen (down - maxTenPower)
    else some (zero x.negative)

/-- Reads `coefficient * 10 ^ power`, or gives nothing when that lies beyond the finite
doubles. -/
def ofDecimal (negative : Bool) (coefficient : Nat) (power : Int) : Option Binary64 := do
  let x ← ofQuotient false coefficient 1
  let y ← x.scaleTen power
  return { y with negative := negative }

end Binary64

end BlockScribe

import BlockScribe.Number.Shortest

/-! # Numbers of a JSON document

A number written without point and exponent stays a whole number as long as it fits a signed or
an unsigned 64-bit word; every other number, and negative zero, becomes a double. Whole numbers
print in decimal. A double prints with the fewest digits that read back, always recognisable as
one: with a decimal point while its first digit is not too far from it, else with an exponent.
-/

namespace BlockScribe.Json

/-- A number of a document. -/
inductive Number where
  | whole (value : Int)
  | real (value : Binary64)
deriving DecidableEq, Repr

namespace Number

/-- The greatest unsigned 64-bit word. -/
def maxWord : Nat := 0xFFFFFFFFFFFFFFFF

/-- The greatest signed 64-bit word. -/
def maxSigned : Nat := 0x7FFFFFFFFFFFFFFF

/-- The whole number, when a signed 64-bit word holds it. -/
def toInt64? : Number → Option Int
  | whole value => if -(maxSigned + 1 : Int) ≤ value ∧ value ≤ maxSigned then some value else none
  | real _ => none

/-- The value of a decimal digit. -/
def digitValue (c : Char) : Nat := c.toNat - '0'.toNat

/-- Takes decimal digits into a coefficient as long as it fits a word; gives the coefficient and
the digits that are left over. -/
def absorb (coefficient : Nat) : List Char → Nat × List Char
  | [] => (coefficient, [])
  | c :: rest =>
    let next := coefficient * 10 + digitValue c
    if next ≤ maxWord then absorb next rest else (coefficient, c :: rest)

/-- The number with the given digits before and behind the point and the given exponent. What
does not fit the coefficient only counts with its place. Nothing when the number lies beyond
the finite doubles. -/
def ofParts (negative : Bool) (whole fraction : List Char) (exponent : Int) : Option Number :=
  let (coefficient, extra) := absorb 0 whole
  let (coefficient, ignored) := absorb coefficient fraction
  let power := exponent + extra.length - (fraction.length - ignored.length : Nat)
  (Binary64.ofDecimal negative coefficient power).map real

/-- The number with the given digits and neither point nor exponent. -/
def ofDigits (negative : Bool) (digits : List Char) : Option Number :=
  let (coefficient, extra) := absorb 0 digits
  if extra.isEmpty ∧ ¬ negative then some (whole coefficient)
  else if extra.isEmpty ∧ 0 < coefficient ∧ coefficient ≤ maxSigned + 1 then
    some (whole (-coefficient))
  else ofParts negative digits [] 0

/-- Where a double is written with a decimal point alone: by the exponent of its first digit. -/
structure PlainRange where
  least : Int
  greatest : Int

/-- Doubles from `0.00001` up to, not including, ten to the sixteenth are written plainly. -/
def plainRange : PlainRange := ⟨-5, 15⟩

/-- The digits of a decimal with a point behind the first `whole` of them, zeros where digits
are missing, and at least one digit on both sides. -/
def pointed (digits : List Char) (whole : Int) : List Char :=
  if whole ≤ 0 then '0' :: '.' :: (List.replicate (-whole).toNat '0' ++ digits)
  else
    let before := digits.take whole.toNat ++ List.replicate (whole.toNat - digits.length) '0'
    let behind := digits.drop whole.toNat
    before ++ '.' :: (if behind.isEmpty then ['0'] else behind)

/-- The digits of a decimal with a point behind the first one, if there are more, and the
exponent of that digit with its sign. -/
def exponential (digits : List Char) (exponent : Int) : List Char :=
  let mantissa := match digits with
    | [] => []
    | [d] => [d]
    | d :: rest => d :: '.' :: rest
  let sign := if exponent < 0 then '-' else '+'
  mantissa ++ 'e' :: sign :: Nat.toDigits 10 exponent.natAbs

/-- The text of a double's absolute value. -/
def realChars (x : Binary64) : List Char :=
  let decimal := x.shortest
  let digits := Nat.toDigits 10 decimal.coefficient
  let first := decimal.exponent + (digits.length - 1 : Nat)
  if plainRange.least ≤ first ∧ first ≤ plainRange.greatest then pointed digits (first + 1)
  else exponential digits first

/-- The characters of a number. -/
def chars : Number → List Char
  | whole value =>
    if value < 0 then '-' :: Nat.toDigits 10 value.natAbs else Nat.toDigits 10 value.natAbs
  | real x => if x.negative then '-' :: realChars x else realChars x

/-- The text of a number. -/
def text (n : Number) : String := String.ofList n.chars

end Number

end BlockScribe.Json

import BlockScribe.Text.Blank
import BlockScribe.Text.Quoted

/-! # Numerals

A numeric literal of a project is free text. It stands bare in a script when it is a decimal
numeral: an optional sign, digits with an optional point among or in front of them, and an
optional exponent. An empty field counts as zero. Anything else (`inf`, `0x10`, a word) is
quoted.
-/

namespace BlockScribe.Numeral

/-- What follows an optional sign. -/
def dropSign : List Char → List Char
  | [] => []
  | c :: rest => if c = '+' ∨ c = '-' then rest else c :: rest

/-- Whether the characters are one or more decimal digits. -/
def isDigits (cs : List Char) : Bool := !cs.isEmpty && cs.all Char.isDigit

/-- Whether the characters are an exponent, or nothing at all. -/
def isExponent : List Char → Bool
  | [] => true
  | c :: rest => (c == 'e' || c == 'E') && isDigits (dropSign rest)

/-- Whether the characters are a decimal numeral without a sign. -/
def isUnsigned (cs : List Char) : Bool :=
  let whole := cs.takeWhile Char.isDigit
  match cs.dropWhile Char.isDigit with
  | '.' :: rest =>
    (!whole.isEmpty || !(rest.takeWhile Char.isDigit).isEmpty) &&
      isExponent (rest.dropWhile Char.isDigit)
  | rest => !whole.isEmpty && isExponent rest

/-- Whether the characters are a decimal numeral. -/
def isDecimal (cs : List Char) : Bool := isUnsigned (dropSign cs)

/-- Writes the text of a numeric literal. -/
def render (raw : String) : String :=
  let trimmed := trimChars raw.toList
  if trimmed.isEmpty then "0"
  else if isDecimal trimmed then String.ofList trimmed
  else Quoted.quote raw

end BlockScribe.Numeral

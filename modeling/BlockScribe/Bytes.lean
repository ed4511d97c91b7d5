/-! # Sequences of bytes

Numbers in a sequence of bytes stand with the least significant byte first, and bytes are written
as two hexadecimal digits.
-/

namespace BlockScribe.Bytes

/-- The byte at an index. -/
def byte? (bytes : ByteArray) (i : Nat) : Option UInt8 :=
  if h : i < bytes.size then some (bytes.get i h) else none

/-- The number of so many bytes at an index. -/
def number? (bytes : ByteArray) (i : Nat) : (count : Nat) → Option Nat
  | 0 => some 0
  | count + 1 => do
    let low ← byte? bytes i
    let high ← number? bytes (i + 1) count
    return low.toNat + 256 * high

/-- The so many least significant bytes of a number. -/
def ofNumber (value : Nat) : (count : Nat) → List UInt8
  | 0 => []
  | count + 1 => UInt8.ofNat value :: ofNumber (value / 256) count

/-- A byte in hexadecimal digits. -/
def hexByte (byte : UInt8) : List Char :=
  [Nat.digitChar (byte.toNat / 16), Nat.digitChar (byte.toNat % 16)]

/-- Bytes in hexadecimal digits. -/
def hex (bytes : List UInt8) : String := String.ofList (bytes.flatMap hexByte)

end BlockScribe.Bytes

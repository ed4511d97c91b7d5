/-! # CRC-32

The cyclic redundancy check that archives keep for each entry: the remainder of the bits, least
significant first, by a polynomial of degree 32, started from and complemented by all ones.
-/

namespace BlockScribe.Checksum

/-- The polynomial, its bits reversed and the leading one left out. -/
def crcPolynomial : UInt32 := 0xEDB88320

/-- Divides by one more bit. -/
def crcShift (crc : UInt32) : UInt32 :=
  if crc &&& 1 = 1 then (crc >>> 1) ^^^ crcPolynomial else crc >>> 1

/-- Takes in a byte. -/
def crcByte (crc : UInt32) (byte : UInt8) : UInt32 :=
  Nat.repeat crcShift 8 (crc ^^^ byte.toUInt32)

/-- The check of a sequence of bytes. -/
def crc32 (bytes : ByteArray) : UInt32 :=
  bytes.foldl crcByte 0xFFFFFFFF ^^^ 0xFFFFFFFF

end BlockScribe.Checksum

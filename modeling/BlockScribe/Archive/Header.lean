import BlockScribe.Archive.Deflate
import BlockScribe.Archive.Mark
import BlockScribe.Checksum.Crc32
import BlockScribe.Error

/-! # Headers

The directory of an archive has a header for each entry. It tells the entry's name and how its
data is kept: where, how long, under which method and with which checksum. The data itself stands
behind a second header, of which only the length matters.

An entry can be unpacked if its data is there, is not encrypted, and is kept as it is or deflated
(`Header.packed?`).
-/

namespace BlockScribe.Archive

/-- What the directory says of an entry. -/
structure Header where
  name : String
  /-- The name as it is written. -/
  rawName : ByteArray
  comment : String
  /-- Whether the data is encrypted in the simple way. -/
  encrypted : Bool
  /-- Whether the data is encrypted in the strong way. -/
  locked : Bool
  /-- How the data is kept: 0 for as it is, 8 for deflated. -/
  method : Nat
  /-- The checksum of the content. -/
  crc : Nat
  packedSize : Nat
  unpackedSize : Nat
  /-- Where the header in front of the data stands. -/
  offset : Nat

/-- The data of an entry as it is kept, and the checksum of its content. -/
structure Packed where
  deflated : Bool
  crc : Nat
  data : ByteArray

/-- Where the data starts whose header stands at a position. -/
def dataStart? (bytes : ByteArray) (position : Nat) : Option Nat := do
  guard (Mark.dataHeader.standsAt bytes position)
  let nameSize ← Bytes.number? bytes (position + 26) 2
  let extraSize ← Bytes.number? bytes (position + 28) 2
  return position + 30 + nameSize + extraSize

/-- The data of an entry, if it can be unpacked. Data ends with the archive. -/
def Header.packed? (bytes : ByteArray) (header : Header) : Option Packed := do
  guard (!header.encrypted && !header.locked && (header.method == 0 || header.method == 8))
  let start ← dataStart? bytes header.offset
  let stop := min bytes.size (start + header.packedSize)
  return ⟨header.method == 8, header.crc, bytes.extract start stop⟩

/-- The content of an entry. Deflated data that breaks the rules is refused, and a content with
another checksum than stated is invalid. -/
def Packed.content (packed : Packed) : Except FileFault ByteArray :=
  match if packed.deflated then Deflate.inflate packed.data else some packed.data with
  | none => .error .refused
  | some content =>
    if (Checksum.crc32 content).toNat = packed.crc then .ok content else .error .invalid

end BlockScribe.Archive

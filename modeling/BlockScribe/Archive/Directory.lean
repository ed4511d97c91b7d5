import BlockScribe.Archive.EndRecord
import BlockScribe.Archive.EntryName
import BlockScribe.Archive.ExtraFields
import BlockScribe.Dict

/-! # Archives

An archive ends in a directory: a header for each entry, and then a record that says where the
headers start and how many there are. Something may stand behind the record, so it is looked for
from the back, and a record whose directory does not hold together is passed over for one further
in front (`entries?`).

The data of all entries is in front of the directory. Whether it is what the directory says of it
shows only when an entry is unpacked.
-/

namespace BlockScribe.Archive

/-- An entry: its name, and its data if it can be unpacked. -/
structure Entry where
  name : String
  packed : Option Packed

/-- The entries of an archive by name. A name given twice keeps its first place and its last
entry. -/
abbrev Entries := Dict String Entry

/-- Reads a text in UTF-8 or on the old code page. -/
def readText (isUtf8 : Bool) (bytes : ByteArray) : String :=
  if isUtf8 then utf8 bytes.toList else codePage bytes.toList

/-- The header at a position, with positions shifted by `shift`, and where the next header
stands. -/
def Header.read? (bytes : ByteArray) (shift position : Nat) : Option (Header × Nat) := do
  guard (Mark.directoryHeader.standsAt bytes position)
  let flags ← Bytes.number? bytes (position + 8) 2
  let method ← Bytes.number? bytes (position + 10) 2
  let crc ← Bytes.number? bytes (position + 16) 4
  let packedSize ← Bytes.number? bytes (position + 20) 4
  let unpackedSize ← Bytes.number? bytes (position + 24) 4
  let nameSize ← Bytes.number? bytes (position + 28) 2
  let extraSize ← Bytes.number? bytes (position + 30) 2
  let commentSize ← Bytes.number? bytes (position + 32) 2
  let offset ← Bytes.number? bytes (position + 42) 4
  let nameEnd := position + headerSize + nameSize
  let extraEnd := nameEnd + extraSize
  let next := extraEnd + commentSize
  guard (next ≤ bytes.size)
  let rawName := bytes.extract (position + headerSize) nameEnd
  let isUtf8 := flags.testBit 11
  let header : Header := {
    name := readText isUtf8 rawName
    rawName := rawName
    comment := readText isUtf8 (bytes.extract extraEnd next)
    encrypted := flags.testBit 0
    locked := false
    method := method
    crc := crc
    packedSize := packedSize
    unpackedSize := unpackedSize
    offset := offset }
  let amended ← header.amend? (bytes.extract nameEnd extraEnd)
  return ({ amended with offset := amended.offset + shift }, next)

/-- So many headers from a position on, with positions shifted by `shift`. -/
def readHeaders? (bytes : ByteArray) (shift : Nat) :
    (position count : Nat) → Option (List Header)
  | _, 0 => some []
  | position, count + 1 => do
    let (header, next) ← Header.read? bytes shift position
    let rest ← readHeaders? bytes shift next count
    return header :: rest

/-- The headers of a directory. All data starts in front of it. -/
def Extent.headers? (bytes : ByteArray) (extent : Extent) : Option (List Header) := do
  let headers ← readHeaders? bytes extent.shift extent.start extent.count
  guard (headers.all fun header => header.offset < extent.start)
  return headers

/-- The entry of a header. -/
def Header.entry (bytes : ByteArray) (header : Header) : Entry :=
  ⟨header.name, header.packed? bytes⟩

/-- The entries of the directory of the record at a position. -/
def entriesAt? (bytes : ByteArray) (position : Nat) : Option Entries := do
  let record ← EndRecord.read? bytes position
  let extent ← record.extent? bytes
  let headers ← extent.headers? bytes
  return Dict.ofList (headers.map fun header => (header.name, header.entry bytes))

/-- The entries of an archive, if it is one. -/
def entries? (bytes : ByteArray) : Option Entries := lastSome? (entriesAt? bytes) bytes.size

end BlockScribe.Archive

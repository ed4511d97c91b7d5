import BlockScribe.Archive.Mark

/-! # The end of an archive

An archive ends in a record that says where its directory starts and how many headers it has.
Where a number does not fit, it is in a wide record further in front, and a pointer right in front
of the end record says where that one starts.

Something may stand in front of an archive. Then all positions are shifted, and by how much is
told by the first record found at or behind the place where it should be.
-/

namespace BlockScribe.Archive

/-! ## Searching -/

/-- The answer for the last of the numbers below a bound that has one. -/
def lastSome? {α : Type} (f : Nat → Option α) : Nat → Option α
  | 0 => none
  | n + 1 => (f n).orElse fun _ => lastSome? f n

/-- The answer for the first of `count` numbers from `start` on that has one. -/
def firstSome? {α : Type} (f : Nat → Option α) (start : Nat) : (count : Nat) → Option α
  | 0 => none
  | count + 1 => (f start).orElse fun _ => firstSome? f (start + 1) count

/-- The answer for the first number from `start` on and below `stop` that has one. -/
def firstSomeBelow? {α : Type} (f : Nat → Option α) (start stop : Nat) : Option α :=
  firstSome? f start (stop - start)

/-! ## Records -/

/-- What the record at the end of an archive says. -/
structure EndRecord where
  position : Nat
  disk : Nat
  directoryDisk : Nat
  entriesHere : Nat
  entries : Nat
  directoryOffset : Nat

/-- The record at a position. It ends in a comment, which must be there. -/
def EndRecord.read? (bytes : ByteArray) (position : Nat) : Option EndRecord := do
  guard (Mark.endRecord.standsAt bytes position)
  let disk ← Bytes.number? bytes (position + 4) 2
  let directoryDisk ← Bytes.number? bytes (position + 6) 2
  let entriesHere ← Bytes.number? bytes (position + 8) 2
  let entries ← Bytes.number? bytes (position + 10) 2
  let directoryOffset ← Bytes.number? bytes (position + 16) 4
  let commentSize ← Bytes.number? bytes (position + 20) 2
  guard (position + 22 + commentSize ≤ bytes.size)
  return ⟨position, disk, directoryDisk, entriesHere, entries, directoryOffset⟩

/-- Where a wide record should start, by what stands in front of the end record. -/
structure WidePointer where
  position : Nat
  directoryDisk : Nat
  recordOffset : Nat
  disks : Nat

/-- The pointer to a wide record, if there is one and a number of the end record has the greatest
value that fits. -/
def EndRecord.pointer? (bytes : ByteArray) (r : EndRecord) : Option WidePointer := do
  guard (r.entries == 0xFFFF || r.directoryOffset == 0xFFFFFFFF)
  guard (20 ≤ r.position)
  let position := r.position - 20
  guard (Mark.widePointer.standsAt bytes position)
  let directoryDisk ← Bytes.number? bytes (position + 4) 4
  let recordOffset ← Bytes.number? bytes (position + 8) 8
  let disks ← Bytes.number? bytes (position + 16) 4
  return ⟨position, directoryDisk, recordOffset, disks⟩

/-- What a wide record says. -/
structure WideRecord where
  position : Nat
  madeBy : Nat
  neededBy : Nat
  disk : Nat
  directoryDisk : Nat
  entriesHere : Nat
  entries : Nat
  directoryOffset : Nat

/-- The least size of a directory header. -/
def headerSize : Nat := 46

/-- The wide record at a position. It reaches up to its pointer, names the same disk, and has room
in front of it for a directory with so many headers. -/
def WideRecord.read? (bytes : ByteArray) (pointer : WidePointer) (position : Nat) :
    Option WideRecord := do
  guard (Mark.wideRecord.standsAt bytes position)
  let size ← Bytes.number? bytes (position + 4) 8
  let madeBy ← Bytes.number? bytes (position + 12) 2
  let neededBy ← Bytes.number? bytes (position + 14) 2
  let disk ← Bytes.number? bytes (position + 16) 4
  let directoryDisk ← Bytes.number? bytes (position + 20) 4
  let entriesHere ← Bytes.number? bytes (position + 24) 8
  let entries ← Bytes.number? bytes (position + 32) 8
  let directoryOffset ← Bytes.number? bytes (position + 48) 8
  guard (44 ≤ size && position + 12 + size == pointer.position)
  guard (directoryDisk == pointer.directoryDisk)
  guard (directoryOffset + headerSize * entries ≤ position)
  return ⟨position, madeBy, neededBy, disk, directoryDisk, entriesHere, entries, directoryOffset⟩

/-! ## Where the directory is -/

/-- Where a directory starts, how far positions in it are shifted, and how many headers it has. -/
structure Extent where
  start : Nat
  shift : Nat
  count : Nat

/-- The directory of a wide record, which must be on the one disk that there is. -/
def WidePointer.extent? (bytes : ByteArray) (pointer : WidePointer) : Option Extent := do
  guard (pointer.disks ≤ 1)
  let record ← firstSomeBelow? (WideRecord.read? bytes pointer) pointer.recordOffset
    pointer.position
  guard (record.entriesHere ≤ record.entries)
  guard (record.neededBy ≤ record.madeBy)
  guard (record.disk = record.directoryDisk)
  let shift := record.position - pointer.recordOffset
  return ⟨record.directoryOffset + shift, shift, record.entries⟩

/-- Where the directory of an end record starts that has no wide one. An archive without entries
has an empty directory in front of its record. -/
def EndRecord.start? (bytes : ByteArray) (r : EndRecord) : Option Nat :=
  if r.entries = 0 then some (max r.directoryOffset r.position)
  else
    let header? (position : Nat) : Option Nat :=
      if Mark.directoryHeader.standsAt bytes position then some position else none
    firstSomeBelow? header? r.directoryOffset r.position

/-- The directory of an end record. -/
def EndRecord.extent? (bytes : ByteArray) (r : EndRecord) : Option Extent :=
  match r.pointer? bytes with
  | some pointer => pointer.extent? bytes
  | none => do
    let start ← r.start? bytes
    guard (r.disk = r.directoryDisk)
    return ⟨start, start - r.directoryOffset, r.entriesHere⟩

end BlockScribe.Archive

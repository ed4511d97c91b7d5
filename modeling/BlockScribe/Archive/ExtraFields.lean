import BlockScribe.Archive.Header

/-! # Extra fields

Behind the name in a directory header stand extra fields: a kind, a size, and so many bytes. Some
kinds amend the header (`Header.amend?`): numbers that need more than four bytes, a name or a
comment in UTF-8 for the one that is written, and strong encryption. A field of a known kind must
be well formed. All other fields are passed over.

Fields may be cut off at the end of the extra bytes. What was read of them up to there counts.
-/

namespace BlockScribe.Archive

/-- Why the reading of extra fields stops. -/
inductive ExtraStop where
  /-- The bytes have come to an end. -/
  | ended
  /-- A field is not well formed. -/
  | malformed
deriving DecidableEq, Repr

/-- The extra bytes of a header, how many of them are read, and the header with what was amended
up to there. -/
structure Amending where
  extra : ByteArray
  position : Nat
  header : Header

/-- A step of reading extra fields. -/
abbrev Amend (α : Type) := EStateM ExtraStop Amending α

namespace Amend

/-- Takes so many bytes. -/
def take (count : Nat) : Amend ByteArray := fun s =>
  if s.position + count ≤ s.extra.size then
    .ok (s.extra.extract s.position (s.position + count)) { s with position := s.position + count }
  else .error .ended s

/-- Takes a number of so many bytes. -/
def number (count : Nat) : Amend Nat := do
  let bytes ← take count
  return (Bytes.number? bytes 0 count).getD 0

/-- Passes over so many bytes. -/
def skip (count : Nat) : Amend Unit := do
  let _ ← take count

/-- Insists on a rule. -/
def insist (rule : Bool) : Amend Unit := if rule then pure () else throw .malformed

/-- Changes the header. -/
def change (f : Header → Header) : Amend Unit := modify fun s => { s with header := f s.header }

/-! ## Wide numbers -/

/-- What a number of four bytes says if the true one is wider. -/
def tooWide : Nat := 0xFFFFFFFF

/-- Takes a wide number, if it is there; answers its size. -/
def wideNumber (isThere : Bool) (set : Nat → Header → Header) : Amend Nat := do
  if isThere then
    let value ← number 8
    change (set value)
    return 8
  else return 0

/-- Wide numbers: all three of them if there is room, else those that the header lacks. -/
def wideNumbers (size : Nat) : Amend Unit := do
  let header := (← get).header
  let isThere (value : Nat) : Bool := 24 ≤ size || value == tooWide
  let first ← wideNumber (isThere header.unpackedSize) fun n h => { h with unpackedSize := n }
  let second ← wideNumber (isThere header.packedSize) fun n h => { h with packedSize := n }
  let third ← wideNumber (isThere header.offset) fun n h => { h with offset := n }
  let used := first + second + third
  insist (used ≤ size)
  skip (size - used)

/-! ## Times -/

/-- Times in seconds. The first byte tells which of three are there; if there is room for one
only, it need not agree. -/
def times (size : Nat) : Amend Unit := do
  let kinds ← number 1
  let count := kinds % 2 + kinds / 2 % 2 + kinds / 4 % 2
  insist (kinds < 8 && (size == 5 || size == 1 + 4 * count))
  skip (size - 1)

/-- Three fine times, behind a tag and the size that belongs to it. -/
def fineTimes (size : Nat) : Amend Unit := do
  insist (size == 32)
  skip 4
  let tag ← number 2
  insist (tag == 1)
  let room ← number 2
  insist (room == 24)
  skip 24

/-! ## Texts -/

/-- Takes a text in UTF-8 that stands for another one, whose checksum is stated. -/
def textFor (size : Nat) (other : Header → ByteArray) : Amend (ByteArray × String) := do
  skip 1
  let crc ← number 4
  insist (5 ≤ size)
  let bytes ← take (size - 5)
  let header := (← get).header
  insist ((Checksum.crc32 (other header)).toNat == crc)
  match String.fromUTF8? bytes with
  | some text => return (bytes, text)
  | none => throw .malformed

/-- A name for the one that is written. -/
def name (size : Nat) : Amend Unit := do
  let (bytes, text) ← textFor size Header.rawName
  change fun h => { h with rawName := bytes, name := text }

/-- A comment for the one that is written. -/
def comment (size : Nat) : Amend Unit := do
  let (_, text) ← textFor size fun h => h.comment.toUTF8
  change fun h => { h with comment := text }

/-! ## Encryption -/

/-- Strong encryption: which edition of it, whose, how strong, and the method under it. -/
def encryption (size : Nat) : Amend Unit := do
  insist (size == 7)
  let edition ← number 2
  let vendor ← number 2
  let strength ← number 1
  let method ← number 2
  insist (vendor == 0x4541 && (edition == 1 || edition == 2) && 1 ≤ strength && strength ≤ 3)
  change fun h => { h with locked := true, method := method }

/-! ## All fields -/

/-- Reads a field. -/
def field : Amend Unit := do
  let kind ← number 2
  let size ← number 2
  if kind = 0x0001 then wideNumbers size
  else if kind = 0x000A then fineTimes size
  else if kind = 0x5455 then times size
  else if kind = 0x6375 then comment size
  else if kind = 0x7075 then name size
  else if kind = 0x9901 then encryption size
  else skip size

/-- Reads fields up to the end. Each takes a byte at least, so the number of bytes is a limit that
is never reached. -/
def fields : (limit : Nat) → Amend Unit
  | 0 => pure ()
  | limit + 1 => do
    let s ← get
    if s.position < s.extra.size then
      field
      fields limit

end Amend

/-- The method that says only that the data is strongly encrypted. -/
def lockedMethod : Nat := 99

/-- A header with its extra fields taken into account. Data that is strongly encrypted needs a
field that tells how. -/
def Header.amend? (header : Header) (extra : ByteArray) : Option Header :=
  let amended := match Amend.fields extra.size ⟨extra, 0, header⟩ with
    | .ok _ s => some s.header
    | .error .ended s => some s.header
    | .error .malformed _ => none
  amended.filter fun h => h.locked || h.method != lockedMethod

end BlockScribe.Archive

import BlockScribe.Bytes

/-! # Marks

Each record of an archive begins with a number of four bytes that tells its kind. What stands in
an archive is found by these marks.
-/

namespace BlockScribe.Archive

/-- The kinds of records. -/
inductive Mark where
  /-- In front of an entry's data. -/
  | dataHeader
  /-- In the directory, for each entry. -/
  | directoryHeader
  /-- At the end of an archive. -/
  | endRecord
  /-- In front of the end, for numbers that do not fit there. -/
  | wideRecord
  /-- Right in front of the end, for the place of a wide record. -/
  | widePointer
deriving DecidableEq, Repr

/-- The number that a record of a kind begins with. -/
def Mark.number : Mark → Nat
  | .dataHeader => 0x04034b50
  | .directoryHeader => 0x02014b50
  | .endRecord => 0x06054b50
  | .wideRecord => 0x06064b50
  | .widePointer => 0x07064b50

/-- Whether a mark stands at a position. -/
def Mark.standsAt (mark : Mark) (bytes : ByteArray) (position : Nat) : Bool :=
  Bytes.number? bytes position 4 == some mark.number

end BlockScribe.Archive

import BlockScribe.Bytes

/-! # Deflated data

Deflated data is a sequence of bits: blocks of bytes as they are, and blocks of symbols under a
prefix code. A symbol is a byte, the end of its block, or a length and a distance: a stretch that
stands a distance back in the window, which holds zeros in front of the data.

A code is given by the lengths of its code words; the words of one length are consecutive
numbers, in the order of their symbols. `inflate` answers the bytes that were packed. Data that
breaks the rules or stops in the middle has no answer.
-/

namespace BlockScribe.Deflate

/-- The packed bytes, the number of bits taken from them, and the bytes unpacked so far. -/
structure State where
  packed : ByteArray
  position : Nat
  unpacked : ByteArray

/-- A step of unpacking, which may fail. -/
abbrev Unpack (α : Type) := StateT State Option α

/-! ## Bits and bytes -/

/-- Takes the next bit; the least significant bit of a byte comes first. -/
def bit : Unpack Nat := fun s =>
  match Bytes.byte? s.packed (s.position / 8) with
  | some byte =>
    some ((byte.toNat >>> (s.position % 8)) % 2, { s with position := s.position + 1 })
  | none => none

/-- Takes a number of so many bits, the least significant first. -/
def bits : Nat → Unpack Nat
  | 0 => pure 0
  | count + 1 => do
    let low ← bit
    let high ← bits count
    return low + 2 * high

/-- Goes on to the next whole byte. -/
def align : Unpack Unit := modify fun s => { s with position := (s.position + 7) / 8 * 8 }

/-- Puts a byte at the end of what is unpacked. -/
def emit (byte : UInt8) : Unpack Unit := modify fun s => { s with unpacked := s.unpacked.push byte }

/-- The byte at a distance back from the end of what is unpacked. -/
def lookBack (unpacked : ByteArray) (distance : Nat) : UInt8 :=
  if distance ≤ unpacked.size then (Bytes.byte? unpacked (unpacked.size - distance)).getD 0 else 0

/-- Repeats so many bytes from a distance back. Bytes that were just put may be repeated, too. -/
def repeatBack (distance : Nat) : (count : Nat) → Unpack Unit
  | 0 => pure ()
  | count + 1 => do
    modify fun s => { s with unpacked := s.unpacked.push (lookBack s.unpacked distance) }
    repeatBack distance count

/-- Copies so many bytes as they are. -/
def copyBytes : (count : Nat) → Unpack Unit
  | 0 => pure ()
  | count + 1 => do
    let byte ← bits 8
    emit (UInt8.ofNat byte)
    copyBytes count

/-! ## Codes -/

/-- A prefix code. -/
structure Code where
  /-- How many code words there are of length 1, 2 and so on. -/
  counts : List Nat
  /-- The symbols in the order of their code words. -/
  symbols : Array Nat

/-- The longest code word. -/
def maxLength : Nat := 15

/-- The symbols whose code word has a given length. -/
def symbolsOfLength (lengths : List Nat) (length : Nat) : List Nat :=
  lengths.zipIdx.filterMap fun p => if p.1 = length then some p.2 else none

/-- The part of all bit sequences, in units of one longest word, that code words begin. -/
def coverage (counts : List Nat) : Nat :=
  counts.foldl (fun total count => 2 * total + count) 0

/-- The code with given lengths of code words; a symbol of length zero has none. Code words must
begin every bit sequence exactly once, unless there is but one word, of one bit, or none. -/
def Code.ofLengths? (lengths : List Nat) : Option Code :=
  let groups := (List.range maxLength).map fun i => symbolsOfLength lengths (i + 1)
  let counts := groups.map List.length
  let symbols := groups.flatten.toArray
  let isComplete := coverage counts = Nat.pow 2 maxLength
  if symbols.isEmpty || (symbols.size = 1 && counts.head? = some 1) || isComplete then
    some ⟨counts, symbols⟩
  else none

/-- Reads on in a code word. So far it is the number `word`; the first word of this length is
`first`, and `index` symbols have shorter words. -/
def Code.readFrom (symbols : Array Nat) (word first index : Nat) : List Nat → Unpack Nat
  | [] => failure
  | count :: rest => do
    let next := 2 * word + (← bit)
    if next < first + count then symbols[index + (next - first)]?
    else readFrom symbols next (2 * (first + count)) (index + count) rest

/-- Takes a symbol. -/
def Code.read (code : Code) : Unpack Nat := Code.readFrom code.symbols 0 0 0 code.counts

/-! ## Symbols -/

/-- The least length and the number of further bits of it, for each symbol of a length. -/
def lengthTable : Array (Nat × Nat) := #[
  (3, 0), (4, 0), (5, 0), (6, 0), (7, 0), (8, 0), (9, 0), (10, 0), (11, 1), (13, 1), (15, 1),
  (17, 1), (19, 2), (23, 2), (27, 2), (31, 2), (35, 3), (43, 3), (51, 3), (59, 3), (67, 4),
  (83, 4), (99, 4), (115, 4), (131, 5), (163, 5), (195, 5), (227, 5), (258, 0)]

/-- The least distance and the number of further bits of it, for each symbol of a distance. -/
def distanceTable : Array (Nat × Nat) := #[
  (1, 0), (2, 0), (3, 0), (4, 0), (5, 1), (7, 1), (9, 2), (13, 2), (17, 3), (25, 3), (33, 4),
  (49, 4), (65, 5), (97, 5), (129, 6), (193, 6), (257, 7), (385, 7), (513, 8), (769, 8),
  (1025, 9), (1537, 9), (2049, 10), (3073, 10), (4097, 11), (6145, 11), (8193, 12), (12289, 12),
  (16385, 13), (24577, 13)]

/-- Takes the further bits of a length or a distance. -/
def extended (table : Array (Nat × Nat)) (symbol : Nat) : Unpack Nat := do
  let (least, count) ← table[symbol]?
  let more ← bits count
  return least + more

/-- The symbol that ends a block. -/
def endOfBlock : Nat := 256

/-- Unpacks the symbols of a block. Each takes a bit at least, so the number of bits is a limit
that is never reached. -/
def symbolsOfBlock (literals distances : Code) : (limit : Nat) → Unpack Unit
  | 0 => failure
  | limit + 1 => do
    let symbol ← literals.read
    if symbol < endOfBlock then
      emit (UInt8.ofNat symbol)
      symbolsOfBlock literals distances limit
    else if symbol = endOfBlock then pure ()
    else
      let length ← extended lengthTable (symbol - (endOfBlock + 1))
      let distance ← extended distanceTable (← distances.read)
      repeatBack distance length
      symbolsOfBlock literals distances limit

/-! ## Blocks -/

/-- Unpacks a block of bytes as they are. Their number stands there twice, once complemented. -/
def rawBlock : Unpack Unit := do
  align
  let count ← bits 16
  let complement ← bits 16
  if count + complement = 0xFFFF then copyBytes count else failure

/-- The lengths of the code words for literals in a block without codes of its own. -/
def fixedLiteralLengths : List Nat :=
  List.replicate 144 8 ++ List.replicate 112 9 ++ List.replicate 24 7 ++ List.replicate 8 8

/-- The lengths of the code words for distances in a block without codes of its own. -/
def fixedDistanceLengths : List Nat := List.replicate 32 5

/-- The order in which the lengths of the code for lengths stand. -/
def lengthOrder : List Nat :=
  [16, 17, 18, 0, 8, 7, 9, 6, 10, 5, 11, 4, 12, 3, 13, 2, 14, 1, 15]

/-- Takes so many numbers of three bits. -/
def triples : (count : Nat) → Unpack (List Nat)
  | 0 => pure []
  | count + 1 => do
    let first ← bits 3
    let rest ← triples count
    return first :: rest

/-- Takes the lengths of code words up to a number of them. The lengths so far stand in reverse.
Runs repeat the last length or are zeros. -/
def codeLengths (code : Code) (wanted : Nat) : (limit : Nat) → List Nat → Unpack (List Nat)
  | 0, _ => failure
  | limit + 1, sofar => do
    if sofar.length = wanted then return sofar.reverse
    else if wanted < sofar.length then failure
    else
      let symbol ← code.read
      if symbol < 16 then codeLengths code wanted limit (symbol :: sofar)
      else if symbol = 16 then
        let last ← sofar.head?
        let more ← bits 2
        codeLengths code wanted limit (List.replicate (3 + more) last ++ sofar)
      else if symbol = 17 then
        let more ← bits 3
        codeLengths code wanted limit (List.replicate (3 + more) 0 ++ sofar)
      else
        let more ← bits 7
        codeLengths code wanted limit (List.replicate (11 + more) 0 ++ sofar)

/-- Takes the two codes of a block that has codes of its own. -/
def ownCodes : Unpack (Code × Code) := do
  let literalCount := 257 + (← bits 5)
  let distanceCount := 1 + (← bits 5)
  let orderCount := 4 + (← bits 4)
  if 286 < literalCount || 30 < distanceCount then failure
  let given := lengthOrder.zip (← triples orderCount)
  let code ← (Code.ofLengths? ((List.range 19).map fun i => (given.lookup i).getD 0))
  let wanted := literalCount + distanceCount
  let lengths ← codeLengths code wanted (wanted + 1) []
  let literals ← (Code.ofLengths? (lengths.take literalCount))
  let distances ← (Code.ofLengths? (lengths.drop literalCount))
  return (literals, distances)

/-- Unpacks a block of a given kind. -/
def block (limit kind : Nat) : Unpack Unit :=
  match kind with
  | 0 => rawBlock
  | 1 => do
    let literals ← (Code.ofLengths? fixedLiteralLengths)
    let distances ← (Code.ofLengths? fixedDistanceLengths)
    symbolsOfBlock literals distances limit
  | 2 => do
    let (literals, distances) ← ownCodes
    symbolsOfBlock literals distances limit
  | _ => failure

/-- Unpacks blocks until the last one. Each takes a bit at least, so the number of bits is a
limit that is never reached. -/
def blocks (bound : Nat) : (limit : Nat) → Unpack Unit
  | 0 => failure
  | limit + 1 => do
    let last ← bit
    let kind ← bits 2
    block bound kind
    if last = 1 then pure () else blocks bound limit

/-- The bytes that were packed; none if the data breaks the rules or stops in the middle. -/
def inflate (packed : ByteArray) : Option ByteArray :=
  let limit := 8 * packed.size + 1
  (blocks limit limit ⟨packed, 0, .empty⟩).map fun p => p.2.unpacked

end BlockScribe.Deflate

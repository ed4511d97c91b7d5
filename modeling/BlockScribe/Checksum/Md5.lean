import BlockScribe.Bytes

/-! # MD5

The digest that names the payload of an asset. The message is padded to whole blocks of sixteen
words; each block stirs a state of four words in sixty-four rounds. Words are read and written
least significant byte first.
-/

namespace BlockScribe.Checksum

/-- The four words that the blocks of a message are stirred into. -/
structure Md5State where
  a : UInt32
  b : UInt32
  c : UInt32
  d : UInt32
deriving DecidableEq, Repr

namespace Md5State

/-- The state before the first block. -/
def initial : Md5State := ⟨0x67452301, 0xefcdab89, 0x98badcfe, 0x10325476⟩

/-- The sum of two states, word by word. -/
def add (s t : Md5State) : Md5State := ⟨s.a + t.a, s.b + t.b, s.c + t.c, s.d + t.d⟩

end Md5State

/-- The constants of the rounds: the fractions of the sines of 1 to 64. -/
def md5Constants : Array UInt32 := #[
  0xd76aa478, 0xe8c7b756, 0x242070db, 0xc1bdceee, 0xf57c0faf, 0x4787c62a, 0xa8304613, 0xfd469501,
  0x698098d8, 0x8b44f7af, 0xffff5bb1, 0x895cd7be, 0x6b901122, 0xfd987193, 0xa679438e, 0x49b40821,
  0xf61e2562, 0xc040b340, 0x265e5a51, 0xe9b6c7aa, 0xd62f105d, 0x02441453, 0xd8a1e681, 0xe7d3fbc8,
  0x21e1cde6, 0xc33707d6, 0xf4d50d87, 0x455a14ed, 0xa9e3e905, 0xfcefa3f8, 0x676f02d9, 0x8d2a4c8a,
  0xfffa3942, 0x8771f681, 0x6d9d6122, 0xfde5380c, 0xa4beea44, 0x4bdecfa9, 0xf6bb4b60, 0xbebfbc70,
  0x289b7ec6, 0xeaa127fa, 0xd4ef3085, 0x04881d05, 0xd9d4d039, 0xe6db99e5, 0x1fa27cf8, 0xc4ac5665,
  0xf4292244, 0x432aff97, 0xab9423a7, 0xfc93a039, 0x655b59c3, 0x8f0ccc92, 0xffeff47d, 0x85845dd1,
  0x6fa87e4f, 0xfe2ce6e0, 0xa3014314, 0x4e0811a1, 0xf7537e82, 0xbd3af235, 0x2ad7d2bb, 0xeb86d391]

/-- The rotations of the rounds: four for each quarter of them, in turn. -/
def md5Rotations : Array (Array UInt32) :=
  #[#[7, 12, 17, 22], #[5, 9, 14, 20], #[4, 11, 16, 23], #[6, 10, 15, 21]]

/-- The number of bits by which a round rotates. -/
def md5Rotation (i : Nat) : UInt32 := (md5Rotations.getD (i / 16) #[]).getD (i % 4) 0

/-- Turns a word to the left. -/
def rotateLeft (word amount : UInt32) : UInt32 := (word <<< amount) ||| (word >>> (32 - amount))

/-- How a round mixes three words of the state. -/
def md5Mix (i : Nat) (s : Md5State) : UInt32 :=
  match i / 16 with
  | 0 => (s.b &&& s.c) ||| (~~~s.b &&& s.d)
  | 1 => (s.d &&& s.b) ||| (~~~s.d &&& s.c)
  | 2 => s.b ^^^ s.c ^^^ s.d
  | _ => s.c ^^^ (s.b ||| ~~~s.d)

/-- The word of a block that a round takes in. -/
def md5Index (i : Nat) : Nat :=
  match i / 16 with
  | 0 => i
  | 1 => (5 * i + 1) % 16
  | 2 => (3 * i + 5) % 16
  | _ => (7 * i) % 16

/-- One round on the words of a block. -/
def md5Round (words : Array UInt32) (s : Md5State) (i : Nat) : Md5State :=
  let sum := s.a + md5Mix i s + md5Constants.getD i 0 + words.getD (md5Index i) 0
  ⟨s.d, s.b + rotateLeft sum (md5Rotation i), s.b, s.c⟩

/-- Stirs in the block that starts at an index. -/
def md5Block (bytes : ByteArray) (s : Md5State) (start : Nat) : Md5State :=
  let words := (Array.range 16).map fun i =>
    UInt32.ofNat ((Bytes.number? bytes (start + 4 * i) 4).getD 0)
  s.add ((List.range 64).foldl (md5Round words) s)

/-- The message with a one bit, zeros up to the last eight bytes of a block, and its length in
bits. -/
def md5Padded (message : ByteArray) : ByteArray :=
  let zeros := (119 - message.size % 64) % 64
  message ++ ⟨((0x80 :: List.replicate zeros 0) ++ Bytes.ofNumber (8 * message.size) 8).toArray⟩

/-- The state after all blocks of a message. -/
def md5State (message : ByteArray) : Md5State :=
  let padded := md5Padded message
  (List.range (padded.size / 64)).foldl (fun s i => md5Block padded s (64 * i)) .initial

/-- The digest of a message, in hexadecimal digits. -/
def md5 (message : ByteArray) : String :=
  let s := md5State message
  Bytes.hex ([s.a, s.b, s.c, s.d].flatMap fun word => Bytes.ofNumber word.toNat 4)

end BlockScribe.Checksum

/-! # Names of archive entries

An entry's name is written either in UTF-8 or on the old code page of 256 characters. Neither way
of reading fails: a sequence that is not UTF-8 counts as one replacement character, as far as it
could still have become a character.
-/

namespace BlockScribe.Archive

/-! ## UTF-8 -/

/-- The character that stands for what cannot be read. -/
def replacement : Char := '\ufffd'

/-- A character that has begun: the bits so far, how many bytes are still to come, and the bounds
of the next one. -/
structure Pending where
  bits : Nat
  remaining : Nat
  low : Nat
  high : Nat

/-- What a byte begins, if it can begin a character of several bytes. The bounds of the second
byte leave out longer forms than needed, surrogates, and what lies behind the last character. -/
def Pending.ofLead? (byte : Nat) : Option Pending :=
  if 0xC2 ≤ byte && byte ≤ 0xDF then some ⟨byte - 0xC0, 1, 0x80, 0xBF⟩
  else if byte = 0xE0 then some ⟨0, 2, 0xA0, 0xBF⟩
  else if byte = 0xED then some ⟨0xD, 2, 0x80, 0x9F⟩
  else if 0xE1 ≤ byte && byte ≤ 0xEF then some ⟨byte - 0xE0, 2, 0x80, 0xBF⟩
  else if byte = 0xF0 then some ⟨0, 3, 0x90, 0xBF⟩
  else if byte = 0xF4 then some ⟨4, 3, 0x80, 0x8F⟩
  else if 0xF1 ≤ byte && byte ≤ 0xF3 then some ⟨byte - 0xF0, 3, 0x80, 0xBF⟩
  else none

/-- A byte where a character may begin: a finished character or one that has begun. -/
def beginChar (byte : Nat) : List Char × Option Pending :=
  if byte < 0x80 then ([Char.ofNat byte], none)
  else match Pending.ofLead? byte with
    | some pending => ([], some pending)
    | none => ([replacement], none)

/-- A byte behind what has begun: the characters that are finished by it, and what has begun
then. -/
def nextByte (byte : Nat) : Option Pending → List Char × Option Pending
  | none => beginChar byte
  | some p =>
    if p.low ≤ byte && byte ≤ p.high then
      let bits := 64 * p.bits + byte % 64
      if p.remaining ≤ 1 then ([Char.ofNat bits], none)
      else ([], some ⟨bits, p.remaining - 1, 0x80, 0xBF⟩)
    else
      let (finished, begun) := beginChar byte
      (replacement :: finished, begun)

/-- Reads on behind what has begun. -/
def utf8From : Option Pending → List UInt8 → List Char
  | none, [] => []
  | some _, [] => [replacement]
  | begun, byte :: rest =>
    let (finished, begun) := nextByte byte.toNat begun
    finished ++ utf8From begun rest

/-- Reads UTF-8. -/
def utf8 (bytes : List UInt8) : String := String.ofList (utf8From none bytes)

/-! ## The code page -/

/-- The upper half of the code page. -/
def upperHalf : Array Char := ("ÇüéâäàåçêëèïîìÄÅÉæÆôöòûùÿÖÜ¢£¥₧ƒ" ++
  "áíóúñÑªº¿⌐¬½¼¡«»░▒▓│┤╡╢╖╕╣║╗╝╜╛┐" ++
  "└┴┬├─┼╞╟╚╔╩╦╠═╬╧╨╤╥╙╘╒╓╫╪┘┌█▄▌▐▀" ++
  "αßΓπΣσµτΦΘΩδ∞φε∩≡±≥≤⌠⌡÷≈°∙·√ⁿ²■\u00a0").toList.toArray

/-- A character of the code page. -/
def codePageChar (byte : UInt8) : Char :=
  if byte < 0x80 then Char.ofNat byte.toNat
  else upperHalf.getD (byte.toNat - 0x80) replacement

/-- Reads text on the code page. -/
def codePage (bytes : List UInt8) : String := String.ofList (bytes.map codePageChar)

end BlockScribe.Archive

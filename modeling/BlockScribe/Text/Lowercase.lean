import BlockScribe.Text.LetterCase

/-! # Lower-casing

The full lower-casing of a text, as the Unicode standard defines it without regard to language.
One letter needs its surroundings: a capital sigma becomes the final form at the end of a word.
Two names that differ only in case are the same file on many systems, so output names are
compared in this form.
-/

namespace BlockScribe.Lowercase

/-- Whether a character has case. -/
def isCased (c : Char) : Bool := CodePoints.member c.toNat casedRanges

/-- Whether a character is passed over when the case of its neighbour is looked at. -/
def isIgnorable (c : Char) : Bool := CodePoints.member c.toNat caseIgnorableRanges

/-- Whether the first character that counts has case. -/
def startsCased (cs : List Char) : Bool :=
  match cs.dropWhile isIgnorable with
  | [] => false
  | c :: _ => isCased c

/-- The lower-case form of a character on its own. Capital I with a dot keeps its dot as a
separate mark; all other letters have a single partner. -/
def ofChar (c : Char) : List Char :=
  if c = 'İ' then ['i', '\u0307']
  else match lowercasePoint? c.toNat lowercaseRuns with
    | some point => [Char.ofNat point]
    | none => [c]

/-- A capital sigma between `before`, nearest character first, and `after`. -/
def sigma (before after : List Char) : Char :=
  if startsCased before && !startsCased after then 'ς' else 'σ'

/-- The lower-case form of the characters after `before`, which is given nearest first. -/
def after (before : List Char) : List Char → List Char
  | [] => []
  | c :: rest =>
    (if c = 'Σ' then [sigma before rest] else ofChar c) ++ after (c :: before) rest

end BlockScribe.Lowercase

namespace BlockScribe

/-- The lower-case form of a text. -/
def lowercase (s : String) : String := String.ofList (Lowercase.after [] s.toList)

end BlockScribe

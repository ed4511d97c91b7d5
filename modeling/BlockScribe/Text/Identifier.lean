import BlockScribe.Text.Alphanumeric

/-! # Bare names

Names in a project are free text; names in a script are bare words. This module spells a raw
name as a bare word, keeps the list of words that a script reserves, and makes a name fresh by
appending underscores until nobody holds it.

The search for a fresh name tries at most as many suffixes as there are names to avoid, plus
one. That is enough: the candidates with different numbers of underscores are different, so the
names to avoid cannot hold all of them.
-/

namespace BlockScribe.Identifier

/-- Whether a character may stand in a bare name. -/
def isPart (c : Char) : Bool := isAlphanumeric c || c == '_'

/-- Puts an underscore for every character that a bare name cannot hold. -/
def mask (cs : List Char) : List Char := cs.map fun c => if isPart c then c else '_'

/-- Gives the empty word and a word with a decimal digit in front a leading underscore. -/
def lead : List Char → List Char
  | [] => ['_']
  | c :: rest => if c.isDigit then '_' :: c :: rest else c :: rest

/-- Spells a raw name as a bare name. -/
def ofRaw (raw : String) : String := String.ofList (lead (mask raw.toList))

/-- The words with a meaning of their own in a script. -/
def reserved : List String :=
  ["var", "global", "list", "fn", "warp", "return", "if", "else", "while", "for", "repeat",
   "forever", "true", "false", "include", "and", "or", "not"]

/-- Whether a name is a reserved word. -/
def isReserved (name : String) : Bool := reserved.contains name

/-- Appends underscores while the name is taken, at most `limit` of them. -/
def extend (taken : String → Bool) : (limit : Nat) → (candidate : String) → String
  | 0, candidate => candidate
  | limit + 1, candidate =>
    if taken candidate then extend taken limit (candidate ++ "_") else candidate

/-- The candidate with the fewest underscores whose form under `key` is not among `used`. -/
def freshBy (key : String → String) (used : List String) (candidate : String) : String :=
  extend (fun name => used.contains (key name)) used.length candidate

/-- The candidate with the fewest underscores that is not among `used`. -/
def fresh (used : List String) (candidate : String) : String :=
  extend (fun name => used.contains name) used.length candidate

/-- The name of a procedure's parameter. It depends on the raw name alone, so the header of a
procedure and the reporters in its body agree. -/
def parameter (raw : String) : String := fresh reserved (ofRaw raw)

end BlockScribe.Identifier

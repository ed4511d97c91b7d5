import BlockScribe.Json.Value

/-! # Writing JSON values

Two styles: `compact` without any space, and `pretty` with one item a line and two spaces for
each level. Empty containers stay on one line in both.
-/

namespace BlockScribe.Json

/-- A hexadecimal digit in lower case. -/
def hexDigit (n : Nat) : Char := Nat.digitChar (n % 16)

/-- A character of a text between its quotes. -/
def escapeChar (c : Char) : List Char :=
  match c with
  | '"' => ['\\', '"']
  | '\\' => ['\\', '\\']
  | '\x08' => ['\\', 'b']
  | '\x0c' => ['\\', 'f']
  | '\n' => ['\\', 'n']
  | '\r' => ['\\', 'r']
  | '\t' => ['\\', 't']
  | c =>
    if c.toNat < 0x20 then
      ['\\', 'u', '0', '0', hexDigit (c.toNat / 16), hexDigit c.toNat]
    else [c]

/-- A text with its quotes. -/
def quoteText (s : String) : String :=
  String.ofList ('"' :: (s.toList.flatMap escapeChar ++ ['"']))

/-- A truth value. -/
def boolText (b : Bool) : String := if b then "true" else "false"

mutual

/-- The value without any space. -/
def compact : Json → String
  | .null => "null"
  | .bool value => boolText value
  | .number value => value.text
  | .text value => quoteText value
  | .list items => "[" ++ ",".intercalate (compactItems items) ++ "]"
  | .object members => "\x7b" ++ ",".intercalate (compactMembers members) ++ "\x7d"

/-- The items of a list, each without any space. -/
def compactItems : List Json → List String
  | [] => []
  | item :: rest => compact item :: compactItems rest

/-- The members of an object, each without any space. -/
def compactMembers : List (String × Json) → List String
  | [] => []
  | (name, value) :: rest => (quoteText name ++ ":" ++ compact value) :: compactMembers rest

end

/-- A line break and the indentation of a level. -/
def lineBreak (level : Nat) : String := String.ofList ('\n' :: List.replicate (2 * level) ' ')

/-- Written items between brackets, one a line. -/
def enclose (opening closing : String) (level : Nat) (items : List String) : String :=
  if items.isEmpty then opening ++ closing
  else
    opening ++ lineBreak (level + 1) ++ ("," ++ lineBreak (level + 1)).intercalate items ++
      lineBreak level ++ closing

mutual

/-- The value with one item a line, when it stands at a level. -/
def prettyAt (level : Nat) : Json → String
  | .list items => enclose "[" "]" level (prettyItems (level + 1) items)
  | .object members => enclose "\x7b" "\x7d" level (prettyMembers (level + 1) members)
  | value => compact value

/-- The items of a list at a level. -/
def prettyItems (level : Nat) : List Json → List String
  | [] => []
  | item :: rest => prettyAt level item :: prettyItems level rest

/-- The members of an object at a level. -/
def prettyMembers (level : Nat) : List (String × Json) → List String
  | [] => []
  | (name, value) :: rest =>
    (quoteText name ++ ": " ++ prettyAt level value) :: prettyMembers level rest

end

/-- The value with one item a line. -/
def pretty (value : Json) : String := prettyAt 0 value

end BlockScribe.Json

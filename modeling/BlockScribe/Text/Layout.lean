/-! # Lines and indentation

A script is laid out in lines. Bodies stand between braces on lines of their own and are
indented by tabs; a line without characters is never indented.
-/

namespace BlockScribe.Layout

/-- Puts `level` tabs in front of a line that has characters. -/
def indentLine (level : Nat) (line : List Char) : List Char :=
  if line.isEmpty then [] else List.replicate level '\t' ++ line

/-- Indents every line that has characters. -/
def indentChars (level : Nat) (cs : List Char) : List Char :=
  ['\n'].intercalate ((cs.splitOn '\n').map (indentLine level))

/-- Indents every line of `code` that has characters by `level` tabs. -/
def indent (level : Nat) (code : String) : String :=
  if level = 0 then code else String.ofList (indentChars level code.toList)

/-- Puts each text on a line of its own. -/
def stack (texts : List String) : String := "\n".intercalate texts

/-- An opening brace, the body and a closing brace, each on a line of its own. -/
def braced (body : String) : String := "\x7b\n" ++ body ++ "\n\x7d"

end BlockScribe.Layout

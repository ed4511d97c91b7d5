/-! # Text literals

A text stands in a script between double quotes. A backslash and a double quote inside it are
written with a backslash in front; every other character, line breaks included, stands as it is.

`decode_encode` says that reading the written form gives the text back and stops right behind
the closing quote, whatever follows.
-/

namespace BlockScribe.Quoted

/-- The characters of a literal between its quotes. -/
def escape (cs : List Char) : List Char :=
  cs.flatMap fun c => if c = '\\' ∨ c = '"' then ['\\', c] else [c]

/-- The literal of a text, quotes included. -/
def encode (cs : List Char) : List Char := '"' :: (escape cs ++ ['"'])

/-- Reads a literal from behind its opening quote: its text and what follows the closing quote.
A backslash takes the backslash or quote behind it as it stands. -/
def decodeBody : List Char → Option (List Char × List Char)
  | [] => none
  | '"' :: rest => some ([], rest)
  | '\\' :: '\\' :: rest => (decodeBody rest).map fun p => ('\\' :: p.1, p.2)
  | '\\' :: '"' :: rest => (decodeBody rest).map fun p => ('"' :: p.1, p.2)
  | c :: rest => (decodeBody rest).map fun p => (c :: p.1, p.2)

/-- Reads a literal at the start of the characters. -/
def decode : List Char → Option (List Char × List Char)
  | '"' :: rest => decodeBody rest
  | _ => none

/-- The literal of a text. -/
def quote (s : String) : String := String.ofList (encode s.toList)

@[simp]
theorem escape_nil : escape [] = [] := rfl

theorem escape_cons (c : Char) (cs : List Char) :
    escape (c :: cs) = (if c = '\\' ∨ c = '"' then ['\\', c] else [c]) ++ escape cs := by
  simp [escape]

theorem decodeBody_escape (cs rest : List Char) :
    decodeBody (escape cs ++ '"' :: rest) = some (cs, rest) := by
  induction cs with
  | nil => simp [decodeBody]
  | cons c cs ih =>
    by_cases hb : c = '\\'
    · subst hb
      simp [escape_cons, decodeBody, ih]
    · by_cases hq : c = '"'
      · subst hq
        simp [escape_cons, decodeBody, ih]
      · simp [escape_cons, hb, hq, decodeBody, ih]

/-- A written literal reads back as its text and leaves exactly what follows it. -/
theorem decode_encode (cs rest : List Char) : decode (encode cs ++ rest) = some (cs, rest) := by
  simpa [encode, decode] using decodeBody_escape cs rest

end BlockScribe.Quoted

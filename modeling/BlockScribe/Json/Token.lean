import BlockScribe.Json.Value

/-! # Tokens of a JSON document

The scanner cuts a document into punctuation, texts and scalars. A text or scalar that is begun
and cannot be finished is a token, too: it carries its fault, and the scan stops there. What the
fault means for the document depends on what was expected at that place, so the reader decides.
-/

namespace BlockScribe.Json

/-- A piece of a document. -/
inductive Token where
  | openList
  | closeList
  | openObject
  | closeObject
  | comma
  | colon
  /-- A text, or why it cannot be read. -/
  | text (content : Except Fault String)
  /-- A number or one of the three words, or why it cannot be read. -/
  | scalar (content : Except Fault Json)
  /-- A character that begins no token. -/
  | stray

namespace Token

/-! ## Texts -/

/-- The value of a hexadecimal digit. -/
def hexDigit? (c : Char) : Option Nat :=
  if c.isDigit then some (c.toNat - '0'.toNat)
  else if 'a' ≤ c ∧ c ≤ 'f' then some (c.toNat - 'a'.toNat + 10)
  else if 'A' ≤ c ∧ c ≤ 'F' then some (c.toNat - 'A'.toNat + 10)
  else none

/-- The value of four hexadecimal digits. -/
def hexUnit? (a b c d : Char) : Option Nat := do
  return (((← hexDigit? a) * 16 + (← hexDigit? b)) * 16 + (← hexDigit? c)) * 16 + (← hexDigit? d)

/-- The character behind a backslash, for the escapes of one letter. -/
def escaped? (c : Char) : Option Char :=
  match c with
  | '"' => some '"'
  | '\\' => some '\\'
  | '/' => some '/'
  | 'b' => some '\x08'
  | 'f' => some '\x0c'
  | 'n' => some '\n'
  | 'r' => some '\r'
  | 't' => some '\t'
  | _ => none

/-- Whether a code unit is the first half of a surrogate pair. -/
def isHighSurrogate (unit : Nat) : Bool := 0xD800 ≤ unit && unit ≤ 0xDBFF

/-- Whether a code unit is the second half of a surrogate pair. -/
def isLowSurrogate (unit : Nat) : Bool := 0xDC00 ≤ unit && unit ≤ 0xDFFF

/-- The character of a surrogate pair. -/
def paired (high low : Nat) : Char :=
  Char.ofNat (0x10000 + (high - 0xD800) * 0x400 + (low - 0xDC00))

/-- The fault of a document with less than four characters left for four hexadecimal digits: it
ends too early only if there is no room for four bytes, either. -/
def shortFault (cs : List Char) : Fault :=
  if (String.ofList cs).utf8ByteSize < 4 then .truncated else .malformed

/-- The fault of a first half that no second half follows. -/
def unpairedFault : List Char → Fault
  | [] => .truncated
  | '\\' :: [] => .truncated
  | '\\' :: 'u' :: rest => shortFault rest
  | _ => .malformed

/-- Reads a text from behind its opening quote; `done` holds its characters so far, the latest
first. -/
def scanText (done : List Char) : List Char → Except Fault String × List Char
  | [] => (.error .truncated, [])
  | '"' :: rest => (.ok (String.ofList done.reverse), rest)
  | '\\' :: 'u' :: a :: b :: c :: d :: rest =>
    match hexUnit? a b c d with
    | none => (.error .malformed, [])
    | some unit =>
      if isLowSurrogate unit then (.error .malformed, [])
      else if isHighSurrogate unit then
        match rest with
        | '\\' :: 'u' :: e :: f :: g :: h :: rest =>
          match hexUnit? e f g h with
          | none => (.error .malformed, [])
          | some low =>
            if isLowSurrogate low then scanText (paired unit low :: done) rest
            else (.error .malformed, [])
        | rest => (.error (unpairedFault rest), [])
      else scanText (Char.ofNat unit :: done) rest
  | '\\' :: 'u' :: rest => (.error (shortFault rest), [])
  | '\\' :: c :: rest =>
    match escaped? c with
    | none => (.error .malformed, [])
    | some c => scanText (c :: done) rest
  | '\\' :: [] => (.error .truncated, [])
  | c :: rest => if c.toNat < 0x20 then (.error .malformed, []) else scanText (c :: done) rest

/-! ## Numbers and words -/

/-- Reads an exponent behind its mark, if the mark is there. -/
def scanExponent : List Char → Except Fault Int × List Char
  | [] => (.ok 0, [])
  | c :: rest =>
    if c = 'e' ∨ c = 'E' then
      let negative := rest.head? = some '-'
      let body := match rest with
        | '+' :: body => body
        | '-' :: body => body
        | body => body
      let digits := body.takeWhile Char.isDigit
      if body.isEmpty then (.error .truncated, [])
      else if digits.isEmpty then (.error .malformed, [])
      else
        let size : Int := digits.foldl (fun n d => n * 10 + Number.digitValue d) 0
        (.ok (if negative then -size else size), body.dropWhile Char.isDigit)
    else (.ok 0, c :: rest)

/-- A number, or the fault of one beyond the finite doubles. -/
def numberOf (number : Option Number) : Except Fault Json :=
  match number with
  | some n => .ok (.number n)
  | none => .error .malformed

/-- Reads a number without its sign. -/
def scanNumber (negative : Bool) (cs : List Char) : Except Fault Json × List Char :=
  let whole := cs.takeWhile Char.isDigit
  let rest := cs.dropWhile Char.isDigit
  if cs.isEmpty then (.error .truncated, [])
  else if whole.isEmpty ∨ (whole.head? = some '0' ∧ 1 < whole.length) then
    (.error .malformed, [])
  else match rest with
    | '.' :: behind =>
      let fraction := behind.takeWhile Char.isDigit
      if behind.isEmpty then (.error .truncated, [])
      else if fraction.isEmpty then (.error .malformed, [])
      else match scanExponent (behind.dropWhile Char.isDigit) with
        | (.error fault, _) => (.error fault, [])
        | (.ok exponent, rest) => (numberOf (Number.ofParts negative whole fraction exponent), rest)
    | rest =>
      if rest.head? = some 'e' ∨ rest.head? = some 'E' then
        match scanExponent rest with
        | (.error fault, _) => (.error fault, [])
        | (.ok exponent, rest) => (numberOf (Number.ofParts negative whole [] exponent), rest)
      else (numberOf (Number.ofDigits negative whole), rest)

/-- Reads the letters of a word that stands for `value`. -/
def scanWord (value : Json) : (word : List Char) → List Char → Except Fault Json × List Char
  | [], rest => (.ok value, rest)
  | _ :: _, [] => (.error .truncated, [])
  | w :: word, c :: rest => if w = c then scanWord value word rest else (.error .malformed, [])

/-! ## What is left is no longer than what was given -/

theorem length_dropWhile_le (p : Char → Bool) (cs : List Char) :
    (cs.dropWhile p).length ≤ cs.length := by
  induction cs with
  | nil => simp
  | cons c cs ih =>
    rw [List.dropWhile_cons]
    split
    · simp only [List.length_cons]
      omega
    · simp

theorem length_scanText_le (done cs : List Char) : (scanText done cs).2.length ≤ cs.length := by
  fun_induction scanText done cs <;> simp_all <;> omega

theorem length_scanExponent_le (cs : List Char) : (scanExponent cs).2.length ≤ cs.length := by
  fun_cases scanExponent cs
  · simp
  · simp
  · simp
  · rename_i rest _ _ body _ _ _ _
    have hbody : body.length ≤ rest.length := by
      simp only [body]
      split <;> simp
    have := length_dropWhile_le Char.isDigit body
    simp only [List.length_cons]
    omega
  · simp

theorem length_dropWhile_lt (p : Char → Bool) (cs : List Char)
    (h : ¬ (cs.takeWhile p).isEmpty = true) : (cs.dropWhile p).length < cs.length := by
  cases cs with
  | nil => simp at h
  | cons c cs =>
    by_cases hc : p c = true
    · have := length_dropWhile_le p cs
      simp only [List.dropWhile_cons, hc, if_true, List.length_cons]
      omega
    · simp [hc] at h

/-- A number that is read takes at least one character. -/
theorem length_scanNumber_lt (negative : Bool) (cs : List Char) (h : cs ≠ []) :
    (scanNumber negative cs).2.length < cs.length := by
  have hpos : 0 < cs.length := List.length_pos_iff.2 h
  fun_cases scanNumber negative cs
  · exact hpos
  · exact hpos
  · exact hpos
  · exact hpos
  · exact hpos
  · rename_i hwhole behind hdrop _ _ _ exponent rest' hexp
    have hrest := length_dropWhile_lt Char.isDigit cs fun he => hwhole (Or.inl he)
    have hscan := length_scanExponent_le (behind.dropWhile Char.isDigit)
    have hbehind := length_dropWhile_le Char.isDigit behind
    have hlen : (cs.dropWhile Char.isDigit).length = ('.' :: behind).length :=
      congrArg List.length hdrop
    rw [hexp] at hscan
    simp only [List.length_cons] at hlen
    simp only at hscan ⊢
    omega
  · exact hpos
  · rename_i hwhole _ _ exponent rest' hexp
    have hrest := length_dropWhile_lt Char.isDigit cs fun he => hwhole (Or.inl he)
    have hscan := length_scanExponent_le (cs.dropWhile Char.isDigit)
    rw [hexp] at hscan
    simp only at hscan ⊢
    omega
  · rename_i hwhole _ _
    exact length_dropWhile_lt Char.isDigit cs fun he => hwhole (Or.inl he)

theorem length_scanWord_le (value : Json) (word cs : List Char) :
    (scanWord value word cs).2.length ≤ cs.length := by
  fun_induction scanWord value word cs with
  | case1 rest => exact Nat.le_refl _
  | case2 w word => simp
  | case3 word c rest ih => simpa using Nat.le_succ_of_le ih
  | case4 w word c rest hne => simp

end Token

/-! ## The scanner -/

/-- Whether a character may stand between tokens. -/
def isSpace (c : Char) : Bool := c == ' ' || c == '\n' || c == '\t' || c == '\r'

/-- The token of a punctuation mark. -/
def punctuation? (c : Char) : Option Token :=
  match c with
  | '[' => some .openList
  | ']' => some .closeList
  | '\x7b' => some .openObject
  | '\x7d' => some .closeObject
  | ',' => some .comma
  | ':' => some .colon
  | _ => none

/-- Reads the scalar that begins with `c`, if one does. -/
def scanScalar? (c : Char) (rest : List Char) : Option (Except Fault Json × List Char) :=
  if c = 'n' then some (Token.scanWord .null ['u', 'l', 'l'] rest)
  else if c = 't' then some (Token.scanWord (.bool true) ['r', 'u', 'e'] rest)
  else if c = 'f' then some (Token.scanWord (.bool false) ['a', 'l', 's', 'e'] rest)
  else if c = '-' then some (Token.scanNumber true rest)
  else if c.isDigit then some (Token.scanNumber false (c :: rest))
  else none

theorem length_scanScalar?_le {c : Char} {rest behind : List Char} {content : Except Fault Json}
    (h : scanScalar? c rest = some (content, behind)) : behind.length ≤ rest.length := by
  have left : ∀ p : Except Fault Json × List Char, some p = some (content, behind) →
      p.2.length ≤ rest.length → behind.length ≤ rest.length := by
    intro p hp hle
    cases hp
    exact hle
  unfold scanScalar? at h
  split at h
  · exact left _ h (Token.length_scanWord_le .null _ rest)
  split at h
  · exact left _ h (Token.length_scanWord_le (.bool true) _ rest)
  split at h
  · exact left _ h (Token.length_scanWord_le (.bool false) _ rest)
  split at h
  · refine left _ h ?_
    cases rest with
    | nil => simp [Token.scanNumber]
    | cons d rest => exact Nat.le_of_lt (Token.length_scanNumber_lt true (d :: rest) (by simp))
  split at h
  · exact left _ h (Nat.lt_succ_iff.1 (Token.length_scanNumber_lt false (c :: rest) (by simp)))
  · simp at h

/-- Cuts a document into tokens; `done` holds those found so far, the latest first. -/
def scan (done : List Token) (cs : List Char) : List Token :=
  match cs with
  | [] => done.reverse
  | c :: rest =>
    if isSpace c then scan done rest
    else match punctuation? c with
      | some token => scan (token :: done) rest
      | none =>
        if c = '"' then
          match _h : Token.scanText [] rest with
          | (.ok content, behind) => scan (.text (.ok content) :: done) behind
          | (.error fault, _) => (Token.text (.error fault) :: done).reverse
        else match _h : scanScalar? c rest with
          | some (.ok value, behind) => scan (.scalar (.ok value) :: done) behind
          | some (.error fault, _) => (Token.scalar (.error fault) :: done).reverse
          | none => (Token.stray :: done).reverse
termination_by cs.length
decreasing_by
  · simp
  · simp
  · have := Token.length_scanText_le [] rest
    rw [_h] at this
    simp only [List.length_cons]
    simp only at this
    omega
  · have := length_scanScalar?_le _h
    simp only [List.length_cons]
    omega

/-- The tokens of a document. -/
def tokens (document : String) : List Token := scan [] document.toList

end BlockScribe.Json

import BlockScribe.Proofs.Text.Indentation
import BlockScribe.Proofs.Naming
import BlockScribe.Json.Number
import BlockScribe.Signature
import BlockScribe.Text.Numeral

/-! # The lexical shape of a source

A source is read from left to right. A text literal runs from a double quote to the next one
that no backslash escapes, a comment from `/*` to the next `*/`, and outside of both every
parenthesis and brace has to be closed by its own kind, innermost first. `Lexical.step` reads one
character, so what is read of a text in two parts is read of one part after the other.

A text is `Closed` when reading it outside of literals and comments ends there again, with the
same brackets open as before. Closed texts can be put together, enclosed and indented:

* `closed_quote`, `closed_of_inert`, `closed_comment`: what closed texts start from.
* `Closed.append`, `Closed.intercalate`, `Closed.parenthesized`, `Closed.braced`.
* `closed_render`, `closed_number`: numbers as they are written in a project and in a document.
* `Closed.indent`: tabs at the starts of lines change nothing, wherever these lines start, also
  inside a literal or a comment.
-/

namespace BlockScribe

namespace Lexical

/-! ## Reading -/

/-- Where a reader stands. -/
inductive Mode where
  | code
  /-- Behind a slash, which starts a comment if an asterisk follows. -/
  | slash
  | text
  /-- Behind a backslash in a literal. -/
  | escaped
  | comment
  /-- Behind an asterisk in a comment, which ends it if a slash follows. -/
  | asterisk
deriving DecidableEq, Repr

/-- A reader: where it stands, and the brackets that are to be closed, the innermost first. -/
structure Reader where
  mode : Mode
  due : List Char
deriving DecidableEq, Repr

/-- Reads a character of the code. A bracket that closes another one than is due is refused. -/
def readCode (due : List Char) (c : Char) : Option Reader :=
  if c = '"' then some ⟨.text, due⟩
  else if c = '/' then some ⟨.slash, due⟩
  else if c = '(' then some ⟨.code, ')' :: due⟩
  else if c = '\x7b' then some ⟨.code, '\x7d' :: due⟩
  else if c = ')' ∨ c = '\x7d' then
    if due.head? = some c then some ⟨.code, due.tail⟩ else none
  else some ⟨.code, due⟩

/-- Reads a character. -/
def step (reader : Reader) (c : Char) : Option Reader :=
  match reader.mode with
  | .code => readCode reader.due c
  | .slash => if c = '*' then some ⟨.comment, reader.due⟩ else readCode reader.due c
  | .text =>
    some ⟨if c = '\\' then .escaped else if c = '"' then .code else .text, reader.due⟩
  | .escaped => some ⟨.text, reader.due⟩
  | .comment => some ⟨if c = '*' then .asterisk else .comment, reader.due⟩
  | .asterisk =>
    some ⟨if c = '/' then .code else if c = '*' then .asterisk else .comment, reader.due⟩

/-- Reads characters one after the other. -/
def read (reader : Reader) (cs : List Char) : Option Reader := cs.foldlM step reader

/-- Read from its start, the source ends outside of literals and comments, and all brackets were
closed in order. -/
def WellFormed (source : String) : Prop := read ⟨.code, []⟩ source.toList = some ⟨.code, []⟩

instance (source : String) : Decidable (WellFormed source) :=
  inferInstanceAs (Decidable (_ = _))

@[simp]
theorem read_nil (reader : Reader) : read reader [] = some reader := rfl

theorem read_cons (reader : Reader) (c : Char) (rest : List Char) :
    read reader (c :: rest) = (step reader c).bind fun next => read next rest := rfl

theorem read_cons_of_step {reader next : Reader} {c : Char} (h : step reader c = some next)
    (rest : List Char) : read reader (c :: rest) = read next rest := by
  rw [read_cons, h]
  rfl

theorem read_append (reader : Reader) (first second : List Char) :
    read reader (first ++ second) = (read reader first).bind fun next => read next second :=
  List.foldlM_append

theorem read_append_of_read {reader next : Reader} {first : List Char}
    (h : read reader first = some next) (second : List Char) :
    read reader (first ++ second) = read next second := by
  rw [read_append, h]
  rfl

/-! ## Indentation -/

/-- A reader that a tab leaves where it is: neither a slash, a backslash nor an asterisk stands
right in front. -/
def Reader.Settled (reader : Reader) : Prop :=
  reader.mode = .code ∨ reader.mode = .text ∨ reader.mode = .comment

theorem Reader.Settled.step_tab {reader : Reader} (h : reader.Settled) :
    step reader '\t' = some reader := by
  obtain ⟨mode, due⟩ := reader
  rcases h with hmode | hmode | hmode
  · cases hmode
    rfl
  · cases hmode
    rfl
  · cases hmode
    rfl

/-- Behind a line break every reader is settled. -/
theorem settled_of_step_break {reader next : Reader} (h : step reader '\n' = some next) :
    next.Settled := by
  obtain ⟨mode, due⟩ := reader
  -- a break ends no text and no comment, and a slash in front of it opens none
  cases mode with
  | code =>
    cases h
    exact .inl rfl
  | slash =>
    cases h
    exact .inl rfl
  | text =>
    cases h
    exact .inr (.inl rfl)
  | escaped =>
    cases h
    exact .inr (.inl rfl)
  | comment =>
    cases h
    exact .inr (.inr rfl)
  | asterisk =>
    cases h
    exact .inr (.inr rfl)

theorem Reader.Settled.read_tabs {reader : Reader} (h : reader.Settled) (count : Nat)
    (rest : List Char) : read reader (List.replicate count '\t' ++ rest) = read reader rest := by
  induction count with
  | zero => rfl
  | succ count ih =>
    rw [List.replicate_succ, List.cons_append, read_cons_of_step h.step_tab, ih]

/-- Indented characters are read as the characters themselves. -/
theorem read_indentFrom (level : Nat) {fresh : Bool} {reader : Reader}
    (hfresh : fresh = true → reader.Settled) (cs : List Char) :
    read reader (Layout.indentFrom level fresh cs) = read reader cs := by
  induction cs generalizing fresh reader with
  | nil => rfl
  | cons c rest ih =>
    by_cases hc : c = '\n'
    · -- the tabs of the next line are read behind the break
      rw [hc, Layout.indentFrom_break, read_cons, read_cons]
      cases hstep : step reader '\n' with
      | none => rfl
      | some next => exact ih fun _ => settled_of_step_break hstep
    · have hrest : read reader (c :: Layout.indentFrom level false rest) =
          read reader (c :: rest) := by
        rw [read_cons, read_cons]
        cases step reader c with
        | none => rfl
        | some next => exact ih fun hfalse => absurd hfalse Bool.false_ne_true
      cases fresh with
      | false => rw [Layout.indentFrom_false_cons hc, hrest]
      | true => rw [Layout.indentFrom_true_cons hc, (hfresh rfl).read_tabs, hrest]

/-! ## Closed texts -/

/-- Read outside of literals and comments, the text ends there again, with the same brackets to be
closed. -/
def Closed (text : String) : Prop :=
  ∀ due, read ⟨.code, due⟩ text.toList = some ⟨.code, due⟩

theorem Closed.wellFormed {text : String} (h : Closed text) : WellFormed text := h []

theorem closed_empty : Closed "" := fun _ => rfl

theorem Closed.append {first second : String} (hfirst : Closed first) (hsecond : Closed second) :
    Closed (first ++ second) := by
  intro due
  rw [String.toList_append, read_append_of_read (hfirst due)]
  exact hsecond due

theorem Closed.intercalate {separator : String} (hseparator : Closed separator)
    {texts : List String} (htexts : ∀ text ∈ texts, Closed text) :
    Closed (separator.intercalate texts) := by
  induction texts with
  | nil => exact closed_empty
  | cons first rest ih =>
    have hfirst := htexts first List.mem_cons_self
    have hrest := ih fun text htext => htexts text (List.mem_cons_of_mem _ htext)
    cases rest with
    | nil =>
      rw [String.intercalate_singleton]
      exact hfirst
    | cons second others =>
      rw [String.intercalate_cons_cons]
      exact (hfirst.append hseparator).append hrest

/-- Text between brackets is closed if the closing bracket is the one that the opening bracket
makes due. -/
theorem Closed.enclosed {text : String} (h : Closed text) {opening closing : Char}
    (hopening : ∀ due, step ⟨.code, due⟩ opening = some ⟨.code, closing :: due⟩)
    (hclosing : ∀ due, step ⟨.code, closing :: due⟩ closing = some ⟨.code, due⟩) (due : List Char) :
    read ⟨.code, due⟩ (opening :: text.toList ++ [closing]) = some ⟨.code, due⟩ := by
  rw [List.cons_append, read_cons_of_step (hopening due), read_append_of_read (h _),
    read_cons_of_step (hclosing due)]
  rfl

theorem Closed.parenthesized {text : String} (h : Closed text) : Closed ("(" ++ text ++ ")") := by
  intro due
  have hchars : ("(" ++ text ++ ")").toList = '(' :: text.toList ++ [')'] := by simp
  rw [hchars]
  refine h.enclosed (fun _ => rfl) (fun due => ?_) due
  simp [step, readCode]

theorem Closed.indent {text : String} (h : Closed text) (level : Nat) :
    Closed (Layout.indent level text) := by
  intro due
  rw [Layout.toList_indent, read_indentFrom level fun _ => .inl rfl]
  exact h due

/-! ## What stands outside of literals and comments -/

/-- The characters that mean something outside of literals and comments. -/
def special : List Char := ['"', '/', '(', ')', '\x7b', '\x7d']

/-- Whether a character means nothing outside of literals and comments. -/
def isInert (c : Char) : Bool := !special.contains c

theorem read_of_inert {cs : List Char} (h : ∀ c ∈ cs, isInert c = true) (due : List Char) :
    read ⟨.code, due⟩ cs = some ⟨.code, due⟩ := by
  induction cs with
  | nil => rfl
  | cons c rest ih =>
    have hc := h c List.mem_cons_self
    have hstep : step ⟨.code, due⟩ c = some ⟨.code, due⟩ := by
      simp only [isInert, special, List.contains_cons, List.contains_nil, Bool.or_false,
        Bool.not_or, Bool.and_eq_true, Bool.not_eq_true', beq_eq_false_iff_ne] at hc
      simp [step, readCode, hc]
    rw [read_cons_of_step hstep]
    exact ih fun other hother => h other (List.mem_cons_of_mem _ hother)

theorem closed_of_inert {text : String} (h : ∀ c ∈ text.toList, isInert c = true) : Closed text :=
  read_of_inert h

/-- For a given text it is enough to look at its characters. -/
theorem closed_of_all {text : String} (h : text.toList.all isInert = true) : Closed text :=
  closed_of_inert (List.all_eq_true.1 h)

/-- A character of a bare name means nothing to a reader. -/
theorem isInert_of_isPart {c : Char} (h : Identifier.isPart c = true) : isInert c = true := by
  have hnone : special.all (fun other => !Identifier.isPart other) = true := by
    decide
  by_contra hnot
  have hmem : c ∈ special := by
    simpa only [isInert, Bool.not_eq_true, Bool.not_eq_false', List.contains_iff_mem] using hnot
  have hc := List.all_eq_true.1 hnone c hmem
  rw [h] at hc
  cases hc

theorem closed_of_isPart {text : String} (h : ∀ c ∈ text.toList, Identifier.isPart c = true) :
    Closed text :=
  closed_of_inert fun c hc => isInert_of_isPart (h c hc)

theorem closed_of_isBare {name : String} (h : Identifier.IsBare name) : Closed name :=
  closed_of_isPart h.isPart

theorem Closed.braced {text : String} (h : Closed text) : Closed (Layout.braced text) := by
  intro due
  have hbreak : Closed "\n" := closed_of_all (by decide)
  have hbody : Closed ("\n" ++ text ++ "\n") := (hbreak.append h).append hbreak
  have hchars : (Layout.braced text).toList =
      '\x7b' :: ("\n" ++ text ++ "\n").toList ++ ['\x7d'] := by
    simp [Layout.braced]
  rw [hchars]
  refine hbody.enclosed (fun _ => rfl) (fun due => ?_) due
  simp [step, readCode]

/-! ## Literals and comments -/

/-- The characters of a literal are read inside of it, up to its closing quote. -/
theorem read_escape (cs : List Char) (due : List Char) :
    read ⟨.text, due⟩ (Quoted.escape cs ++ ['"']) = some ⟨.code, due⟩ := by
  induction cs with
  | nil => rfl
  | cons c rest ih =>
    rw [Quoted.escape_cons, List.append_assoc]
    by_cases hc : c = '\\' ∨ c = '"'
    · rw [if_pos hc]
      exact ih
    · rw [if_neg hc]
      rw [not_or] at hc
      have hstep : step ⟨.text, due⟩ c = some ⟨.text, due⟩ := by
        simp [step, hc]
      rw [List.singleton_append, read_cons_of_step hstep]
      exact ih

theorem closed_quote (value : String) : Closed (Quoted.quote value) := by
  intro due
  unfold Quoted.quote Quoted.encode
  rw [String.toList_ofList]
  exact read_escape value.toList due

/-- Whether the characters would end a comment. -/
def endsComment (cs : List Char) : Bool := containsChars "*/".toList cs

/-- Without the end of a comment among them, characters are read inside of it. -/
theorem read_inside_comment {cs : List Char} (hnone : endsComment cs = false)
    {mode : Mode} (hmode : mode = .comment ∨ mode = .asterisk ∧ cs.head? ≠ some '/')
    (due : List Char) :
    ∃ mode', (mode' = .comment ∨ mode' = .asterisk) ∧
      read ⟨mode, due⟩ cs = some ⟨mode', due⟩ := by
  induction cs generalizing mode with
  | nil =>
    rcases hmode with rfl | ⟨rfl, -⟩
    · exact ⟨.comment, .inl rfl, rfl⟩
    · exact ⟨.asterisk, .inr rfl, rfl⟩
  | cons c rest ih =>
    simp only [endsComment, containsChars, Bool.or_eq_false_iff] at hnone
    obtain ⟨hhere, hrest⟩ := hnone
    by_cases hc : c = '*'
    · -- behind an asterisk no slash may follow
      subst hc
      have hstep : step ⟨mode, due⟩ '*' = some ⟨.asterisk, due⟩ := by
        rcases hmode with rfl | ⟨rfl, -⟩
        · rfl
        · rfl
      rw [read_cons_of_step hstep]
      refine ih hrest (.inr ⟨rfl, ?_⟩)
      intro hslash
      cases rest with
      | nil => cases hslash
      | cons next others =>
        cases hslash
        simp at hhere
    · have hstep : step ⟨mode, due⟩ c = some ⟨.comment, due⟩ := by
        rcases hmode with rfl | ⟨rfl, hslash⟩
        · simp [step, hc]
        · have hne : c ≠ '/' := by simpa using hslash
          simp [step, hc, hne]
      rw [read_cons_of_step hstep]
      exact ih hrest (.inl rfl)

/-- A comment whose content does not end it is closed. What stands in front of the content opens
the comment and has no asterisk behind that. -/
theorem closed_comment {front content : String} (hopening : front.toList.take 2 = ['/', '*'])
    (hfront : '*' ∉ front.toList.drop 2) (hcontent : endsComment content.toList = false) :
    Closed (front ++ content ++ " */") := by
  intro due
  -- the front has no asterisk, so nothing in it can end the comment
  have hinside : read ⟨.comment, due⟩ (front.toList.drop 2) = some ⟨.comment, due⟩ := by
    generalize front.toList.drop 2 = cs at hfront
    induction cs with
    | nil => rfl
    | cons c rest ih =>
      rw [List.mem_cons, not_or] at hfront
      have hstep : step ⟨.comment, due⟩ c = some ⟨.comment, due⟩ := by
        simp [step, Ne.symm hfront.1]
      rw [read_cons_of_step hstep]
      exact ih hfront.2
  obtain ⟨mode, hmode, hread⟩ := read_inside_comment hcontent (.inl rfl) due
  rw [String.toList_append, String.toList_append, ← List.take_append_drop 2 front.toList,
    hopening, List.append_assoc, List.append_assoc]
  show read ⟨.comment, due⟩ (front.toList.drop 2 ++ (content.toList ++ " */".toList)) = _
  rw [read_append_of_read hinside, read_append_of_read hread]
  -- the content may end in an asterisk, but a blank stands behind it
  rcases hmode with rfl | rfl
  · rfl
  · rfl

/-! ## Numbers -/

theorem isInert_of_isDigit {c : Char} (h : c.isDigit = true) : isInert c = true := by
  have halphanum : c.isAlphanum = true := by
    simp [Char.isAlphanum, h]
  refine isInert_of_isPart ?_
  simp [Identifier.isPart, isAlphanumeric_of_isAlphanum c halphanum]

/-- Whether a character is a part of decimal numerals: a digit, a sign, the point or the letter of
an exponent. -/
def isNumeralPart (c : Char) : Bool := c.isDigit || ['+', '-', '.', 'e', 'E'].contains c

theorem isNumeralPart_of_isDigit {c : Char} (h : c.isDigit = true) : isNumeralPart c = true := by
  simp [isNumeralPart, h]

theorem isInert_of_isNumeralPart {c : Char} (h : isNumeralPart c = true) : isInert c = true := by
  have hmarks : ['+', '-', '.', 'e', 'E'].all isInert = true := by
    decide
  rcases Bool.or_eq_true_iff.1 h with hdigit | hmark
  · exact isInert_of_isDigit hdigit
  · exact List.all_eq_true.1 hmarks c (List.contains_iff_mem.1 hmark)

/-- A sign in front changes nothing. -/
theorem numeralParts_of_dropSign {cs : List Char}
    (h : ∀ c ∈ Numeral.dropSign cs, isNumeralPart c = true) :
    ∀ c ∈ cs, isNumeralPart c = true := by
  cases cs with
  | nil => exact h
  | cons first rest =>
    simp only [Numeral.dropSign] at h
    split at h
    · rename_i hsign
      rw [List.forall_mem_cons]
      refine ⟨?_, h⟩
      rcases hsign with rfl | rfl
      · decide
      · decide
    · exact h

theorem numeralParts_of_isDigits {cs : List Char} (h : Numeral.isDigits cs = true) :
    ∀ c ∈ cs, isNumeralPart c = true := by
  intro c hc
  simp only [Numeral.isDigits, Bool.and_eq_true, List.all_eq_true] at h
  exact isNumeralPart_of_isDigit (h.2 c hc)

theorem numeralParts_of_isExponent {cs : List Char} (h : Numeral.isExponent cs = true) :
    ∀ c ∈ cs, isNumeralPart c = true := by
  cases cs with
  | nil => exact fun _ hnil => absurd hnil List.not_mem_nil
  | cons first rest =>
    simp only [Numeral.isExponent, Bool.and_eq_true, Bool.or_eq_true, beq_iff_eq] at h
    obtain ⟨hfirst, hrest⟩ := h
    rw [List.forall_mem_cons]
    refine ⟨?_, numeralParts_of_dropSign (numeralParts_of_isDigits hrest)⟩
    rcases hfirst with rfl | rfl
    · decide
    · decide

/-- Digits in front of parts of a numeral change nothing. -/
theorem numeralParts_of_dropWhile_isDigit {cs : List Char}
    (h : ∀ c ∈ cs.dropWhile Char.isDigit, isNumeralPart c = true) :
    ∀ c ∈ cs, isNumeralPart c = true := by
  rw [← List.takeWhile_append_dropWhile (p := Char.isDigit) (l := cs)]
  rw [List.forall_mem_append]
  exact ⟨fun c hc => isNumeralPart_of_isDigit (List.all_eq_true.1 List.all_takeWhile c hc), h⟩

/-- A decimal numeral consists of parts of numerals. -/
theorem numeralParts_of_isDecimal {cs : List Char} (h : Numeral.isDecimal cs = true) :
    ∀ c ∈ cs, isNumeralPart c = true := by
  refine numeralParts_of_dropSign ?_
  unfold Numeral.isDecimal Numeral.isUnsigned at h
  refine numeralParts_of_dropWhile_isDigit ?_
  -- behind the digits stands a point with more of them, or at once the exponent
  split at h
  · rename_i rest hpoint
    rw [Bool.and_eq_true] at h
    rw [hpoint, List.forall_mem_cons]
    exact ⟨by decide, numeralParts_of_dropWhile_isDigit (numeralParts_of_isExponent h.2)⟩
  · rw [Bool.and_eq_true] at h
    exact numeralParts_of_isExponent h.2

/-- A numeric literal is closed, whether it stands bare or between quotes. -/
theorem closed_render (raw : String) : Closed (Numeral.render raw) := by
  unfold Numeral.render
  dsimp only
  split
  · exact closed_of_all (by decide)
  · split
    · rename_i hdecimal
      refine closed_of_inert ?_
      rw [String.toList_ofList]
      exact fun c hc => isInert_of_isNumeralPart (numeralParts_of_isDecimal hdecimal c hc)
    · exact closed_quote raw

theorem inert_toDigits (n : Nat) : ∀ c ∈ Nat.toDigits 10 n, isInert c = true := by
  intro c hc
  exact isInert_of_isDigit (Nat.isDigit_of_mem_toDigits (by decide) (by decide) hc)

theorem inert_replicate_zero (count : Nat) :
    ∀ c ∈ List.replicate count '0', isInert c = true := by
  intro c hc
  rw [List.eq_of_mem_replicate hc]
  decide

theorem inert_pointed {digits : List Char} (h : ∀ c ∈ digits, isInert c = true) (whole : Int) :
    ∀ c ∈ Json.Number.pointed digits whole, isInert c = true := by
  have hpoint : isInert '.' = true := by decide
  have hzero : isInert '0' = true := by decide
  unfold Json.Number.pointed
  split
  · simp only [List.forall_mem_cons, List.forall_mem_append]
    exact ⟨hzero, hpoint, inert_replicate_zero _, h⟩
  · simp only [List.forall_mem_cons, List.forall_mem_append]
    refine ⟨⟨fun c hc => h c (List.mem_of_mem_take hc), inert_replicate_zero _⟩, hpoint, ?_⟩
    split
    · simp [hzero]
    · exact fun c hc => h c (List.mem_of_mem_drop hc)

theorem inert_exponential {digits : List Char} (h : ∀ c ∈ digits, isInert c = true)
    (exponent : Int) : ∀ c ∈ Json.Number.exponential digits exponent, isInert c = true := by
  have hpoint : isInert '.' = true := by decide
  unfold Json.Number.exponential
  simp only [List.forall_mem_cons, List.forall_mem_append]
  refine ⟨?_, by decide, ?_, inert_toDigits _⟩
  · split
    · exact h
    · exact h
    · rw [List.forall_mem_cons] at h
      simp only [List.forall_mem_cons]
      exact ⟨h.1, hpoint, h.2⟩
  · split
    · decide
    · decide

theorem inert_realChars (x : Binary64) : ∀ c ∈ Json.Number.realChars x, isInert c = true := by
  unfold Json.Number.realChars
  dsimp only
  split
  · exact inert_pointed (inert_toDigits _) _
  · exact inert_exponential (inert_toDigits _) _

/-- The text of a document's number is closed. -/
theorem closed_number (n : Json.Number) : Closed n.text := by
  have hminus : isInert '-' = true := by decide
  refine closed_of_inert ?_
  unfold Json.Number.text
  rw [String.toList_ofList]
  cases n with
  | whole value =>
    simp only [Json.Number.chars]
    -- a sign may stand in front
    split
    · rw [List.forall_mem_cons]
      exact ⟨hminus, inert_toDigits _⟩
    · exact inert_toDigits _
  | real x =>
    simp only [Json.Number.chars]
    split
    · rw [List.forall_mem_cons]
      exact ⟨hminus, inert_realChars x⟩
    · exact inert_realChars x

end Lexical

end BlockScribe

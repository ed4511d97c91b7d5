import BlockScribe.Proofs.Text.Numerals
import BlockScribe.Proofs.Text.Quotation
import Mathlib.Computability.RegularExpressions

/-! # The grammar of numeric literals

A numeric literal stands bare if what is left of it between blanks is a decimal numeral. Which texts
are numerals is said by a regular expression (`decimal`), and the tests that a literal has to pass
accept exactly its words (`mem_decimal_iff`).

The same choice can be made with a reader of floating-point numbers, which takes more texts than
numerals (`inf`, `nan`): a look at the characters first keeps these out (`render_eq_renderBy`).

* `Bare`: the texts that stand bare, and what stands there.
* `numeric_literal_is_bare_numeral_or_quoted`: a literal is written bare or, if it cannot be,
  quoted.
-/

namespace BlockScribe

namespace Numeral

open RegularExpression

/-! ## The grammar -/

/-- One of some characters. -/
def oneOf (marks : List Char) : RegularExpression Char := (marks.map char).sum

/-- An expression that may be missing. -/
def optional (r : RegularExpression Char) : RegularExpression Char := 1 + r

def sign : RegularExpression Char := oneOf ['+', '-']

def point : RegularExpression Char := oneOf ['.']

def digit : RegularExpression Char := oneOf ['0', '1', '2', '3', '4', '5', '6', '7', '8', '9']

/-- One or more digits. -/
def digits : RegularExpression Char := digit * digit.star

def exponent : RegularExpression Char := oneOf ['e', 'E'] * (optional sign * digits)

/-- Digits with an optional point among or behind them, or a point in front of digits, and an
optional exponent. -/
def unsigned : RegularExpression Char :=
  (digits * optional (point * optional digits) + point * digits) * optional exponent

/-- The grammar of decimal numerals. -/
def decimal : RegularExpression Char := optional sign * unsigned

theorem mem_oneOf {marks cs : List Char} :
    cs ∈ (oneOf marks).matches' ↔ ∃ c ∈ marks, cs = [c] := by
  induction marks with
  | nil => simp [oneOf, Language.notMem_zero]
  | cons first rest ih =>
    have hsum : oneOf (first :: rest) = char first + oneOf rest := rfl
    have hfirst : cs ∈ (char first).matches' ↔ cs = [first] := Iff.rfl
    rw [hsum, matches'_add, Language.mem_add, ih, hfirst]
    simp

theorem mem_optional {r : RegularExpression Char} {cs : List Char} :
    cs ∈ (optional r).matches' ↔ cs = [] ∨ cs ∈ r.matches' := Iff.rfl

theorem mem_mul {r s : RegularExpression Char} {cs : List Char} :
    cs ∈ (r * s).matches' ↔ ∃ front ∈ r.matches', ∃ rest ∈ s.matches', front ++ rest = cs :=
  Iff.rfl

theorem mem_oneOf_mul {marks cs : List Char} {r : RegularExpression Char} :
    cs ∈ (oneOf marks * r).matches' ↔ ∃ c ∈ marks, ∃ rest ∈ r.matches', cs = c :: rest := by
  rw [mem_mul]
  constructor
  · rintro ⟨front, hfront, rest, hrest, rfl⟩
    obtain ⟨c, hc, rfl⟩ := mem_oneOf.1 hfront
    exact ⟨c, hc, rest, hrest, rfl⟩
  · rintro ⟨c, hc, rest, hrest, rfl⟩
    exact ⟨[c], mem_oneOf.2 ⟨c, hc, rfl⟩, rest, hrest, rfl⟩

/-! ## Digits -/

theorem mem_ten_digits {c : Char} :
    c ∈ ['0', '1', '2', '3', '4', '5', '6', '7', '8', '9'] ↔ c.isDigit = true := by
  constructor
  · intro h
    have hall : ['0', '1', '2', '3', '4', '5', '6', '7', '8', '9'].all Char.isDigit = true := by
      decide
    exact List.all_eq_true.1 hall c h
  · intro h
    have hbounds : 48 ≤ c.toNat ∧ c.toNat ≤ 57 := Char.isDigit_iff_toNat.1 h
    have hall : ∀ n ∈ List.range' 48 10,
        Char.ofNat n ∈ ['0', '1', '2', '3', '4', '5', '6', '7', '8', '9'] := by
      decide
    rw [← Char.ofNat_toNat c]
    apply hall
    rw [List.mem_range'_1]
    omega

theorem mem_star_digit {cs : List Char} :
    cs ∈ digit.star.matches' ↔ ∀ c ∈ cs, c.isDigit = true := by
  rw [matches'_star, Language.mem_kstar]
  constructor
  · rintro ⟨words, rfl, hwords⟩ c hc
    obtain ⟨word, hword, hmem⟩ := List.mem_flatten.1 hc
    obtain ⟨d, hd, rfl⟩ := mem_oneOf.1 (hwords word hword)
    rw [List.mem_singleton.1 hmem]
    exact mem_ten_digits.1 hd
  · intro h
    -- each digit is a word of its own
    refine ⟨cs.map fun c => [c], (List.flatMap_singleton' cs).symm, ?_⟩
    intro word hword
    obtain ⟨c, hc, rfl⟩ := List.mem_map.1 hword
    exact mem_oneOf.2 ⟨c, mem_ten_digits.2 (h c hc), rfl⟩

theorem mem_digits {cs : List Char} : cs ∈ digits.matches' ↔ isDigits cs = true := by
  rw [digits, digit, mem_oneOf_mul, ← digit]
  constructor
  · rintro ⟨c, hc, rest, hrest, rfl⟩
    refine isDigits_of_mem (List.cons_ne_nil c rest) ?_
    rw [List.forall_mem_cons]
    exact ⟨mem_ten_digits.1 hc, mem_star_digit.1 hrest⟩
  · intro h
    obtain ⟨c, rest, rfl⟩ := List.exists_cons_of_ne_nil (isDigits_ne_nil h)
    have hall := isDigit_of_isDigits h
    rw [List.forall_mem_cons] at hall
    exact ⟨c, mem_ten_digits.2 hall.1, rest, mem_star_digit.2 hall.2, rfl⟩

theorem mem_optional_digits {cs : List Char} :
    cs ∈ (optional digits).matches' ↔ ∀ c ∈ cs, c.isDigit = true := by
  rw [mem_optional, mem_digits]
  constructor
  · rintro (rfl | h)
    · exact fun _ hnil => absurd hnil List.not_mem_nil
    · exact isDigit_of_isDigits h
  · intro h
    by_cases hnone : cs = []
    · exact .inl hnone
    · exact .inr (isDigits_of_mem hnone h)

/-! ## Signs and exponents -/

/-- Where no word begins with a sign, dropping the sign undoes what an optional sign allows. -/
theorem mem_signed {r : RegularExpression Char} (h : ∀ cs ∈ r.matches', dropSign cs = cs)
    {cs : List Char} : cs ∈ (optional sign * r).matches' ↔ dropSign cs ∈ r.matches' := by
  rw [mem_mul]
  constructor
  · rintro ⟨front, hfront, rest, hrest, rfl⟩
    -- without a sign there is nothing to drop
    rcases mem_optional.1 hfront with rfl | hsign
    · rwa [List.nil_append, h rest hrest]
    · obtain ⟨c, hc, rfl⟩ := mem_oneOf.1 hsign
      have hdrop : dropSign ([c] ++ rest) = rest := if_pos (by simpa using hc)
      rwa [hdrop]
  · intro hdropped
    cases cs with
    | nil => exact ⟨[], mem_optional.2 (.inl rfl), [], hdropped, rfl⟩
    | cons c rest =>
      rw [dropSign] at hdropped
      split at hdropped
      · rename_i hsign
        exact ⟨[c], mem_optional.2 (.inr (mem_oneOf.2 ⟨c, by simpa using hsign, rfl⟩)), rest,
          hdropped, rfl⟩
      · exact ⟨[], mem_optional.2 (.inl rfl), c :: rest, hdropped, rfl⟩

theorem dropSign_of_isDigits {cs : List Char} (h : isDigits cs = true) : dropSign cs = cs := by
  refine dropSign_of_isDigit ?_
  intro c hc
  exact isDigit_of_isDigits h c (List.mem_of_head? hc)

theorem mem_optional_exponent {cs : List Char} :
    cs ∈ (optional exponent).matches' ↔ isExponent cs = true := by
  -- digits begin with no sign
  have hsigned : ∀ cs ∈ digits.matches', dropSign cs = cs := by
    intro cs hcs
    exact dropSign_of_isDigits (mem_digits.1 hcs)
  rw [mem_optional, exponent, mem_oneOf_mul]
  constructor
  · rintro (rfl | ⟨c, hc, rest, hrest, rfl⟩)
    · rfl
    · rw [mem_signed hsigned, mem_digits] at hrest
      have hletter : c = 'e' ∨ c = 'E' := by simpa using hc
      simp [isExponent, hletter, hrest]
  · intro h
    cases cs with
    | nil => exact .inl rfl
    | cons c rest =>
      simp only [isExponent, Bool.and_eq_true, Bool.or_eq_true, beq_iff_eq] at h
      refine .inr ⟨c, by simpa using h.1, rest, ?_, rfl⟩
      rw [mem_signed hsigned, mem_digits]
      exact h.2

/-! ## Numerals -/

/-- A numeral without a sign is made of digits and an exponent, or of digits around a point and an
exponent. -/
theorem isUnsigned_iff {cs : List Char} :
    isUnsigned cs = true ↔
      (∃ whole power, cs = whole ++ power ∧ isDigits whole = true ∧ isExponent power = true) ∨
      ∃ whole fraction power, cs = whole ++ '.' :: (fraction ++ power) ∧
        (∀ c ∈ whole, c.isDigit = true) ∧ (∀ c ∈ fraction, c.isDigit = true) ∧
        (whole ≠ [] ∨ fraction ≠ []) ∧ isExponent power = true := by
  constructor
  · intro h
    have hsplit : cs.takeWhile Char.isDigit ++ cs.dropWhile Char.isDigit = cs :=
      List.takeWhile_append_dropWhile
    have hwhole : ∀ c ∈ cs.takeWhile Char.isDigit, c.isDigit = true :=
      List.all_eq_true.1 List.all_takeWhile
    unfold isUnsigned at h
    dsimp only at h
    -- behind the first digits stands a point, or at once the exponent
    split at h
    · rename_i rest hpoint
      rw [Bool.and_eq_true] at h
      refine .inr ⟨cs.takeWhile Char.isDigit, rest.takeWhile Char.isDigit,
        rest.dropWhile Char.isDigit, ?_, hwhole, List.all_eq_true.1 List.all_takeWhile, ?_, h.2⟩
      · rw [List.takeWhile_append_dropWhile, ← hpoint, hsplit]
      · simpa [-List.takeWhile_eq_nil_iff] using h.1
    · rw [Bool.and_eq_true] at h
      have hsome : cs.takeWhile Char.isDigit ≠ [] := by
        simpa [-List.takeWhile_eq_nil_iff] using h.1
      exact .inl ⟨_, _, hsplit.symm, isDigits_of_mem hsome hwhole, h.2⟩
  · rintro (⟨whole, power, rfl, hwhole, hpower⟩ |
      ⟨whole, fraction, power, rfl, hwhole, hfraction, hsome, hpower⟩)
    · exact isUnsigned_of_exponent hwhole hpower
    · exact isUnsigned_of_point hwhole hfraction hsome hpower

theorem dropSign_of_isUnsigned {cs : List Char} (h : isUnsigned cs = true) : dropSign cs = cs := by
  rcases isUnsigned_iff.1 h with ⟨whole, power, rfl, hwhole, -⟩ |
    ⟨whole, fraction, power, rfl, hwhole, -, -, -⟩
  · exact dropSign_of_isDigit (isDigit_of_isUnsigned_append hwhole)
  · cases whole with
    | nil => rfl
    | cons c rest =>
      have hdigits : isDigits (c :: rest) = true :=
        isDigits_of_mem (List.cons_ne_nil c rest) hwhole
      exact dropSign_of_isDigit (isDigit_of_isUnsigned_append hdigits)

theorem mem_unsigned {cs : List Char} : cs ∈ unsigned.matches' ↔ isUnsigned cs = true := by
  rw [isUnsigned_iff, unsigned, mem_mul]
  constructor
  · rintro ⟨number, hnumber, power, hpower, rfl⟩
    rw [mem_optional_exponent] at hpower
    rcases hnumber with hnumber | hnumber
    · obtain ⟨whole, hwhole, tail, htail, rfl⟩ := mem_mul.1 hnumber
      rw [mem_digits] at hwhole
      rcases mem_optional.1 htail with rfl | htail
      · exact .inl ⟨whole, power, by rw [List.append_nil], hwhole, hpower⟩
      · obtain ⟨c, hc, fraction, hfraction, rfl⟩ := mem_oneOf_mul.1 htail
        rw [List.mem_singleton.1 hc]
        exact .inr ⟨whole, fraction, power, by simp, isDigit_of_isDigits hwhole,
          mem_optional_digits.1 hfraction, .inl (isDigits_ne_nil hwhole), hpower⟩
    · -- nothing stands in front of the point
      obtain ⟨c, hc, fraction, hfraction, rfl⟩ := mem_oneOf_mul.1 hnumber
      rw [mem_digits] at hfraction
      rw [List.mem_singleton.1 hc]
      exact .inr ⟨[], fraction, power, rfl, fun _ hnil => absurd hnil List.not_mem_nil,
        isDigit_of_isDigits hfraction, .inr (isDigits_ne_nil hfraction), hpower⟩
  · rintro (⟨whole, power, rfl, hwhole, hpower⟩ |
      ⟨whole, fraction, power, rfl, hwhole, hfraction, hsome, hpower⟩)
    · refine ⟨whole, .inl ?_, power, mem_optional_exponent.2 hpower, rfl⟩
      exact mem_mul.2 ⟨whole, mem_digits.2 hwhole, [], mem_optional.2 (.inl rfl), by simp⟩
    · refine ⟨whole ++ '.' :: fraction, ?_, power, mem_optional_exponent.2 hpower, by simp⟩
      have hpoint : '.' ∈ ['.'] := List.mem_singleton_self '.'
      by_cases hnone : whole = []
      · have hdigits : isDigits fraction = true :=
          isDigits_of_mem (hsome.resolve_left fun hne => hne hnone) hfraction
        rw [hnone]
        exact .inr (mem_oneOf_mul.2 ⟨'.', hpoint, fraction, mem_digits.2 hdigits, rfl⟩)
      · refine .inl (mem_mul.2 ⟨whole, mem_digits.2 (isDigits_of_mem hnone hwhole),
          '.' :: fraction, mem_optional.2 (.inr ?_), rfl⟩)
        exact mem_oneOf_mul.2 ⟨'.', hpoint, fraction, mem_optional_digits.2 hfraction, rfl⟩

/-- The decimal numerals are the words of their grammar. -/
theorem mem_decimal_iff {cs : List Char} : cs ∈ decimal.matches' ↔ isDecimal cs = true := by
  have hunsigned : ∀ cs ∈ unsigned.matches', dropSign cs = cs := by
    intro cs hcs
    exact dropSign_of_isUnsigned (mem_unsigned.1 hcs)
  rw [decimal, mem_signed hunsigned, mem_unsigned, isDecimal]

/-! ## Readers of floating-point numbers -/

/-- Of the texts made of parts of numerals, a reader of floating-point numbers takes the decimal
numerals. What else it takes is left open. -/
def ReadsDecimals (reads : List Char → Bool) : Prop :=
  ∀ cs, (∀ c ∈ cs, Lexical.isNumeralPart c = true) → (reads cs = true ↔ cs ∈ decimal.matches')

/-- Writes a numeric literal by a look at its characters and then a reader of floating-point
numbers. -/
def renderBy (reads : List Char → Bool) (raw : String) : String :=
  let trimmed := trimChars raw.toList
  if trimmed.isEmpty then "0"
  else if trimmed.all Lexical.isNumeralPart && reads trimmed then String.ofList trimmed
  else Quoted.quote raw

theorem isDecimal_eq_of_readsDecimals {reads : List Char → Bool} (h : ReadsDecimals reads)
    (cs : List Char) : isDecimal cs = (cs.all Lexical.isNumeralPart && reads cs) := by
  rw [Bool.eq_iff_iff, Bool.and_eq_true, List.all_eq_true, ← mem_decimal_iff]
  constructor
  · intro hdecimal
    have hparts := Lexical.numeralParts_of_isDecimal (mem_decimal_iff.1 hdecimal)
    exact ⟨hparts, (h cs hparts).2 hdecimal⟩
  · rintro ⟨hparts, hreads⟩
    exact (h cs hparts).1 hreads

/-- With any such reader literals are written alike. -/
theorem render_eq_renderBy {reads : List Char → Bool} (h : ReadsDecimals reads) (raw : String) :
    render raw = renderBy reads raw := by
  unfold render renderBy
  simp only [isDecimal_eq_of_readsDecimals h]

/-- A word in letters of either case. -/
def spelled (letters : List Char) : RegularExpression Char :=
  (letters.map fun c => oneOf [c, c.toUpper]).prod

/-- What is read as a floating-point number: a decimal numeral, or infinity or what is not a number,
by name. -/
def floating : RegularExpression Char :=
  optional sign * (unsigned +
    (spelled ['i', 'n', 'f'] * optional (spelled ['i', 'n', 'i', 't', 'y']) +
      spelled ['n', 'a', 'n']))

/-- A name begins with a letter that no numeral has. -/
theorem exists_not_isNumeralPart_of_spelled {first : Char} {letters cs : List Char}
    (hlower : Lexical.isNumeralPart first = false)
    (hupper : Lexical.isNumeralPart first.toUpper = false)
    (h : cs ∈ (spelled (first :: letters)).matches') :
    ∃ c ∈ cs, Lexical.isNumeralPart c = false := by
  have hprod : spelled (first :: letters) = oneOf [first, first.toUpper] * spelled letters := rfl
  rw [hprod] at h
  obtain ⟨c, hc, rest, -, rfl⟩ := mem_oneOf_mul.1 h
  refine ⟨c, List.mem_cons_self, ?_⟩
  rw [List.mem_cons, List.mem_singleton] at hc
  rcases hc with rfl | rfl
  · exact hlower
  · exact hupper

theorem readsDecimals_floating : ReadsDecimals floating.rmatch := by
  intro cs hparts
  rw [rmatch_iff_matches', floating, decimal, mem_mul, mem_mul]
  constructor
  · rintro ⟨front, hfront, rest, hunsigned | hname, rfl⟩
    · exact ⟨front, hfront, rest, hunsigned, rfl⟩
    · -- the name would show in the characters
      have hletter : ∃ c ∈ rest, Lexical.isNumeralPart c = false := by
        rcases hname with hinf | hnan
        · obtain ⟨word, hword, tail, -, rfl⟩ := mem_mul.1 hinf
          obtain ⟨c, hc, hpart⟩ :=
            exists_not_isNumeralPart_of_spelled (by decide) (by decide) hword
          exact ⟨c, List.mem_append_left tail hc, hpart⟩
        · exact exists_not_isNumeralPart_of_spelled (by decide) (by decide) hnan
      obtain ⟨c, hc, hpart⟩ := hletter
      rw [hparts c (List.mem_append_right front hc)] at hpart
      cases hpart
  · rintro ⟨front, hfront, rest, hunsigned, rfl⟩
    exact ⟨front, hfront, rest, .inl hunsigned, rfl⟩

/-! ## Literals -/

/-- The literals that stand bare, each with the text that stands there: zero for blanks alone, and a
decimal numeral without the blanks around it. -/
inductive Bare (raw : String) : String → Prop
  | zero (h : ∀ c ∈ raw.toList, isBlank c = true) : Bare raw "0"
  | numeral {core : List Char} (htrim : Trims raw.toList core) (h : core ∈ decimal.matches') :
    Bare raw (String.ofList core)

variable {raw text : String}

theorem render_of_bare (h : Bare raw text) : render raw = text := by
  cases h with
  | zero hblank =>
    unfold render
    rw [trimChars_eq_nil_iff.2 hblank]
    rfl
  | numeral htrim hdecimal =>
    rw [mem_decimal_iff, ← trims_iff.1 htrim] at hdecimal
    rw [render_of_isDecimal hdecimal, trims_iff.1 htrim]

theorem numeralParts_of_bare (h : Bare raw text) :
    ∀ c ∈ text.toList, Lexical.isNumeralPart c = true := by
  cases h with
  | zero hblank =>
    intro c hc
    have hzero : c ∈ ['0'] := hc
    rw [List.mem_singleton.1 hzero]
    decide
  | numeral htrim hdecimal =>
    rw [String.toList_ofList]
    exact Lexical.numeralParts_of_isDecimal (mem_decimal_iff.1 hdecimal)

/-- A literal that cannot stand bare is quoted as it is, blanks included. -/
theorem render_of_not_bare (h : ¬ ∃ text, Bare raw text) : render raw = Quoted.quote raw := by
  have hsome : (trimChars raw.toList).isEmpty = false := by
    rw [List.isEmpty_eq_false_iff]
    intro hnone
    exact h ⟨"0", .zero (trimChars_eq_nil_iff.1 hnone)⟩
  have hdecimal : isDecimal (trimChars raw.toList) = false := by
    rw [Bool.eq_false_iff]
    intro hdecimal
    exact h ⟨_, .numeral (trims_trimChars _) (mem_decimal_iff.2 hdecimal)⟩
  unfold render
  simp [hsome, hdecimal]

/-- The opening quote tells a quoted literal from a bare one. -/
theorem ne_quote_of_bare (h : Bare raw text) : text ≠ Quoted.quote raw := by
  intro hquote
  have hmem : '"' ∈ text.toList := by
    rw [hquote, Quoted.toList_quote]
    exact List.mem_cons_self
  have hpart := numeralParts_of_bare h '"' hmem
  cases hpart

/-- No part of a numeral is a blank or a mark that a script gives a meaning, and no letter but that
of an exponent is one. -/
theorem kinds_of_isNumeralPart {c : Char} (h : Lexical.isNumeralPart c = true) :
    isBlank c = false ∧ c ∉ ['"', '\'', '(', ')', ','] ∧
      (isAlphanumeric c = true → c.isDigit = true ∨ c = 'e' ∨ c = 'E') := by
  refine ⟨isBlank_of_isNumeralPart h, ?_, ?_⟩
  · intro hmark
    have hmarks : ['"', '\'', '(', ')', ','].all (fun c => !Lexical.isNumeralPart c) = true := by
      decide
    have hpart := List.all_eq_true.1 hmarks c hmark
    simp [h] at hpart
  · intro hletter
    have hsigns : ['+', '-', '.'].all (fun c => !isAlphanumeric c) = true := by
      decide
    rcases Bool.or_eq_true_iff.1 h with hdigit | hmark
    · exact .inl hdigit
    · -- signs and points are no letters, which leaves the mark of the exponent
      by_cases hsign : c ∈ ['+', '-', '.']
      · have hnone := List.all_eq_true.1 hsigns c hsign
        simp [hletter] at hnone
      · have hmem : c ∈ ['+', '-', '.'] ++ ['e', 'E'] := List.contains_iff_mem.1 hmark
        have hexponent := (List.mem_append.1 hmem).resolve_left hsign
        rw [List.mem_cons, List.mem_singleton] at hexponent
        exact .inr hexponent

/-- A numeric literal that can stand bare is written so: as zero if it is blank, and as the numeral
between its blanks if that is one. Exactly the others are quoted, as they are. What stands bare has
no blanks, quotes, parentheses or commas in it, and no letter but that of an exponent. The choice is
that of a look at the characters and any reader of floating-point numbers. -/
theorem numeric_literal_is_bare_numeral_or_quoted (raw : String) :
    (∀ text, Bare raw text → render raw = text ∧
      ∀ c ∈ text.toList, Lexical.isNumeralPart c = true ∧ isBlank c = false ∧
        c ∉ ['"', '\'', '(', ')', ','] ∧
        (isAlphanumeric c = true → c.isDigit = true ∨ c = 'e' ∨ c = 'E')) ∧
    (render raw = Quoted.quote raw ↔ ¬ ∃ text, Bare raw text) ∧
    (∀ reads, ReadsDecimals reads → render raw = renderBy reads raw) := by
  refine ⟨?_, ⟨?_, render_of_not_bare⟩, fun reads hreads => render_eq_renderBy hreads raw⟩
  · intro text hbare
    refine ⟨render_of_bare hbare, ?_⟩
    intro c hc
    have hpart := numeralParts_of_bare hbare c hc
    exact ⟨hpart, kinds_of_isNumeralPart hpart⟩
  · rintro hquote ⟨text, hbare⟩
    rw [render_of_bare hbare] at hquote
    exact ne_quote_of_bare hbare hquote

/-- A reader of floating-point numbers takes infinity by its name and a numeral without digits
behind its point. The name is quoted all the same, and the numeral stands bare without the blanks
around it. -/
theorem infinity_is_quoted_and_numeral_is_bare :
    ReadsDecimals floating.rmatch ∧
    floating.rmatch ['-', 'I', 'n', 'f'] = true ∧ floating.rmatch ['-', '1', '.', 'e', '3'] = true ∧
    (¬ ∃ text, Bare " -Inf" text) ∧ renderBy floating.rmatch " -Inf" = "\" -Inf\"" ∧
    Bare "\t-1.e3 " "-1.e3" ∧ renderBy floating.rmatch "\t-1.e3 " = "-1.e3" := by
  have hname := numeric_literal_is_bare_numeral_or_quoted " -Inf"
  have hnumeral := numeric_literal_is_bare_numeral_or_quoted "\t-1.e3 "
  have hbare : Bare "\t-1.e3 " "-1.e3" := by
    have htrim : Trims "\t-1.e3 ".toList ['-', '1', '.', 'e', '3'] := by
      rw [trims_iff]
      decide
    exact .numeral htrim (mem_decimal_iff.2 (by decide))
  -- a floating point number that is no decimal numeral
  have hquote : render " -Inf" = Quoted.quote " -Inf" := by
    decide
  refine ⟨readsDecimals_floating, by decide, by decide, hname.2.1.1 hquote, ?_, hbare, ?_⟩
  · rw [← hname.2.2 floating.rmatch readsDecimals_floating, hquote]
    decide
  · rw [← hnumeral.2.2 floating.rmatch readsDecimals_floating]
    exact (hnumeral.1 "-1.e3" hbare).1

end Numeral

end BlockScribe

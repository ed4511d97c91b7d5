import BlockScribe.Proofs.Text.Lexical
import BlockScribe.Proofs.Text.Trimming

/-! # The numbers of a document are decimal numerals

A number prints in one of three ways: digits alone, digits around a point, or digits with an
exponent behind them, each with a minus in front where it is negative. All of them pass as decimal
numerals, for every whole number and every double, so a number that is printed and then written as a
numeric literal stays as it is (`render_number`).

* `isUnsigned_of_exponent`, `isUnsigned_of_point`: the two shapes of a numeral, from its parts.
* `render_of_isDecimal`: a numeral between blanks is written without them.
-/

namespace BlockScribe

namespace Numeral

theorem isDigit_of_isDigits {cs : List Char} (h : isDigits cs = true) :
    ∀ c ∈ cs, c.isDigit = true := by
  simp only [isDigits, Bool.and_eq_true, List.all_eq_true] at h
  exact h.2

theorem isDigits_ne_nil {cs : List Char} (h : isDigits cs = true) : cs ≠ [] := by
  rintro rfl
  cases h

theorem isDigits_of_mem {cs : List Char} (hne : cs ≠ []) (h : ∀ c ∈ cs, c.isDigit = true) :
    isDigits cs = true := by
  have hempty : cs.isEmpty = false := by simpa using hne
  simp only [isDigits, hempty, Bool.not_false, Bool.true_and, List.all_eq_true]
  exact h

/-- An exponent does not begin with a digit. -/
theorem head_of_isExponent {cs : List Char} (h : isExponent cs = true) :
    ∀ c ∈ cs.head?, c.isDigit = false ∧ c ≠ '.' := by
  cases cs with
  | nil => simp
  | cons first rest =>
    simp only [isExponent, Bool.and_eq_true, Bool.or_eq_true, beq_iff_eq] at h
    intro c hc
    rw [List.head?_cons, Option.mem_some_iff] at hc
    rcases h.1 with hfirst | hfirst
    · rw [← hc, hfirst]
      decide
    · rw [← hc, hfirst]
      decide

/-- Digits and an exponent, which may be missing, are a numeral. -/
theorem isUnsigned_of_exponent {digits rest : List Char} (hdigits : isDigits digits = true)
    (hrest : isExponent rest = true) : isUnsigned (digits ++ rest) = true := by
  have hhead := head_of_isExponent hrest
  obtain ⟨htake, hdrop⟩ := span_front (isDigit_of_isDigits hdigits) fun c hc => (hhead c hc).1
  have hne : digits.isEmpty = false := by simpa using isDigits_ne_nil hdigits
  unfold isUnsigned
  rw [htake, hdrop]
  dsimp only
  split
  · -- no point comes here
    exact absurd rfl (hhead '.' rfl).2
  · simp [hne, hrest]

/-- Digits around a point and an exponent, which may be missing, are a numeral. There may be no
digits on one side of the point. -/
theorem isUnsigned_of_point {digits fraction rest : List Char}
    (hdigits : ∀ c ∈ digits, c.isDigit = true) (hfraction : ∀ c ∈ fraction, c.isDigit = true)
    (hsome : digits ≠ [] ∨ fraction ≠ []) (hrest : isExponent rest = true) :
    isUnsigned (digits ++ '.' :: (fraction ++ rest)) = true := by
  have hpoint : ∀ c ∈ ('.' :: (fraction ++ rest)).head?, c.isDigit = false := by
    intro c hc
    rw [List.head?_cons, Option.mem_some_iff] at hc
    rw [← hc]
    decide
  obtain ⟨htake, hdrop⟩ := span_front hdigits hpoint
  have hbehind := span_front hfraction fun c hc => (head_of_isExponent hrest c hc).1
  unfold isUnsigned
  rw [htake, hdrop]
  show ((!digits.isEmpty || !((fraction ++ rest).takeWhile Char.isDigit).isEmpty) &&
    isExponent ((fraction ++ rest).dropWhile Char.isDigit)) = true
  rw [hbehind.1, hbehind.2]
  rcases hsome with hsome | hsome
  · simp [hsome, hrest]
  · simp [hsome, hrest]

/-- What begins with a digit has no sign to drop. -/
theorem dropSign_of_isDigit {cs : List Char} (h : ∀ c ∈ cs.head?, c.isDigit = true) :
    dropSign cs = cs := by
  cases cs with
  | nil => rfl
  | cons first rest =>
    have hfirst : first.isDigit = true := h first rfl
    have hplus : first ≠ '+' := by
      rintro rfl
      cases hfirst
    have hminus : first ≠ '-' := by
      rintro rfl
      cases hfirst
    simp [dropSign, hplus, hminus]

theorem isDigit_of_isUnsigned_append {digits rest : List Char} (hdigits : isDigits digits = true) :
    ∀ c ∈ (digits ++ rest).head?, c.isDigit = true := by
  intro c hc
  rw [List.head?_append_of_ne_nil _ (isDigits_ne_nil hdigits)] at hc
  exact isDigit_of_isDigits hdigits c (List.mem_of_head? hc)

end Numeral

namespace Json.Number

open Numeral

/-! ## The parts of a number -/

theorem isDigits_toDigits (n : Nat) : isDigits (Nat.toDigits 10 n) = true := by
  refine isDigits_of_mem ?_ fun c hc => Nat.isDigit_of_mem_toDigits (by decide) (by decide) hc
  exact Nat.toDigits_ne_nil

theorem isDigit_of_mem_replicate {count : Nat} {c : Char} (h : c ∈ List.replicate count '0') :
    c.isDigit = true := by
  rw [List.eq_of_mem_replicate h]
  decide

theorem isExponent_power (exponent : Int) :
    isExponent ('e' :: (if exponent < 0 then '-' else '+') ::
      Nat.toDigits 10 exponent.natAbs) = true := by
  have hdrop : dropSign ((if exponent < 0 then '-' else '+') :: Nat.toDigits 10 exponent.natAbs) =
      Nat.toDigits 10 exponent.natAbs := by
    split
    · rfl
    · rfl
  simp [isExponent, hdrop, isDigits_toDigits]

/-- Whether characters are a numeral without a sign that begins with a digit. -/
def IsPlain (cs : List Char) : Prop :=
  isUnsigned cs = true ∧ ∀ c ∈ cs.head?, c.isDigit = true

theorem isPlain_of_exponent {digits rest : List Char} (hdigits : isDigits digits = true)
    (hrest : isExponent rest = true) : IsPlain (digits ++ rest) :=
  ⟨isUnsigned_of_exponent hdigits hrest, isDigit_of_isUnsigned_append hdigits⟩

theorem isPlain_of_point {digits fraction rest : List Char} (hdigits : isDigits digits = true)
    (hfraction : ∀ c ∈ fraction, c.isDigit = true) (hrest : isExponent rest = true) :
    IsPlain (digits ++ '.' :: (fraction ++ rest)) :=
  ⟨isUnsigned_of_point (isDigit_of_isDigits hdigits) hfraction (.inl (isDigits_ne_nil hdigits))
      hrest,
    isDigit_of_isUnsigned_append hdigits⟩

theorem isPlain_toDigits (n : Nat) : IsPlain (Nat.toDigits 10 n) := by
  have hnone : isExponent [] = true := rfl
  have hplain := isPlain_of_exponent (isDigits_toDigits n) hnone
  rwa [List.append_nil] at hplain

/-- Digits with a point among them, behind them or in front of them. -/
theorem isPlain_pointed {digits : List Char} (h : isDigits digits = true) (whole : Int) :
    IsPlain (pointed digits whole) := by
  have hdigit := isDigit_of_isDigits h
  have hnone : isExponent [] = true := rfl
  unfold pointed
  split
  · -- a zero stands in front of the point, and zeros fill up behind it
    have hfraction : ∀ c ∈ List.replicate (-whole).toNat '0' ++ digits, c.isDigit = true := by
      rw [List.forall_mem_append]
      exact ⟨fun c hc => isDigit_of_mem_replicate hc, hdigit⟩
    have hzero : isDigits ['0'] = true := by
      decide
    have hplain := isPlain_of_point hzero hfraction hnone
    rwa [List.append_nil] at hplain
  · rename_i hwhole
    have hpositive : 0 < whole.toNat := by omega
    have hfront : isDigits (digits.take whole.toNat ++
        List.replicate (whole.toNat - digits.length) '0') = true := by
      refine isDigits_of_mem ?_ ?_
      · have hlength : 0 < digits.length := List.length_pos_iff.2 (isDigits_ne_nil h)
        rw [← List.length_pos_iff, List.length_append, List.length_take]
        omega
      · rw [List.forall_mem_append]
        exact ⟨fun c hc => hdigit c (List.mem_of_mem_take hc),
          fun c hc => isDigit_of_mem_replicate hc⟩
    have hfraction : ∀ c ∈ (if (digits.drop whole.toNat).isEmpty then ['0']
        else digits.drop whole.toNat), c.isDigit = true := by
      split
      · intro c hc
        rw [List.mem_singleton.1 hc]
        rfl
      · exact fun c hc => hdigit c (List.mem_of_mem_drop hc)
    have hplain := isPlain_of_point hfront hfraction hnone
    rwa [List.append_nil] at hplain

/-- Digits with a point behind the first one, if there are more, and an exponent. -/
theorem isPlain_exponential {digits : List Char} (h : isDigits digits = true) (exponent : Int) :
    IsPlain (exponential digits exponent) := by
  have hdigit := isDigit_of_isDigits h
  have hpower := isExponent_power exponent
  unfold exponential
  split
  · exact absurd rfl (isDigits_ne_nil h)
  · exact isPlain_of_exponent h hpower
  · rename_i first rest _
    rw [List.forall_mem_cons] at hdigit
    have hfirst : isDigits [first] = true := by
      simp [isDigits, hdigit.1]
    exact isPlain_of_point hfirst hdigit.2 hpower

theorem isPlain_realChars (x : Binary64) : IsPlain (realChars x) := by
  unfold realChars
  dsimp only
  split
  · exact isPlain_pointed (isDigits_toDigits _) _
  · exact isPlain_exponential (isDigits_toDigits _) _

/-! ## Numbers -/

theorem isDecimal_of_isPlain {cs : List Char} (h : IsPlain cs) : isDecimal cs = true := by
  unfold isDecimal
  rw [dropSign_of_isDigit h.2]
  exact h.1

/-- A minus in front of a numeral without a sign leaves it a numeral. -/
theorem isDecimal_minus {cs : List Char} (h : IsPlain cs) : isDecimal ('-' :: cs) = true :=
  h.1

/-- Every number of a document, whole or double, is a decimal numeral. -/
theorem isDecimal_chars (n : Json.Number) : isDecimal n.chars = true := by
  cases n with
  | whole value =>
    simp only [chars]
    split
    · exact isDecimal_minus (isPlain_toDigits _)
    · exact isDecimal_of_isPlain (isPlain_toDigits _)
  | real x =>
    simp only [chars]
    split
    · exact isDecimal_minus (isPlain_realChars x)
    · exact isDecimal_of_isPlain (isPlain_realChars x)

end Json.Number

/-! ## Numbers as numeric literals -/

theorem isBlank_of_isDigit {c : Char} (h : c.isDigit = true) : isBlank c = false := by
  -- no range of blanks reaches into the digits
  have hranges : blankRanges.all (fun r => r.2 < 48 || 57 < r.1) = true := by
    decide
  have hbounds : 48 ≤ c.toNat ∧ c.toNat ≤ 57 := Char.isDigit_iff_toNat.1 h
  rw [Bool.eq_false_iff]
  intro hblank
  obtain ⟨r, hmem, hlow, hhigh⟩ := CodePoints.exists_range_of_member hblank
  have hrange := List.all_eq_true.1 hranges r hmem
  simp only [Bool.or_eq_true, decide_eq_true_eq] at hrange
  omega

theorem isBlank_of_isNumeralPart {c : Char} (h : Lexical.isNumeralPart c = true) :
    isBlank c = false := by
  have hmarks : ['+', '-', '.', 'e', 'E'].all (fun c => !isBlank c) = true := by
    decide
  rcases Bool.or_eq_true_iff.1 h with hdigit | hmark
  · exact isBlank_of_isDigit hdigit
  · simpa using List.all_eq_true.1 hmarks c (List.contains_iff_mem.1 hmark)

theorem Numeral.ne_nil_of_isDecimal {cs : List Char} (h : isDecimal cs = true) : cs ≠ [] := by
  rintro rfl
  cases h

/-- A literal that is a decimal numeral between blanks is written without them. -/
theorem Numeral.render_of_isDecimal {raw : String} (h : isDecimal (trimChars raw.toList) = true) :
    render raw = String.ofList (trimChars raw.toList) := by
  have hsome : (trimChars raw.toList).isEmpty = false := by
    simpa using ne_nil_of_isDecimal h
  unfold render
  simp [hsome, h]

/-- A number that is written as a numeric literal stays as it is. -/
theorem render_number (n : Json.Number) : Numeral.render n.text = n.text := by
  have hdecimal := n.isDecimal_chars
  have htrim : trimChars n.text.toList = n.chars := by
    unfold Json.Number.text
    rw [String.toList_ofList]
    refine trimChars_of_not_blank fun c hc => ?_
    exact isBlank_of_isNumeralPart (Lexical.numeralParts_of_isDecimal hdecimal c hc)
  rw [← htrim] at hdecimal
  rw [Numeral.render_of_isDecimal hdecimal, htrim]
  rfl

end BlockScribe

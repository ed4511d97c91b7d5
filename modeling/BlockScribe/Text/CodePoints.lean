/-! # Sets of code points

A character class of the Unicode standard is stored as its ranges of code points, ascending and
apart from each other, so a search may stop at the first range that starts too high.
-/

namespace BlockScribe.CodePoints

/-- Whether `point` lies in one of the ascending ranges. -/
def member (point : Nat) : List (Nat × Nat) → Bool
  | [] => false
  | (first, last) :: rest => first ≤ point && (point ≤ last || member point rest)

/-- A point that is found lies in one of the ranges. -/
theorem exists_range_of_member {point : Nat} {ranges : List (Nat × Nat)}
    (h : member point ranges = true) : ∃ r ∈ ranges, r.1 ≤ point ∧ point ≤ r.2 := by
  induction ranges with
  | nil => simp [member] at h
  | cons r rest ih =>
    simp only [member, Bool.and_eq_true, Bool.or_eq_true, decide_eq_true_eq] at h
    obtain ⟨hlow, hhigh | hrest⟩ := h
    · exact ⟨r, by simp, hlow, hhigh⟩
    · obtain ⟨s, hs, hbounds⟩ := ih hrest
      exact ⟨s, by simp [hs], hbounds⟩

end BlockScribe.CodePoints

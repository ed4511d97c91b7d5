import BlockScribe.Error
import Mathlib.Data.List.Forall2

/-! # Attempts in a row

Reading the targets of a project or loading the descriptors of its extensions tries the items of a
list one after the other and stops at the first that fails. What such a row gives is said here
without the order of evaluation: one value for each item, or the error of the first item that has
one.

* `FirstRefused`, `FailsFirst`: an error is that of the first item that is refused, or that fails.
* `mapM_eq_ok_iff`, `mapM_eq_error_iff`: what a row of attempts gives.
* `Decides`: a result tells what is accepted, and why the rest is not.
-/

namespace BlockScribe

variable {ε α β γ : Type}

/-- All items of the list in front of some item are accepted, and that item is refused for the
error. -/
def FirstRefused (Accepted : α → Prop) (Refused : α → ε → Prop) (list : List α) (error : ε) :
    Prop :=
  ∃ earlier item later, list = earlier ++ item :: later ∧
    (∀ other ∈ earlier, Accepted other) ∧ Refused item error

/-- All items of the list in front of some item succeed, and that item fails with the error. -/
def FailsFirst (attempt : α → Except ε β) : List α → ε → Prop :=
  FirstRefused (fun item => ∃ value, attempt item = .ok value)
    fun item error => attempt item = .error error

variable {attempt : α → Except ε β} {list : List α} {error : ε}

theorem not_failsFirst_nil : ¬ FailsFirst attempt [] error := by
  rintro ⟨earlier, item, later, hsplit, -⟩
  exact List.append_ne_nil_of_right_ne_nil earlier (List.cons_ne_nil item later) hsplit.symm

/-- The first failure of a list is that of its head, or the head succeeds and it is that of the
rest. -/
theorem failsFirst_cons_iff {first : α} :
    FailsFirst attempt (first :: list) error ↔
      attempt first = .error error ∨
        (∃ value, attempt first = .ok value) ∧ FailsFirst attempt list error := by
  constructor
  · rintro ⟨earlier, item, later, hsplit, hearlier, hitem⟩
    -- either nothing stands in front of the failing item, or the first item does
    cases earlier with
    | nil =>
      obtain ⟨rfl, -⟩ := List.cons.inj hsplit
      exact .inl hitem
    | cons head rest =>
      obtain ⟨rfl, rfl⟩ := List.cons.inj hsplit
      rw [List.forall_mem_cons] at hearlier
      exact .inr ⟨hearlier.1, rest, item, later, rfl, hearlier.2, hitem⟩
  · rintro (hfirst | ⟨hfirst, earlier, item, later, rfl, hearlier, hitem⟩)
    · exact ⟨[], first, list, rfl, List.forall_mem_nil _, hfirst⟩
    · exact ⟨first :: earlier, item, later, rfl, List.forall_mem_cons.2 ⟨hfirst, hearlier⟩, hitem⟩

/-- If some item fails, one of them is the first. -/
theorem exists_failsFirst_iff :
    (∃ error, FailsFirst attempt list error) ↔
      ∃ item ∈ list, ∃ error, attempt item = .error error := by
  constructor
  · rintro ⟨error, earlier, item, later, rfl, -, hitem⟩
    exact ⟨item, List.mem_append_right _ List.mem_cons_self, error, hitem⟩
  · intro hfails
    induction list with
    | nil =>
      obtain ⟨item, hmem, -⟩ := hfails
      exact absurd hmem List.not_mem_nil
    | cons first rest ih =>
      -- some item fails; the first that does is this one or comes later
      cases hfirst : attempt first with
      | error error => exact ⟨error, failsFirst_cons_iff.2 (.inl hfirst)⟩
      | ok value =>
        obtain ⟨item, hmem, error, hitem⟩ := hfails
        rcases List.mem_cons.1 hmem with rfl | hrest
        · rw [hfirst] at hitem
          cases hitem
        · obtain ⟨found, hfound⟩ := ih ⟨item, hrest, error, hitem⟩
          exact ⟨found, failsFirst_cons_iff.2 (.inr ⟨⟨value, hfirst⟩, hfound⟩)⟩

/-- A row that ends well gives one value for each item, in order. -/
theorem mapM_eq_ok_iff {values : List β} :
    list.mapM attempt = .ok values ↔
      List.Forall₂ (fun item value => attempt item = .ok value) list values := by
  constructor
  · intro h
    induction list generalizing values with
    | nil =>
      cases h
      exact .nil
    | cons first rest ih =>
      -- each item gives its value, and the rest goes on from there
      rw [List.mapM_cons] at h
      obtain ⟨value, hfirst, h⟩ := exists_of_except_bind_eq_ok h
      obtain ⟨others, hrest, h⟩ := exists_of_except_bind_eq_ok h
      cases h
      exact .cons hfirst (ih hrest)
  · intro h
    induction h with
    | nil => rfl
    | cons hfirst _ ih =>
      rw [List.mapM_cons, hfirst, ih]
      rfl

/-- A row that fails does so with the error of the first item that fails. -/
theorem mapM_eq_error_iff : list.mapM attempt = .error error ↔ FailsFirst attempt list error := by
  induction list with
  | nil =>
    constructor
    · intro h
      cases h
    · intro h
      exact absurd h not_failsFirst_nil
  | cons first rest ih =>
    rw [failsFirst_cons_iff, ← ih, List.mapM_cons]
    cases hfirst : attempt first with
    | error found =>
      -- the rest is not tried
      show Except.error found = Except.error error ↔ _
      simp
    | ok value =>
      cases hrest : rest.mapM attempt with
      | error found =>
        show Except.error found = Except.error error ↔ _
        simp
      | ok values =>
        show Except.ok (value :: values) = Except.error error ↔ _
        simp

/-- Looking for the errors of a row finds the first one. -/
theorem findSome?_eq_some_iff_failsFirst {failure : α → Option ε}
    (hfailure : ∀ item error, failure item = some error ↔ attempt item = .error error) :
    list.findSome? failure = some error ↔ FailsFirst attempt list error := by
  induction list with
  | nil =>
    constructor
    · intro h
      cases h
    · intro h
      exact absurd h not_failsFirst_nil
  | cons first rest ih =>
    rw [failsFirst_cons_iff, ← ih, ← hfailure, List.findSome?_cons]
    -- an item without a failure must have ended well
    cases hfirst : failure first with
    | some found =>
      have hfailed := (hfailure first found).1 hfirst
      simp [hfailed]
    | none =>
      cases hattempt : attempt first with
      | error found =>
        rw [(hfailure first found).2 hattempt] at hfirst
        cases hfirst
      | ok value => simp

/-- Whatever fails just as a row does, succeeds if all items of the row do. -/
theorem exists_ok_iff_of_failsFirst {result : Except ε γ}
    (h : ∀ error, result = .error error ↔ FailsFirst attempt list error) :
    (∃ value, result = .ok value) ↔ ∀ item ∈ list, ∃ value, attempt item = .ok value := by
  cases hresult : result with
  | error error =>
    obtain ⟨earlier, item, later, rfl, -, hitem⟩ := (h error).1 hresult
    constructor
    · rintro ⟨value, hvalue⟩
      cases hvalue
    · intro hall
      obtain ⟨value, hvalue⟩ := hall item (List.mem_append_right _ List.mem_cons_self)
      rw [hitem] at hvalue
      cases hvalue
  | ok value =>
    refine iff_of_true ⟨value, rfl⟩ ?_
    intro item hmem
    cases hitem : attempt item with
    | error error =>
      -- a failing item would make some item fail first
      obtain ⟨first, hfirst⟩ := exists_failsFirst_iff.2 ⟨item, hmem, error, hitem⟩
      rw [← h, hresult] at hfirst
      cases hfirst
    | ok found => exact ⟨found, rfl⟩

/-! ## Decisions -/

/-- There is a value exactly for what is accepted, and an error exactly if it is the reason for
which something is refused. -/
structure Decides (result : Except ε α) (Accepted : Prop) (Refused : ε → Prop) : Prop where
  exists_ok_iff : (∃ value, result = .ok value) ↔ Accepted
  eq_error_iff (error : ε) : result = .error error ↔ Refused error

/-- Where everything is accepted or refused, it is enough to know the result in both cases. -/
theorem Decides.of_total {result : Except ε α} {Accepted : Prop} {Refused : ε → Prop}
    (haccepted : Accepted → ∃ value, result = .ok value)
    (hrefused : ∀ error, Refused error → result = .error error)
    (htotal : Accepted ∨ ∃ error, Refused error) : Decides result Accepted Refused := by
  -- every value is on one side, and there the other side is ruled out
  rcases htotal with hyes | ⟨error, hno⟩
  · obtain ⟨value, rfl⟩ := haccepted hyes
    refine ⟨iff_of_true ⟨value, rfl⟩ hyes, ?_⟩
    intro error
    refine ⟨?_, hrefused error⟩
    intro heq
    cases heq
  · obtain rfl := hrefused error hno
    refine ⟨⟨?_, haccepted⟩, ?_⟩
    · rintro ⟨value, hvalue⟩
      cases hvalue
    · intro other
      refine ⟨?_, hrefused other⟩
      intro heq
      cases heq
      exact hno

theorem Decides.map {result : Except ε α} {Accepted : Prop} {Refused : ε → Prop}
    (h : Decides result Accepted Refused) (f : α → β) :
    Decides (result.map f) Accepted Refused where
  exists_ok_iff := by
    rw [← h.exists_ok_iff]
    cases result <;> simp [Except.map]
  eq_error_iff error := by
    rw [← h.eq_error_iff]
    cases result <;> simp [Except.map]

/-- A row of decisions decides whether all items are accepted. -/
theorem Decides.of_row {Accepted : α → Prop} {Refused : α → ε → Prop} {result : Except ε γ}
    (hrow : ∀ error, result = .error error ↔ FailsFirst attempt list error)
    (hitem : ∀ item, Decides (attempt item) (Accepted item) (Refused item)) :
    Decides result (∀ item ∈ list, Accepted item) (FirstRefused Accepted Refused list) where
  exists_ok_iff := by
    rw [exists_ok_iff_of_failsFirst hrow]
    simp only [(hitem _).exists_ok_iff]
  eq_error_iff error := by
    rw [hrow]
    unfold FailsFirst
    simp only [(hitem _).exists_ok_iff, (hitem _).eq_error_iff]

end BlockScribe

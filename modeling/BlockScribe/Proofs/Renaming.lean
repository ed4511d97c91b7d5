import BlockScribe.Proofs.Output.Names
import Mathlib.Data.Nat.Find
import Mathlib.Order.Bounds.Basic

/-! # Renaming comes to an end

A name that is taken gets one more underscore, and is looked at again. Nothing in this rule says
when it stops, and with a test that takes every name it does not. `Renames` is the rule as it
stands, without a limit, with the number of its turns.

* `renames_iff`: it stops at the fewest underscores with which the name is not taken.
* `exists_renames_iff`: it stops at all if and only if there is such a number.
* `Renames.extend_eq`: the search with a limit finds the same name, if the limit is not too low.
* `renames_freshBy`: against finitely many names it always stops, after at most as many turns as
  there are names, also where the names are compared by a key that keeps underscores.
-/

namespace BlockScribe

namespace Identifier

variable {taken : String → Bool} {candidate name : String} {turns : Nat}

/-! ## The rule without a limit -/

/-- While the candidate is taken, an underscore is put behind it; after `turns` turns this stops,
with `name`. -/
inductive Renames (taken : String → Bool) :
    (candidate : String) → (turns : Nat) → (name : String) → Prop
  | free {candidate : String} (h : taken candidate = false) : Renames taken candidate 0 candidate
  | append {candidate name : String} {turns : Nat} (h : taken candidate = true)
    (hrest : Renames taken (candidate ++ "_") turns name) :
    Renames taken candidate (turns + 1) name

/-- The numbers of underscores with which a name is not taken. -/
def freeCounts (taken : String → Bool) (candidate : String) : Set Nat :=
  {count | taken (suffixed candidate count) = false}

theorem mem_freeCounts_append (count : Nat) :
    count ∈ freeCounts taken (candidate ++ "_") ↔ count + 1 ∈ freeCounts taken candidate := by
  show taken (suffixed (candidate ++ "_") count) = false ↔ _
  rw [suffixed_append]
  rfl

theorem zero_mem_freeCounts : 0 ∈ freeCounts taken candidate ↔ taken candidate = false := by
  show taken (suffixed candidate 0) = false ↔ _
  rw [suffixed_zero]

/-- Every turn puts one underscore behind the name. -/
theorem Renames.eq_suffixed (h : Renames taken candidate turns name) :
    name = suffixed candidate turns := by
  induction h with
  | free _ => rw [suffixed_zero]
  | append _ _ ih => rw [ih, suffixed_append]

theorem Renames.not_taken (h : Renames taken candidate turns name) : taken name = false := by
  induction h with
  | free hfree => exact hfree
  | append _ _ ih => exact ih

/-- No turn is made without need. -/
theorem Renames.isLeast (h : Renames taken candidate turns name) :
    IsLeast (freeCounts taken candidate) turns := by
  induction h with
  | free hfree =>
    refine ⟨zero_mem_freeCounts.2 hfree, ?_⟩
    intro count _
    exact Nat.zero_le count
  | append htaken _ ih =>
    obtain ⟨hmem, hleast⟩ := ih
    refine ⟨(mem_freeCounts_append _).1 hmem, ?_⟩
    intro count hcount
    cases count with
    | zero =>
      -- the name itself was taken
      have hfree := zero_mem_freeCounts.1 hcount
      rw [htaken] at hfree
      cases hfree
    | succ count =>
      have hle := hleast ((mem_freeCounts_append count).2 hcount)
      omega

theorem renames_of_isLeast (h : IsLeast (freeCounts taken candidate) turns) :
    Renames taken candidate turns (suffixed candidate turns) := by
  induction turns generalizing candidate with
  | zero =>
    rw [suffixed_zero]
    exact .free (zero_mem_freeCounts.1 h.1)
  | succ turns ih =>
    -- a name that is free as it is needs no underscore, which is fewer
    have htaken : taken candidate = true := by
      by_contra hfree
      rw [Bool.not_eq_true, ← zero_mem_freeCounts] at hfree
      have hle := h.2 hfree
      omega
    have hrest : IsLeast (freeCounts taken (candidate ++ "_")) turns := by
      refine ⟨(mem_freeCounts_append turns).2 h.1, ?_⟩
      intro count hcount
      have hle := h.2 ((mem_freeCounts_append count).1 hcount)
      omega
    rw [← suffixed_append]
    exact .append htaken (ih hrest)

/-- Renaming stops at the fewest underscores with which the name is not taken. -/
theorem renames_iff :
    Renames taken candidate turns name ↔
      IsLeast (freeCounts taken candidate) turns ∧ name = suffixed candidate turns := by
  constructor
  · intro h
    exact ⟨h.isLeast, h.eq_suffixed⟩
  · rintro ⟨hleast, rfl⟩
    exact renames_of_isLeast hleast

/-- Renaming stops if and only if some number of underscores frees the name. -/
theorem exists_renames_iff :
    (∃ turns name, Renames taken candidate turns name) ↔
      ∃ count, taken (suffixed candidate count) = false := by
  constructor
  · rintro ⟨turns, name, h⟩
    exact ⟨turns, h.isLeast.1⟩
  · intro hfree
    have hleast : IsLeast (freeCounts taken candidate) (Nat.find hfree) :=
      ⟨Nat.find_spec hfree, fun count hcount => Nat.find_min' hfree hcount⟩
    exact ⟨_, _, renames_of_isLeast hleast⟩

/-- A search whose limit is not too low does what the rule does. -/
theorem Renames.extend_eq (h : Renames taken candidate turns name) {limit : Nat}
    (hlimit : turns ≤ limit) : extend taken limit candidate = name := by
  induction h generalizing limit with
  | free hfree =>
    cases limit with
    | zero => rfl
    | succ limit => simp [extend, hfree]
  | append htaken _ ih =>
    obtain ⟨less, rfl⟩ : ∃ less, limit = less + 1 := ⟨limit - 1, by omega⟩
    rw [extend, if_pos htaken]
    exact ih (by omega)

/-! ## Finitely many names -/

/-- Renaming stops with a name after at most so many turns. -/
def RenamesWithin (limit : Nat) (taken : String → Bool) (candidate name : String) : Prop :=
  ∃ turns ≤ limit, Renames taken candidate turns name

theorem RenamesWithin.not_taken {limit : Nat} (h : RenamesWithin limit taken candidate name) :
    taken name = false := by
  obtain ⟨turns, -, hrenames⟩ := h
  exact hrenames.not_taken

/-- Against finitely many names renaming stops after at most as many turns as there are names. -/
theorem renames_freshBy {key : String → String}
    (hkey : ∀ name count, key (suffixed name count) = suffixed (key name) count)
    (used : List String) (candidate : String) :
    RenamesWithin used.length (fun name => used.contains (key name)) candidate
      (freshBy key used candidate) := by
  obtain ⟨count, hle, heq, hbelow, -⟩ :=
    extend_eq_suffixed (fun name => used.contains (key name)) used.length candidate
  have hname : freshBy key used candidate = suffixed candidate count := heq
  -- it was not the limit that ended the search: so many candidates cannot all be in use
  have hfree : key (suffixed candidate count) ∉ used := by
    rw [← hname]
    exact freshBy_not_mem hkey used candidate
  have hleast : IsLeast (freeCounts (fun name => used.contains (key name)) candidate) count := by
    constructor
    · simpa [freeCounts] using hfree
    · intro fewer hfewer
      by_contra hlt
      have htaken := hbelow fewer (by omega)
      have huntaken : used.contains (key (suffixed candidate fewer)) = false := hfewer
      rw [huntaken] at htaken
      cases htaken
  rw [hname]
  exact ⟨count, hle, renames_of_isLeast hleast⟩

theorem renames_fresh (used : List String) (candidate : String) :
    RenamesWithin used.length (fun name => used.contains name) candidate (fresh used candidate) :=
  @renames_freshBy id (fun _ _ => rfl) used candidate

theorem renames_parameter (raw : String) :
    RenamesWithin reserved.length isReserved (ofRaw raw) (parameter raw) :=
  renames_fresh reserved (ofRaw raw)

end Identifier

open Identifier

theorem Scope.isReserved_or_isTaken (scope : Scope) (name : String) :
    (isReserved name || scope.isTaken name) = (reserved ++ scope.names).contains name := by
  rw [List.contains_append]
  rfl

theorem Scope.renames_freshName (scope : Scope) (candidate : String) :
    RenamesWithin (reserved.length + scope.names.length)
      (fun name => isReserved name || scope.isTaken name) candidate
      (scope.freshName candidate) := by
  have h := renames_fresh (reserved ++ scope.names) candidate
  rw [List.length_append] at h
  simp only [Scope.isReserved_or_isTaken]
  exact h

theorem Placed.renames_key (placed : Placed) (asset : Asset) :
    RenamesWithin placed.entries.size placed.entries.contains asset.name (placed.key asset) := by
  have h := renames_fresh placed.entries.keys asset.name
  have hsize : placed.entries.keys.length = placed.entries.size := List.length_map _
  rw [hsize] at h
  exact h

theorem renames_freshFileName (used : List String) (raw : String) :
    RenamesWithin used.length (fun name => used.contains (lowercase name)) (ofRaw raw)
      (freshFileName used raw) :=
  renames_freshBy lowercase_suffixed used (ofRaw raw)

/-- Renaming stops if and only if some number of underscores frees the name, and then at the least
such number; the search with a limit that is not lower finds the same name. Wherever names are made
fresh it stops, whatever the names are that must be avoided: for the names of a scope, where the
result is neither reserved nor taken, for parameters, for the keys of a manifest, and for files and
directories, whose names are compared in lower case. -/
theorem renaming_stops_at_fewest_underscores (taken : String → Bool) (candidate : String)
    (scope : Scope) (raw : String) (placed : Placed) (asset : Asset) (used : List String) :
    ((∃ turns name, Renames taken candidate turns name) ↔
      ∃ count, taken (suffixed candidate count) = false) ∧
    (∀ turns name, Renames taken candidate turns name ↔
      IsLeast {count | taken (suffixed candidate count) = false} turns ∧
        name = suffixed candidate turns) ∧
    (∀ turns name limit, Renames taken candidate turns name → turns ≤ limit →
      extend taken limit candidate = name) ∧
    (RenamesWithin (reserved.length + scope.names.length)
        (fun name => isReserved name || scope.isTaken name) candidate
        (scope.freshName candidate) ∧
      isReserved (scope.freshName candidate) = false ∧
      scope.isTaken (scope.freshName candidate) = false) ∧
    RenamesWithin reserved.length isReserved (ofRaw raw) (parameter raw) ∧
    RenamesWithin placed.entries.size placed.entries.contains asset.name (placed.key asset) ∧
    RenamesWithin used.length (fun name => used.contains (lowercase name)) (ofRaw raw)
      (freshFileName used raw) := by
  refine ⟨exists_renames_iff, fun _ _ => renames_iff, ?_, ?_, renames_parameter raw,
    placed.renames_key asset, renames_freshFileName used raw⟩
  · intro turns name limit h hlimit
    exact h.extend_eq hlimit
  · have hscope := scope.renames_freshName candidate
    exact ⟨hscope, Bool.or_eq_false_iff.1 hscope.not_taken⟩

end BlockScribe

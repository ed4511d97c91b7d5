import BlockScribe.Scope
import Mathlib.Data.List.Nodup
import Mathlib.Data.List.Perm.Subperm

/-! # Bare names and the hygiene of scopes

What a name in a script may look like, and what the names of a scope have to do with each other.

* `Identifier.IsProper`: a bare word that is not reserved. Raw names become bare words
  (`isBare_ofRaw`), and a word stays bare when underscores are appended (`IsBare.suffixed`).
* `Identifier.extend_eq_suffixed`: the search for a free name stops at the fewest underscores.
* `Identifier.freshBy_not_mem`: the bounded search always finds a free name, also where names are
  compared by a key. The candidates with different numbers of underscores are different, so the
  names to avoid cannot hold all of them.
* `Scope.Hygienic`: all names of a scope are proper, and no two of its ids and proccodes share a
  name. Binding an id on first sight and registering a procedure under a fresh name keep it.
* `Scope.hygienic_iff`: it can be checked name by name.
-/

namespace BlockScribe

namespace Identifier

/-! ## Bare words -/

/-- A bare word: not empty, letters, digits and underscores only, and no decimal digit in
front. -/
structure IsBare (name : String) : Prop where
  ne_empty : name ≠ ""
  isPart : ∀ c ∈ name.toList, isPart c = true
  head_not_digit : ∀ c, name.toList.head? = some c → c.isDigit = false

/-- A bare word that a script does not reserve. -/
structure IsProper (name : String) : Prop extends IsBare name where
  not_reserved : name ∉ reserved

instance (name : String) : Decidable (IsBare name) :=
  decidable_of_iff (name ≠ "" ∧ name.toList.all isPart = true ∧
      name.toList.head?.all (fun c => !c.isDigit) = true) <| by
    rw [List.all_eq_true, Option.all_eq_true]
    simp only [Bool.not_eq_true']
    exact ⟨fun h => ⟨h.1, h.2.1, h.2.2⟩, fun h => ⟨h.ne_empty, h.isPart, h.head_not_digit⟩⟩

instance (name : String) : Decidable (IsProper name) :=
  decidable_of_iff (IsBare name ∧ name ∉ reserved) ⟨fun h => ⟨h.1, h.2⟩, fun h => ⟨h.1, h.2⟩⟩

theorem isPart_underscore : Identifier.isPart '_' = true := by
  simp [Identifier.isPart]

theorem isPart_of_mem_mask {cs : List Char} {c : Char} (hc : c ∈ mask cs) :
    Identifier.isPart c = true := by
  unfold mask at hc
  rcases List.mem_map.1 hc with ⟨d, _, rfl⟩
  by_cases hd : Identifier.isPart d = true
  · simp [hd]
  · simp [hd, isPart_underscore]

theorem lead_ne_nil (cs : List Char) : lead cs ≠ [] := by
  cases cs with
  | nil => simp [lead]
  | cons c rest =>
    by_cases hc : c.isDigit = true
    · simp [lead, hc]
    · simp [lead, hc]

theorem isPart_of_mem_lead {cs : List Char} (hcs : ∀ c ∈ cs, Identifier.isPart c = true) {c : Char}
    (hc : c ∈ lead cs) : Identifier.isPart c = true := by
  cases cs with
  | nil =>
    have hc' : c = '_' := by simpa [lead] using hc
    rw [hc']
    exact isPart_underscore
  | cons d rest =>
    by_cases hd : d.isDigit = true
    · -- the only new character is the underscore in front
      simp only [lead, hd, if_true, List.mem_cons] at hc
      rcases hc with rfl | hc
      · exact isPart_underscore
      · exact hcs c (List.mem_cons.2 hc)
    · simp only [lead, hd] at hc
      exact hcs c hc

theorem head_lead_not_digit {cs : List Char} {c : Char} (hc : (lead cs).head? = some c) :
    c.isDigit = false := by
  cases cs with
  | nil =>
    have hc' : '_' = c := by simpa [lead] using hc
    rw [← hc']
    decide
  | cons d rest =>
    by_cases hd : d.isDigit = true
    · have hc' : '_' = c := by simpa [lead, hd] using hc
      rw [← hc']
      decide
    · have hc' : d = c := by simpa [lead, hd] using hc
      rw [← hc']
      simpa using hd

/-- Every raw name becomes a bare word. -/
theorem isBare_ofRaw (raw : String) : IsBare (ofRaw raw) where
  ne_empty := by
    intro hempty
    have hnil : lead (mask raw.toList) = [] := by
      simpa [ofRaw] using congrArg String.toList hempty
    exact lead_ne_nil _ hnil
  isPart := by
    intro c hc
    have hc' : c ∈ lead (mask raw.toList) := by simpa [ofRaw] using hc
    exact isPart_of_mem_lead (fun d hd => isPart_of_mem_mask hd) hc'
  head_not_digit := by
    intro c hc
    have hc' : (lead (mask raw.toList)).head? = some c := by simpa [ofRaw] using hc
    exact head_lead_not_digit hc'

/-! ## Appended underscores -/

/-- The candidate with `count` underscores behind it. -/
def suffixed (candidate : String) (count : Nat) : String :=
  candidate ++ String.ofList (List.replicate count '_')

@[simp]
theorem suffixed_zero (candidate : String) : suffixed candidate 0 = candidate := by
  simp [suffixed]

theorem suffixed_append (candidate : String) (count : Nat) :
    suffixed (candidate ++ "_") count = suffixed candidate (count + 1) := by
  apply String.toList_injective
  simp [suffixed, List.replicate_succ]

@[simp]
theorem toList_suffixed (candidate : String) (count : Nat) :
    (suffixed candidate count).toList = candidate.toList ++ List.replicate count '_' := by
  simp [suffixed]

/-- Different numbers of underscores make different names. -/
theorem suffixed_injective (candidate : String) : Function.Injective (suffixed candidate) := by
  intro i j hij
  have hlist := congrArg String.toList hij
  have hlength := congrArg List.length hlist
  simpa using hlength

/-- A bare word stays bare when underscores are appended. -/
theorem IsBare.suffixed {candidate : String} (h : IsBare candidate) (count : Nat) :
    IsBare (suffixed candidate count) where
  ne_empty := by
    intro hempty
    have hnil := congrArg String.toList hempty
    simp only [toList_suffixed, String.toList_empty, List.append_eq_nil_iff] at hnil
    exact h.ne_empty (String.toList_injective hnil.1)
  isPart := by
    intro c hc
    rw [toList_suffixed, List.mem_append] at hc
    rcases hc with hc | hc
    · exact h.isPart c hc
    · rw [List.eq_of_mem_replicate hc]
      exact isPart_underscore
  head_not_digit := by
    -- the first character is that of the candidate, which has one
    intro c hc
    have hne : candidate.toList ≠ [] := by
      intro hnil
      exact h.ne_empty (String.toList_injective hnil)
    rw [toList_suffixed, List.head?_append_of_ne_nil _ hne] at hc
    exact h.head_not_digit c hc

/-! ## The search for a free name -/

/-- The search appends the fewest underscores that free the name, unless its limit ends it. -/
theorem extend_eq_suffixed (taken : String → Bool) (limit : Nat) (candidate : String) :
    ∃ count ≤ limit, extend taken limit candidate = suffixed candidate count ∧
      (∀ i < count, taken (suffixed candidate i) = true) ∧
      (count < limit → taken (suffixed candidate count) = false) := by
  induction limit generalizing candidate with
  | zero => exact ⟨0, Nat.le_refl 0, by simp [extend], by simp, by simp⟩
  | succ limit ih =>
    -- a taken candidate costs one underscore and one unit of the limit
    by_cases htaken : taken candidate = true
    · rcases ih (candidate ++ "_") with ⟨count, hle, heq, hbelow, hat⟩
      refine ⟨count + 1, by omega, ?_, ?_, ?_⟩
      · simp [extend, htaken, heq, suffixed_append]
      · intro i hi
        cases i with
        | zero => simpa using htaken
        | succ i =>
          have := hbelow i (by omega)
          rwa [suffixed_append] at this
      · intro hlt
        have := hat (by omega)
        rwa [suffixed_append] at this
    · refine ⟨0, by omega, by simp [extend, htaken], by simp, ?_⟩
      intro _
      simpa using htaken

/-- A list cannot hold more of the candidates than it has entries. -/
theorem count_le_length_of_mem {used : List String} {candidate : String} {count : Nat}
    (h : ∀ i < count, suffixed candidate i ∈ used) : count ≤ used.length := by
  -- the candidates are different, so they fit into the list only one by one
  have hnodup : ((List.range count).map (suffixed candidate)).Nodup :=
    List.nodup_range.map (suffixed_injective candidate)
  have hsub : (List.range count).map (suffixed candidate) ⊆ used := by
    intro name hname
    rcases List.mem_map.1 hname with ⟨i, hi, rfl⟩
    exact h i (List.mem_range.1 hi)
  have hle := (List.subperm_of_subset hnodup hsub).length_le
  simpa using hle

/-- A fresh name is the candidate with some underscores behind it. -/
theorem fresh_eq_suffixed (used : List String) (candidate : String) :
    ∃ count, fresh used candidate = suffixed candidate count := by
  rcases extend_eq_suffixed (fun name => used.contains name) used.length candidate with
    ⟨count, _, heq, _, _⟩
  exact ⟨count, heq⟩

/-- The search for a name that is free under a key finds one, if the key keeps underscores. -/
theorem freshBy_not_mem {key : String → String}
    (hkey : ∀ name count, key (suffixed name count) = suffixed (key name) count)
    (used : List String) (candidate : String) : key (freshBy key used candidate) ∉ used := by
  rcases extend_eq_suffixed (fun name => used.contains (key name)) used.length candidate with
    ⟨count, hle, heq, hbelow, hat⟩
  have hname : freshBy key used candidate = suffixed candidate count := heq
  rw [hname, hkey]
  intro hmem
  rcases Nat.lt_or_eq_of_le hle with hlt | hend
  · have hfree := hat hlt
    simp [hkey, hmem] at hfree
  · -- the limit was reached: more candidates are in use than there are names
    have hall : ∀ i < count + 1, suffixed (key candidate) i ∈ used := by
      intro i hi
      rcases Nat.lt_or_eq_of_le (Nat.le_of_lt_succ hi) with hi' | rfl
      · simpa [hkey] using hbelow i hi'
      · exact hmem
    have := count_le_length_of_mem hall
    omega

/-- A fresh name is not among the names to avoid. -/
theorem fresh_not_mem (used : List String) (candidate : String) :
    fresh used candidate ∉ used := by
  have hfree : id (freshBy id used candidate) ∉ used :=
    freshBy_not_mem (fun _ _ => rfl) used candidate
  exact hfree

/-- The name of a parameter is proper. -/
theorem isProper_parameter (raw : String) : IsProper (parameter raw) where
  toIsBare := by
    rcases fresh_eq_suffixed reserved (ofRaw raw) with ⟨count, heq⟩
    show IsBare (fresh reserved (ofRaw raw))
    rw [heq]
    exact (isBare_ofRaw raw).suffixed count
  not_reserved := fresh_not_mem reserved (ofRaw raw)

end Identifier

/-- What the values of a table are mapped to is different if and only if it tells the keys. -/
theorem Dict.nodup_map_values_iff {α β : Type} {d : Dict String α} {f : α → β} :
    (d.values.map f).Nodup ↔ ∀ {key other value twin}, d.get? key = some value →
      d.get? other = some twin → f value = f twin → key = other := by
  unfold Dict.values
  rw [List.map_map]
  constructor
  · intro h key other value twin hget htwin heq
    -- equal images at two keys make the two entries one
    have hmem := Dict.mem_entries_of_get? hget
    have hother := Dict.mem_entries_of_get? htwin
    exact congrArg Prod.fst (List.inj_on_of_nodup_map h hmem hother heq)
  · intro h
    refine d.distinct.of_map.map_on ?_
    rintro ⟨key, value⟩ hmem ⟨other, twin⟩ hother heq
    have hget := Dict.get?_of_mem_entries hmem
    have htwin := Dict.get?_of_mem_entries hother
    obtain rfl := h hget htwin heq
    rw [Option.some.inj (hget.symm.trans htwin)]

namespace Scope

open Identifier

/-! ## Names of a scope -/

theorem mem_names_of_name? {scope : Scope} {id name : String} (h : scope.name? id = some name) :
    name ∈ scope.names :=
  List.mem_append_left _ (Dict.mem_values_of_get? h)

/-- An id is declared if and only if it has a name. -/
theorem isDeclared_eq_isSome (scope : Scope) (id : String) :
    scope.isDeclared id = (scope.name? id).isSome :=
  (Dict.isSome_get? scope.bindings id).symm

theorem mem_names_of_procedure? {scope : Scope} {proccode : String} {procedure : Procedure}
    (h : scope.procedure? proccode = some procedure) : procedure.name ∈ scope.names :=
  List.mem_append_right _ (List.mem_map_of_mem (Dict.mem_values_of_get? h))

theorem freshName_not_mem_names (scope : Scope) (candidate : String) :
    scope.freshName candidate ∉ scope.names := by
  intro hmem
  exact fresh_not_mem _ candidate (List.mem_append_right _ hmem)

/-- A raw name made fresh in a scope is proper. -/
theorem isProper_freshName (scope : Scope) (raw : String) :
    IsProper (scope.freshName (ofRaw raw)) where
  toIsBare := by
    rcases fresh_eq_suffixed (reserved ++ scope.names) (ofRaw raw) with ⟨count, heq⟩
    show IsBare (fresh (reserved ++ scope.names) (ofRaw raw))
    rw [heq]
    exact (isBare_ofRaw raw).suffixed count
  not_reserved := by
    intro hmem
    exact fresh_not_mem (reserved ++ scope.names) _ (List.mem_append_left _ hmem)

/-! ## Binding and registering -/

theorem bind_of_name? {scope : Scope} {id name : String} (h : scope.name? id = some name)
    (raw : String) : scope.bind id raw = (name, scope) := by
  simp [Scope.bind, h]

theorem bind_of_unbound {scope : Scope} {id : String} (h : scope.name? id = none)
    (raw : String) :
    scope.bind id raw =
      (scope.freshName (ofRaw raw), scope.inherit id (scope.freshName (ofRaw raw))) := by
  simp [Scope.bind, h, Scope.inherit]

theorem name?_inherit (scope : Scope) (id name other : String) :
    (scope.inherit id name).name? other = if other = id then some name else scope.name? other :=
  Dict.get?_insert scope.bindings id other name

@[simp]
theorem procedure?_inherit (scope : Scope) (id name proccode : String) :
    (scope.inherit id name).procedure? proccode = scope.procedure? proccode := rfl

theorem procedure?_register (scope : Scope) (proccode other : String) (procedure : Procedure) :
    (scope.register proccode procedure).procedure? other =
      if other = proccode then some procedure else scope.procedure? other :=
  Dict.get?_insert scope.procedures proccode other procedure

@[simp]
theorem name?_register (scope : Scope) (proccode id : String) (procedure : Procedure) :
    (scope.register proccode procedure).name? id = scope.name? id := rfl

/-- After a binding the id has the name that was answered. -/
theorem name?_bind_self (scope : Scope) (id raw : String) :
    (scope.bind id raw).2.name? id = some (scope.bind id raw).1 := by
  cases h : scope.name? id with
  | some name => simp [bind_of_name? h, h]
  | none => simp [bind_of_unbound h, name?_inherit]

@[simp]
theorem procedures_bind (scope : Scope) (id raw : String) :
    (scope.bind id raw).2.procedures = scope.procedures := by
  cases h : scope.name? id with
  | some name => simp [bind_of_name? h]
  | none => simp [bind_of_unbound h, Scope.inherit]

@[simp]
theorem isStage_bind (scope : Scope) (id raw : String) :
    (scope.bind id raw).2.isStage = scope.isStage := by
  cases h : scope.name? id with
  | some name => simp [bind_of_name? h]
  | none => simp [bind_of_unbound h, Scope.inherit]

/-! ## Hygiene -/

/-- All names are proper, and no two ids, no two proccodes, and no id and proccode share a
name. -/
structure Hygienic (scope : Scope) : Prop where
  binding_proper : ∀ {id name}, scope.name? id = some name → IsProper name
  procedure_proper : ∀ {proccode procedure},
    scope.procedure? proccode = some procedure → IsProper procedure.name
  binding_injective : ∀ {id other name},
    scope.name? id = some name → scope.name? other = some name → id = other
  procedure_injective : ∀ {proccode other procedure twin},
    scope.procedure? proccode = some procedure → scope.procedure? other = some twin →
      procedure.name = twin.name → proccode = other
  disjoint : ∀ {id name proccode procedure},
    scope.name? id = some name → scope.procedure? proccode = some procedure →
      name ≠ procedure.name

theorem hygienic_new (isStage : Bool) : (Scope.new isStage).Hygienic where
  binding_proper h := by cases h
  procedure_proper h := by cases h
  binding_injective h := by cases h
  procedure_injective h := by cases h
  disjoint h := by cases h

/-- A scope is hygienic if and only if all its names are proper and it has each of them once. -/
theorem hygienic_iff (scope : Scope) :
    scope.Hygienic ↔ (∀ name ∈ scope.names, IsProper name) ∧ scope.names.Nodup := by
  unfold names
  rw [List.forall_mem_append, List.nodup_append, ← List.map_id scope.bindings.values,
    Dict.nodup_map_values_iff, Dict.nodup_map_values_iff]
  constructor
  · intro h
    -- names of bindings, names of procedures, and the two apart from each other
    refine ⟨⟨?_, ?_⟩, ?_, h.procedure_injective, ?_⟩
    · intro name hname
      rw [List.map_id] at hname
      obtain ⟨id, hid⟩ := Dict.exists_get?_of_mem_values hname
      exact h.binding_proper hid
    · intro name hname
      obtain ⟨procedure, hmem, rfl⟩ := List.mem_map.1 hname
      obtain ⟨proccode, hprocedure⟩ := Dict.exists_get?_of_mem_values hmem
      exact h.procedure_proper hprocedure
    · rintro id other name _ hid hother rfl
      exact h.binding_injective hid hother
    · intro name hname other hother
      rw [List.map_id] at hname
      obtain ⟨id, hid⟩ := Dict.exists_get?_of_mem_values hname
      obtain ⟨procedure, hmem, rfl⟩ := List.mem_map.1 hother
      obtain ⟨proccode, hprocedure⟩ := Dict.exists_get?_of_mem_values hmem
      exact h.disjoint hid hprocedure
  · rintro ⟨⟨hbindings, hprocedures⟩, hinjective, hproccodes, hdisjoint⟩
    rw [List.map_id] at hbindings hdisjoint
    have hmem : ∀ {proccode procedure}, scope.procedure? proccode = some procedure →
        procedure.name ∈ scope.procedures.values.map Procedure.name :=
      fun hprocedure => List.mem_map_of_mem (Dict.mem_values_of_get? hprocedure)
    exact {
      binding_proper := fun hname => hbindings _ (Dict.mem_values_of_get? hname)
      procedure_proper := fun hprocedure => hprocedures _ (hmem hprocedure)
      binding_injective := fun hid hother => hinjective hid hother rfl
      procedure_injective := hproccodes
      disjoint := fun hname hprocedure =>
        hdisjoint _ (Dict.mem_values_of_get? hname) _ (hmem hprocedure) }

instance (scope : Scope) : Decidable scope.Hygienic :=
  decidable_of_iff' _ scope.hygienic_iff

/-- Taking over a proper name that nothing in the scope has keeps the scope hygienic. -/
theorem Hygienic.inherit {scope : Scope} (h : scope.Hygienic) {id name : String}
    (hproper : IsProper name) (hfresh : name ∉ scope.names) :
    (scope.inherit id name).Hygienic where
  binding_proper := by
    intro other bound hbound
    rw [name?_inherit] at hbound
    by_cases heq : other = id
    · rw [if_pos heq] at hbound
      rw [← Option.some.inj hbound]
      exact hproper
    · rw [if_neg heq] at hbound
      exact h.binding_proper hbound
  procedure_proper := by
    intro proccode procedure hprocedure
    exact h.procedure_proper hprocedure
  binding_injective := by
    intro first second bound hfirst hsecond
    rw [name?_inherit] at hfirst hsecond
    by_cases h1 : first = id
    · by_cases h2 : second = id
      · rw [h1, h2]
      · -- an old id with the new name: the new name is fresh
        rw [if_pos h1] at hfirst
        rw [if_neg h2] at hsecond
        rw [← Option.some.inj hfirst] at hsecond
        exact absurd (mem_names_of_name? hsecond) hfresh
    · rw [if_neg h1] at hfirst
      by_cases h2 : second = id
      · rw [if_pos h2] at hsecond
        rw [← Option.some.inj hsecond] at hfirst
        exact absurd (mem_names_of_name? hfirst) hfresh
      · rw [if_neg h2] at hsecond
        exact h.binding_injective hfirst hsecond
  procedure_injective := by
    intro proccode other procedure twin hfirst hsecond hname
    exact h.procedure_injective hfirst hsecond hname
  disjoint := by
    -- no procedure has the new name, since it is fresh against all names
    intro other bound proccode procedure hbound hprocedure hname
    rw [name?_inherit] at hbound
    by_cases heq : other = id
    · rw [if_pos heq] at hbound
      have hmem : procedure.name ∈ scope.names := mem_names_of_procedure? hprocedure
      rw [← hname, ← Option.some.inj hbound] at hmem
      exact hfresh hmem
    · rw [if_neg heq] at hbound
      exact h.disjoint hbound hprocedure hname

/-- Binding an id keeps a scope hygienic. -/
theorem Hygienic.bind {scope : Scope} (h : scope.Hygienic) (id raw : String) :
    (scope.bind id raw).2.Hygienic := by
  cases hid : scope.name? id with
  | some name =>
    rw [bind_of_name? hid]
    exact h
  | none =>
    rw [bind_of_unbound hid]
    exact h.inherit (isProper_freshName scope raw) (freshName_not_mem_names scope _)

/-- Registering a procedure under a proper name that nothing in the scope has keeps the scope
hygienic. -/
theorem Hygienic.register {scope : Scope} (h : scope.Hygienic) {proccode : String}
    {procedure : Procedure} (hproper : IsProper procedure.name)
    (hfresh : procedure.name ∉ scope.names) :
    (scope.register proccode procedure).Hygienic where
  binding_proper := by
    intro id name hname
    exact h.binding_proper hname
  procedure_proper := by
    intro other found hfound
    rw [procedure?_register] at hfound
    by_cases heq : other = proccode
    · rw [if_pos heq] at hfound
      rw [← Option.some.inj hfound]
      exact hproper
    · rw [if_neg heq] at hfound
      exact h.procedure_proper hfound
  binding_injective := by
    intro id other name hfirst hsecond
    exact h.binding_injective hfirst hsecond
  procedure_injective := by
    -- as for bindings: only the new procedure has the new name
    intro first second found twin hfirst hsecond hname
    rw [procedure?_register] at hfirst hsecond
    by_cases h1 : first = proccode
    · by_cases h2 : second = proccode
      · rw [h1, h2]
      · rw [if_pos h1] at hfirst
        rw [if_neg h2] at hsecond
        have hmem := mem_names_of_procedure? hsecond
        rw [← hname, ← Option.some.inj hfirst] at hmem
        exact absurd hmem hfresh
    · rw [if_neg h1] at hfirst
      by_cases h2 : second = proccode
      · rw [if_pos h2] at hsecond
        have hmem := mem_names_of_procedure? hfirst
        rw [hname, ← Option.some.inj hsecond] at hmem
        exact absurd hmem hfresh
      · rw [if_neg h2] at hsecond
        exact h.procedure_injective hfirst hsecond hname
  disjoint := by
    intro id name other found hname hfound hsame
    rw [procedure?_register] at hfound
    by_cases heq : other = proccode
    · rw [if_pos heq] at hfound
      have hmem : name ∈ scope.names := mem_names_of_name? hname
      rw [hsame, ← Option.some.inj hfound] at hmem
      exact hfresh hmem
    · rw [if_neg heq] at hfound
      exact h.disjoint hname hfound hsame

/-- Registering a procedure under a fresh name keeps a scope hygienic. -/
theorem Hygienic.register_fresh {scope : Scope} (h : scope.Hygienic)
    (proccode definition raw : String) (arguments argumentNames : List String) (warp : Bool) :
    (scope.register proccode
      ⟨definition, scope.freshName (ofRaw raw), arguments, argumentNames, warp⟩).Hygienic := by
  have hproper := isProper_freshName scope raw
  have hfresh := freshName_not_mem_names scope (ofRaw raw)
  -- all that matters of the fresh name are these two facts
  generalize scope.freshName (ofRaw raw) = name at hproper hfresh ⊢
  exact h.register hproper hfresh

/-! ## Binding many ids -/

/-- Binds ids to names made from raw names, one after the other. -/
def bindAll (scope : Scope) (raw : List (String × String)) : Scope :=
  raw.foldl (fun s e => (s.bind e.1 e.2).2) scope

@[simp]
theorem bindAll_nil (scope : Scope) : scope.bindAll [] = scope := rfl

@[simp]
theorem bindAll_cons (scope : Scope) (e : String × String) (rest : List (String × String)) :
    scope.bindAll (e :: rest) = (scope.bind e.1 e.2).2.bindAll rest := rfl

theorem bindAll_append (scope : Scope) (first second : List (String × String)) :
    scope.bindAll (first ++ second) = (scope.bindAll first).bindAll second := by
  simp [bindAll]

theorem Hygienic.bindAll {scope : Scope} (h : scope.Hygienic) (raw : List (String × String)) :
    (scope.bindAll raw).Hygienic := by
  induction raw generalizing scope with
  | nil => exact h
  | cons e rest ih => exact ih (h.bind e.1 e.2)

/-! ## Growing scopes -/

/-- A scope that another one grew into: the same stage flag and procedures, and the old bindings
followed by new ones. -/
structure GrowsTo (before after : Scope) : Prop where
  isStage_eq : after.isStage = before.isStage
  procedures_eq : after.procedures = before.procedures
  bindings_prefix : ∃ added, after.bindings.entries = before.bindings.entries ++ added

theorem GrowsTo.refl (scope : Scope) : scope.GrowsTo scope :=
  ⟨rfl, rfl, [], by simp⟩

theorem GrowsTo.trans {first second third : Scope} (h₁ : first.GrowsTo second)
    (h₂ : second.GrowsTo third) : first.GrowsTo third := by
  rcases h₁ with ⟨hstage₁, hprocedures₁, added₁, hentries₁⟩
  rcases h₂ with ⟨hstage₂, hprocedures₂, added₂, hentries₂⟩
  refine ⟨hstage₂.trans hstage₁, hprocedures₂.trans hprocedures₁, added₁ ++ added₂, ?_⟩
  rw [hentries₂, hentries₁, List.append_assoc]

theorem growsTo_bind (scope : Scope) (id raw : String) :
    scope.GrowsTo (scope.bind id raw).2 := by
  refine ⟨isStage_bind scope id raw, procedures_bind scope id raw, ?_⟩
  cases hid : scope.name? id with
  | some name => exact ⟨[], by simp [bind_of_name? hid]⟩
  | none =>
    rw [bind_of_unbound hid]
    exact ⟨[(id, _)], Dict.entries_insert_of_get?_eq_none hid _⟩

theorem growsTo_bindAll (scope : Scope) (raw : List (String × String)) :
    scope.GrowsTo (scope.bindAll raw) := by
  induction raw generalizing scope with
  | nil => exact GrowsTo.refl scope
  | cons e rest ih => exact (growsTo_bind scope e.1 e.2).trans (ih _)

/-- A bound id keeps its name while the scope grows. -/
theorem GrowsTo.name? {before after : Scope} (h : before.GrowsTo after) {id name : String}
    (hname : before.name? id = some name) : after.name? id = some name := by
  rcases h.bindings_prefix with ⟨added, hentries⟩
  have hmem : (id, name) ∈ after.bindings.entries := by
    rw [hentries]
    exact List.mem_append_left added (Dict.mem_entries_of_get? hname)
  exact Dict.get?_of_mem_entries hmem

/-- Every id that was bound has a name in the end. -/
theorem isSome_name?_bindAll (scope : Scope) {raw : List (String × String)} {id : String}
    (h : id ∈ raw.map Prod.fst) : ∃ name, (scope.bindAll raw).name? id = some name := by
  induction raw generalizing scope with
  | nil => simp at h
  | cons e rest ih =>
    -- the first id has its name at once and keeps it; the others get theirs later
    rcases List.mem_cons.1 h with rfl | htail
    · have hbound := name?_bind_self scope e.1 e.2
      exact ⟨_, (growsTo_bindAll _ rest).name? hbound⟩
    · exact ih _ htail

/-- Names in use stay in use while the scope grows. -/
theorem GrowsTo.mem_names {before after : Scope} (h : before.GrowsTo after) {name : String}
    (hname : name ∈ before.names) : name ∈ after.names := by
  rcases h.bindings_prefix with ⟨added, hentries⟩
  unfold Scope.names Dict.values at hname ⊢
  rw [hentries, h.procedures_eq, List.map_append]
  rcases List.mem_append.1 hname with hbound | hprocedure
  · exact List.mem_append_left _ (List.mem_append_left _ hbound)
  · exact List.mem_append_right _ hprocedure

theorem GrowsTo.procedure? {before after : Scope} (h : before.GrowsTo after)
    (proccode : String) : after.procedure? proccode = before.procedure? proccode := by
  unfold Scope.procedure?
  rw [h.procedures_eq]

end Scope

end BlockScribe

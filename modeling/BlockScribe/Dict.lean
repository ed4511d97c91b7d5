/-! # Ordered dictionaries

A project file is full of tables whose order matters: blocks, variables, slots. A `Dict` keeps
its entries in the order in which their keys were first written, and no key stands twice; the
second fact is part of the type, so every operation re-establishes it.

* `insert` writes a value: a known key keeps its place, a new key goes to the end
  (`keys_insert`).
* `ofList` writes a whole list of pairs, so a repeated key keeps its first place and its last
  value.
* `filterMap` keeps the order of what it keeps.
-/

namespace BlockScribe

universe u v w

/-- A table that remembers the order of its keys. -/
structure Dict (κ : Type u) (α : Type v) where
  /-- The pairs, in the order in which their keys were first written. -/
  entries : List (κ × α)
  /-- No key stands twice. -/
  distinct : (entries.map Prod.fst).Nodup

namespace Dict

variable {κ : Type u} {α : Type v} {β : Type w}

@[ext]
theorem ext {d e : Dict κ α} (h : d.entries = e.entries) : d = e := by
  cases d
  cases e
  cases h
  rfl

/-- The table without entries. -/
def empty : Dict κ α := ⟨[], List.nodup_nil⟩

instance : Inhabited (Dict κ α) := ⟨empty⟩

/-- The keys, in order. -/
def keys (d : Dict κ α) : List κ := d.entries.map Prod.fst

/-- The values, in the order of their keys. -/
def values (d : Dict κ α) : List α := d.entries.map Prod.snd

/-- The number of entries. -/
def size (d : Dict κ α) : Nat := d.entries.length

/-- Keeps the entries that `f` answers, under their keys and in their order. -/
def filterMap (f : κ → α → Option β) (d : Dict κ α) : Dict κ β where
  entries := d.entries.filterMap fun e => (f e.1 e.2).map fun b => (e.1, b)
  distinct := by
    refine List.Nodup.sublist ?_ d.distinct
    induction d.entries with
    | nil => simp
    | cons e rest ih =>
      cases h : f e.1 e.2 with
      | none => simpa [List.filterMap_cons, h] using ih.cons e.1
      | some b => simpa [List.filterMap_cons, h] using ih.cons_cons e.1

/-- Keeps the entries whose key and value pass the test. -/
def filter (p : κ → α → Bool) (d : Dict κ α) : Dict κ α :=
  d.filterMap fun k a => if p k a then some a else none

section Keyed

variable [DecidableEq κ]

/-- The value under `key`, if there is one. -/
def get? (d : Dict κ α) (key : κ) : Option α := d.entries.lookup key

/-- Whether `key` has a value. -/
def contains (d : Dict κ α) (key : κ) : Bool := d.keys.contains key

/-- Writes one pair into a list of pairs: over the pair with the same key, else at the end. -/
def put (key : κ) (value : α) : List (κ × α) → List (κ × α)
  | [] => [(key, value)]
  | e :: rest => if e.1 = key then (key, value) :: rest else e :: put key value rest

/-- Writing a known key keeps the keys as they are; a new key joins at the end. -/
theorem map_fst_put (key : κ) (value : α) (es : List (κ × α)) :
    (put key value es).map Prod.fst =
      if key ∈ es.map Prod.fst then es.map Prod.fst else es.map Prod.fst ++ [key] := by
  induction es with
  | nil => simp [put]
  | cons e rest ih =>
    by_cases h : e.1 = key
    · simp [put, h]
    · have h' : ¬ key = e.1 := fun hk => h hk.symm
      by_cases hm : key ∈ rest.map Prod.fst
      · simp [put, h, ih, List.mem_cons, h', hm]
      · simp [put, h, ih, List.mem_cons, h', hm]

/-- Writes `value` under `key`. -/
def insert (d : Dict κ α) (key : κ) (value : α) : Dict κ α where
  entries := put key value d.entries
  distinct := by
    rw [map_fst_put]
    split
    · exact d.distinct
    · rename_i h
      refine List.nodup_append.2 ⟨d.distinct, by simp, ?_⟩
      intro a ha b hb hab
      rw [List.mem_singleton.1 hb] at hab
      exact h (hab ▸ ha)

/-- Writes all pairs, from first to last. -/
def ofList (es : List (κ × α)) : Dict κ α := es.foldl (fun d e => d.insert e.1 e.2) empty

@[simp]
theorem entries_insert (d : Dict κ α) (key : κ) (value : α) :
    (d.insert key value).entries = put key value d.entries := rfl

/-- Writing a known key keeps the order of the keys; a new key joins at the end. -/
theorem keys_insert (d : Dict κ α) (key : κ) (value : α) :
    (d.insert key value).keys = if key ∈ d.keys then d.keys else d.keys ++ [key] :=
  map_fst_put key value d.entries

/-- Only keys of the written pairs are among the keys. -/
theorem mem_of_mem_keys_ofList {es : List (κ × α)} {key : κ} (h : key ∈ (ofList es).keys) :
    key ∈ es.map Prod.fst := by
  have hfold : ∀ (es : List (κ × α)) (d : Dict κ α),
      key ∈ (es.foldl (fun d e => d.insert e.1 e.2) d).keys →
        key ∈ d.keys ∨ key ∈ es.map Prod.fst := by
    intro es
    induction es with
    | nil => exact fun d hd => .inl hd
    | cons e rest ih =>
      intro d hd
      rw [List.map_cons, List.mem_cons]
      rcases ih (d.insert e.1 e.2) hd with hfirst | hrest
      · rw [keys_insert] at hfirst
        split at hfirst
        · exact .inl hfirst
        · rcases List.mem_append.1 hfirst with hknown | hnew
          · exact .inl hknown
          · exact .inr (.inl (List.mem_singleton.1 hnew))
      · exact .inr (.inr hrest)
  rcases hfold es empty h with hnone | hmem
  · exact absurd hnone List.not_mem_nil
  · exact hmem

theorem contains_iff (d : Dict κ α) (key : κ) : d.contains key = true ↔ key ∈ d.keys := by
  simp [contains]

/-- A key has a value exactly when it is among the keys. -/
theorem isSome_get? (d : Dict κ α) (key : κ) : (d.get? key).isSome = d.contains key := by
  unfold get? contains keys
  induction d.entries with
  | nil => rfl
  | cons e rest ih =>
    obtain ⟨k, a⟩ := e
    by_cases h : key = k
    · simp [h]
    · have hb : (key == k) = false := by simpa using h
      simp only [List.lookup_cons, hb, ih, List.map_cons, List.contains_cons, Bool.false_or]

/-- What is found in a list of pairs after a pair was written. -/
theorem lookup_put (key other : κ) (value : α) (es : List (κ × α)) :
    (put key value es).lookup other = if other = key then some value else es.lookup other := by
  induction es with
  | nil =>
    by_cases h : other = key
    · simp [put, h]
    · have hb : (other == key) = false := by simpa using h
      simp [put, List.lookup_cons, h, hb]
  | cons e rest ih =>
    obtain ⟨k, a⟩ := e
    by_cases hk : k = key
    · by_cases h : other = key
      · simp [put, hk, h]
      · have hb : (other == key) = false := by simpa using h
        simp [put, hk, h, List.lookup_cons, hb]
    · by_cases ho : other = k
      · simp [put, hk, ho]
      · have hb : (other == k) = false := by simpa using ho
        simp [put, hk, List.lookup_cons, hb, ih]

/-- A written key has the written value, and every other key the value that it had. -/
theorem get?_insert (d : Dict κ α) (key other : κ) (value : α) :
    (d.insert key value).get? other = if other = key then some value else d.get? other :=
  lookup_put key other value d.entries

/-- Where pairs are written from first to last, the last one with a key counts, and where there is
none, what was there before. -/
theorem get?_foldl_insert (es : List (κ × α)) (d : Dict κ α) (key : κ) :
    (es.foldl (fun d e => d.insert e.1 e.2) d).get? key =
      (es.reverse.lookup key).or (d.get? key) := by
  induction es generalizing d with
  | nil => simp
  | cons e rest ih =>
    obtain ⟨k, value⟩ := e
    rw [List.foldl_cons, ih, get?_insert, List.reverse_cons, List.lookup_append, Option.or_assoc]
    by_cases h : key = k
    · simp [h]
    · have hb : (key == k) = false := by simpa using h
      simp [h, List.lookup_cons, hb]

/-- What is found under a key is one of the entries. -/
theorem mem_entries_of_get? {d : Dict κ α} {key : κ} {value : α} (h : d.get? key = some value) :
    (key, value) ∈ d.entries := by
  unfold get? at h
  obtain ⟨before, after, heq, _⟩ := List.lookup_eq_some_iff.1 h
  rw [heq]
  simp

@[simp]
theorem get?_empty (key : κ) : (empty : Dict κ α).get? key = none := rfl

/-- Of the pairs with one key the last one counts. -/
theorem get?_ofList (es : List (κ × α)) (key : κ) :
    (ofList es).get? key = es.reverse.lookup key := by
  unfold ofList
  rw [get?_foldl_insert, get?_empty, Option.or_none]

theorem get?_eq_none_iff (d : Dict κ α) (key : κ) : d.get? key = none ↔ key ∉ d.keys := by
  rw [← contains_iff, ← isSome_get?]
  simp

theorem mem_values_of_get? {d : Dict κ α} {key : κ} {value : α} (h : d.get? key = some value) :
    value ∈ d.values :=
  List.mem_map.2 ⟨(key, value), mem_entries_of_get? h, rfl⟩

theorem lookup_of_mem {key : κ} {value : α} {es : List (κ × α)}
    (hdistinct : (es.map Prod.fst).Nodup) (h : (key, value) ∈ es) :
    es.lookup key = some value := by
  induction es with
  | nil => simp at h
  | cons e rest ih =>
    obtain ⟨k, a⟩ := e
    rw [List.map_cons, List.nodup_cons] at hdistinct
    by_cases hk : key = k
    · rcases List.mem_cons.1 h with heq | htail
      · simp [Prod.mk.inj heq]
      · have hmem : key ∈ rest.map Prod.fst := List.mem_map.2 ⟨(key, value), htail, rfl⟩
        exact absurd (hk ▸ hmem) hdistinct.1
    · have htail : (key, value) ∈ rest := by simpa [hk] using h
      have hb : (key == k) = false := by simpa using hk
      simp [List.lookup_cons, hb, ih hdistinct.2 htail]

/-- Since no key stands twice, every entry is what is found under its key. -/
theorem get?_of_mem_entries {d : Dict κ α} {key : κ} {value : α} (h : (key, value) ∈ d.entries) :
    d.get? key = some value :=
  lookup_of_mem d.distinct h

theorem exists_get?_of_mem_values {d : Dict κ α} {value : α} (h : value ∈ d.values) :
    ∃ key, d.get? key = some value := by
  rcases List.mem_map.1 h with ⟨⟨key, _⟩, hmem, rfl⟩
  exact ⟨key, get?_of_mem_entries hmem⟩

theorem put_of_not_mem {key : κ} {es : List (κ × α)} (h : key ∉ es.map Prod.fst) (value : α) :
    put key value es = es ++ [(key, value)] := by
  induction es with
  | nil => rfl
  | cons e rest ih =>
    rw [List.map_cons, List.mem_cons, not_or] at h
    have hne : ¬ e.1 = key := fun heq => h.1 heq.symm
    simp [put, hne, ih h.2]

/-- Writing a new key appends its entry. -/
theorem entries_insert_of_get?_eq_none {d : Dict κ α} {key : κ} (h : d.get? key = none)
    (value : α) : (d.insert key value).entries = d.entries ++ [(key, value)] :=
  put_of_not_mem ((get?_eq_none_iff d key).1 h) value

end Keyed

end Dict

end BlockScribe

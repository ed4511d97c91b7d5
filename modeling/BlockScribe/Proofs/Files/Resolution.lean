import BlockScribe.Path

/-! # Where a path leads

A path is resolved by its text alone, without a look at any file: a name leads one level down, two
dots take back the name before them. At the root two dots lead nowhere; above the start of a path
that does not begin at the root they are counted.

* `resolve_join`: what is joined to a directory is walked from where the directory is.
* `descent?` follows how deep a way is below its start, and gives up when it leads above it.
  `walk_below`: a way that never does ends below its start, wherever that is.
* `forall_isWithin_iff`, `forall_isBelow_iff`: exactly these ways keep a path inside of every
  directory that it is joined to.
-/

namespace BlockScribe.Path

/-- Where a path leads. -/
structure Location where
  /-- Whether it is reached from the root. -/
  absolute : Bool
  /-- How many levels above the start the names begin. -/
  ups : Nat
  names : List String
deriving DecidableEq, Repr

namespace Location

/-- The root. -/
def root : Location := ⟨true, 0, []⟩

/-- The start of a path that does not begin at the root. -/
def here : Location := ⟨false, 0, []⟩

/-- Where one step leads. -/
def step (location : Location) : Component → Location
  | .root => root
  | .here => location
  | .up =>
    if location.names ≠ [] then { location with names := location.names.dropLast }
    else if location.absolute then location
    else { location with ups := location.ups + 1 }
  | .name text => { location with names := location.names ++ [text] }

/-- Where a way leads. -/
def walk (location : Location) (way : List Component) : Location := way.foldl step location

/-- The location that some names lead down to. -/
def below (location : Location) (names : List String) : Location :=
  { location with names := location.names ++ names }

/-- Whether a location is another one or lies below it. -/
def IsWithin (location outer : Location) : Prop :=
  location.absolute = outer.absolute ∧ location.ups = outer.ups ∧ outer.names <+: location.names

/-- Whether a location lies strictly below another one. -/
def IsBelow (location outer : Location) : Prop := location.IsWithin outer ∧ location ≠ outer

instance (location outer : Location) : Decidable (location.IsWithin outer) :=
  inferInstanceAs (Decidable (_ ∧ _ ∧ _))

instance (location outer : Location) : Decidable (location.IsBelow outer) :=
  inferInstanceAs (Decidable (_ ∧ _))

@[simp]
theorem walk_nil (location : Location) : location.walk [] = location := rfl

@[simp]
theorem walk_cons (location : Location) (component : Component) (way : List Component) :
    location.walk (component :: way) = (location.step component).walk way := rfl

theorem walk_append (location : Location) (way other : List Component) :
    location.walk (way ++ other) = (location.walk way).walk other :=
  List.foldl_append

theorem below_nil (location : Location) : location.below [] = location := by
  simp [below]

theorem isWithin_below (location : Location) (names : List String) :
    (location.below names).IsWithin location :=
  ⟨rfl, rfl, List.prefix_append _ _⟩

theorem isBelow_below (location : Location) {names : List String} (h : names ≠ []) :
    (location.below names).IsBelow location := by
  refine ⟨isWithin_below location names, ?_⟩
  intro heq
  have hnames : location.names ++ names = location.names := congrArg Location.names heq
  exact h (List.append_right_eq_self.1 hnames)

/-- Two dots take back the last of the names below a location. -/
theorem step_up_below (location : Location) {names : List String} (h : names ≠ []) :
    (location.below names).step .up = location.below names.dropLast := by
  have hne : (location.below names).names ≠ [] := by
    simp [below, h]
  simp only [step, if_pos hne]
  simp [below, List.dropLast_append_of_ne_nil h]

theorem step_name_below (location : Location) (names : List String) (text : String) :
    (location.below names).step (.name text) = location.below (names ++ [text]) := by
  simp [step, below]

/-- Whether a location is known to lie outside of the start: above it, or at the root. -/
def IsAstray (location : Location) : Prop := location.absolute = true ∨ 0 < location.ups

theorem IsAstray.step {location : Location} (h : location.IsAstray) (component : Component) :
    (location.step component).IsAstray := by
  cases component with
  | root => exact .inl rfl
  | here => exact h
  | name text => exact h
  | up =>
    show (if location.names ≠ [] then _ else if location.absolute then _ else _ : Location).IsAstray
    split
    · exact h
    · split
      · exact h
      · exact .inr (Nat.succ_pos _)

/-- Nothing leads back to the start. -/
theorem IsAstray.walk {location : Location} (h : location.IsAstray) (way : List Component) :
    (location.walk way).IsAstray := by
  induction way generalizing location with
  | nil => exact h
  | cons component rest ih => exact ih (h.step component)

theorem IsAstray.not_isWithin_here {location : Location} (h : location.IsAstray) :
    ¬ location.IsWithin here := by
  rintro ⟨habsolute, hups, -⟩
  rcases h with hroot | habove
  · rw [hroot] at habsolute
    cases habsolute
  · rw [hups] at habove
    exact absurd habove (Nat.lt_irrefl 0)

end Location

open Location

/-! ## Ways that stay below their start -/

/-- How deep a way ends below its start, if it begins `depth` levels below it and never leads above
it. -/
def descent? : (depth : Nat) → (way : List Component) → Option Nat
  | depth, [] => some depth
  | _, .root :: _ => none
  | depth, .here :: rest => descent? depth rest
  | 0, .up :: _ => none
  | depth + 1, .up :: rest => descent? depth rest
  | depth, .name _ :: rest => descent? (depth + 1) rest

/-- A way that never leads above its start ends below it, as deep as was counted. -/
theorem walk_below {way : List Component} {names : List String} {depth : Nat}
    (h : descent? names.length way = some depth) (location : Location) :
    ∃ reached, reached.length = depth ∧
      (location.below names).walk way = location.below reached := by
  induction way generalizing names with
  | nil =>
    unfold descent? at h
    exact ⟨names, Option.some.inj h, rfl⟩
  | cons component rest ih =>
    rw [walk_cons]
    cases component with
    | root =>
      unfold descent? at h
      cases h
    | here =>
      unfold descent? at h
      exact ih h
    | name text =>
      unfold descent? at h
      rw [step_name_below]
      exact ih (by simpa using h)
    | up =>
      -- without a name to take back, the way would lead above its start
      cases hlength : names.length with
      | zero =>
        rw [hlength] at h
        unfold descent? at h
        cases h
      | succ count =>
        rw [hlength] at h
        unfold descent? at h
        have hne : names ≠ [] := by
          intro hnil
          simp [hnil] at hlength
        rw [step_up_below location hne]
        exact ih (by simpa [hlength] using h)

/-- A way that leads above its start, or to the root, does not come back. -/
theorem isAstray_walk {way : List Component} {names : List String}
    (h : descent? names.length way = none) : ((here.below names).walk way).IsAstray := by
  induction way generalizing names with
  | nil =>
    unfold descent? at h
    cases h
  | cons component rest ih =>
    rw [walk_cons]
    -- below the start the walk goes down and up again; at the start a step up leaves it
    cases component with
    | root => exact IsAstray.walk (.inl rfl) rest
    | here =>
      unfold descent? at h
      exact ih h
    | name text =>
      unfold descent? at h
      rw [step_name_below]
      exact ih (by simpa using h)
    | up =>
      cases hnames : names with
      | nil => exact IsAstray.walk (.inr (Nat.succ_pos 0)) rest
      | cons first others =>
        have hne : first :: others ≠ [] := List.cons_ne_nil first others
        rw [hnames, List.length_cons] at h
        unfold descent? at h
        rw [step_up_below here hne]
        exact ih (by simpa using h)

/-! ## Resolving a path -/

/-- Where a path leads. -/
def resolve (path : String) : Location := here.walk (components path)

/-- The components of the pieces of a text, the dot at the start left out. -/
def way (cs : List Char) : List Component := (pieces cs).filterMap Component.ofPiece?

/-- A slash divides a text into pieces on both sides. -/
theorem pieces_append_slash (before after : List Char) :
    pieces (before ++ '/' :: after) = pieces before ++ pieces after := by
  induction before with
  | nil => simp [pieces]
  | cons c rest ih =>
    obtain ⟨piece, others, h⟩ := List.exists_cons_of_ne_nil (pieces_ne_nil rest)
    by_cases hc : c = '/'
    · simp [pieces, hc, ih]
    · simp [pieces, hc, ih, h]

/-- A text without slashes joins the first piece of what follows. -/
theorem pieces_append_of_not_mem {text : List Char} (htext : '/' ∉ text) {rest piece : List Char}
    {others : List (List Char)} (hrest : pieces rest = piece :: others) :
    pieces (text ++ rest) = (text ++ piece) :: others := by
  induction text with
  | nil => exact hrest
  | cons c cs ih =>
    rw [List.mem_cons, not_or] at htext
    have hc : ¬ c = '/' := fun heq => htext.1 heq.symm
    simp [pieces, hc, ih htext.2]

theorem way_append_slash (before after : List Char) :
    way (before ++ '/' :: after) = way before ++ way after := by
  unfold way
  rw [pieces_append_slash, List.filterMap_append]

theorem way_nil : way [] = [] := rfl

/-- Of the components of a path that does not begin at the root, only a dot in front is not one of
its way. -/
theorem components_eq {path : String} (h : isAbsolute path = false) :
    components path = way path.toList ∨ components path = .here :: way path.toList := by
  unfold isAbsolute at h
  unfold components way
  split
  · rename_i rest hcs
    rw [hcs] at h
    simp at h
  · obtain ⟨first, rest, hpieces⟩ := List.exists_cons_of_ne_nil (pieces_ne_nil path.toList)
    rw [hpieces]
    -- only a dot in front has a component of its own
    by_cases hdot : first = ['.']
    · rw [hdot]
      exact .inr rfl
    · have hfirst : Component.ofFirst? first = Component.ofPiece? first := by
        unfold Component.ofFirst?
        split
        · contradiction
        · rfl
      refine .inl ?_
      cases hpiece : Component.ofPiece? first with
      | none => simp [hfirst, hpiece]
      | some component => simp [hfirst, hpiece]

/-- A dot in front of a path leads nowhere. -/
theorem walk_components {path : String} (h : isAbsolute path = false) (location : Location) :
    location.walk (components path) = location.walk (way path.toList) := by
  rcases components_eq h with hway | hdot
  · rw [hway]
  · rw [hdot]
    rfl

theorem descent?_components {path : String} (h : isAbsolute path = false) (depth : Nat) :
    descent? depth (components path) = descent? depth (way path.toList) := by
  rcases components_eq h with hway | hdot
  · rw [hway]
  · rw [hdot, descent?]

/-- Where a path starts. -/
def origin (path : String) : Location := if isAbsolute path then Location.root else here

theorem resolve_eq (path : String) : resolve path = (origin path).walk (way path.toList) := by
  unfold resolve origin
  cases habsolute : isAbsolute path with
  | false => exact walk_components habsolute here
  | true =>
    unfold isAbsolute at habsolute
    cases hcs : path.toList with
    | nil =>
      rw [hcs] at habsolute
      cases habsolute
    | cons c rest =>
      rw [hcs] at habsolute
      have hc : c = '/' := by simpa using habsolute
      -- the slash in front is told by the root, and no piece is left of it
      have hway : way (c :: rest) = way rest := by
        rw [hc]
        exact way_append_slash [] rest
      have hcomponents : components path = .root :: way rest := by
        unfold components
        rw [hcs, hc]
        rfl
      rw [hcomponents, hway]
      rfl

theorem isAbsolute_append {base : String} (h : base ≠ "") (rest : String) :
    isAbsolute (base ++ rest) = isAbsolute base := by
  have hne : base.toList ≠ [] := fun hnil => h (String.toList_injective hnil)
  obtain ⟨first, others, hbase⟩ := List.exists_cons_of_ne_nil hne
  unfold isAbsolute
  rw [String.toList_append, hbase]
  rfl

/-- Joining puts the ways of two paths one behind the other. -/
theorem origin_and_way_join {path : String} (h : isAbsolute path = false) (base : String) :
    origin (join base path) = origin base ∧
      way (join base path).toList = way base.toList ++ way path.toList := by
  unfold join
  rw [if_neg (by simp [h])]
  by_cases hempty : base = ""
  · rw [hempty, if_pos (by simp), String.empty_append]
    refine ⟨?_, by simp [way_nil]⟩
    unfold origin
    rw [h]
    rfl
  · have hisEmpty : base.isEmpty = false := by simpa using hempty
    by_cases hslash : base.toList.getLast? = some '/'
    · -- the slash at the end of the directory divides already
      rw [if_pos (by simp [hslash])]
      refine ⟨by simp [origin, isAbsolute_append hempty], ?_⟩
      obtain ⟨before, hbefore⟩ := List.getLast?_eq_some_iff.1 hslash
      have hbase : way base.toList = way before := by
        rw [hbefore, way_append_slash, way_nil, List.append_nil]
      rw [String.toList_append, hbase, hbefore, List.append_assoc]
      exact way_append_slash before path.toList
    · rw [if_neg (by simp [hisEmpty, hslash])]
      refine ⟨by simp [origin, String.append_assoc, isAbsolute_append hempty], ?_⟩
      have hlist : (base ++ "/" ++ path).toList = base.toList ++ '/' :: path.toList := by
        simp
      rw [hlist]
      exact way_append_slash base.toList path.toList

/-- What is joined to a directory is walked from where the directory is. -/
theorem resolve_join {path : String} (h : isAbsolute path = false) (base : String) :
    resolve (join base path) = (resolve base).walk (components path) := by
  rcases origin_and_way_join h base with ⟨horigin, hway⟩
  rw [resolve_eq, resolve_eq, horigin, hway, walk_append, walk_components h]

/-! ## Paths that stay inside of every directory -/

theorem resolve_empty : resolve "" = here := by decide +kernel

theorem components_of_isAbsolute {path : String} (h : isAbsolute path = true) :
    ∃ rest, components path = .root :: rest := by
  unfold isAbsolute at h
  unfold components
  split
  · exact ⟨_, rfl⟩
  · rename_i hcs
    cases hlist : path.toList with
    | nil =>
      rw [hlist] at h
      cases h
    | cons c rest =>
      rw [hlist] at h
      have hc : c = '/' := by simpa using h
      exact absurd (hc ▸ hlist) (hcs rest)

theorem isAbsolute_of_descent? {path : String} {depth reached : Nat}
    (h : descent? depth (components path) = some reached) : isAbsolute path = false := by
  cases habsolute : isAbsolute path with
  | false => rfl
  | true =>
    rcases components_of_isAbsolute habsolute with ⟨rest, hcomponents⟩
    rw [hcomponents] at h
    unfold descent? at h
    cases h

/-- A path leads below every directory that it is joined to, as deep as its components count, if
they never lead above their start. -/
theorem resolve_join_of_descent? {path : String} {depth : Nat}
    (h : descent? 0 (components path) = some depth) (base : String) :
    ∃ names, names.length = depth ∧ resolve (join base path) = (resolve base).below names := by
  have hstart : descent? ([] : List String).length (components path) = some depth := h
  have hwalk := walk_below hstart (resolve base)
  rw [below_nil] at hwalk
  rw [resolve_join (isAbsolute_of_descent? h)]
  exact hwalk

/-- Joined to the start itself, a path whose components lead above it stays outside. -/
theorem isAstray_resolve {path : String} (h : descent? 0 (components path) = none) :
    (resolve (join "" path)).IsAstray := by
  have hjoin : join "" path = path := by simp [join]
  have hstart : descent? ([] : List String).length (components path) = none := h
  have hwalk := isAstray_walk hstart
  rw [below_nil] at hwalk
  rw [hjoin]
  exact hwalk

/-- A path leads to some place inside of every directory that it is joined to if and only if its
components never lead above their start. -/
theorem forall_isWithin_iff (path : String) :
    (∀ base, (resolve (join base path)).IsWithin (resolve base)) ↔
      (descent? 0 (components path)).isSome = true := by
  constructor
  · intro h
    cases hdescent : descent? 0 (components path) with
    | some depth => rfl
    | none =>
      -- a path that climbs leaves the base where nothing stands above it
      have hinside := h ""
      rw [resolve_empty] at hinside
      exact absurd hinside (isAstray_resolve hdescent).not_isWithin_here
  · intro h base
    rcases Option.isSome_iff_exists.1 h with ⟨depth, hdescent⟩
    -- a path that never climbs goes down from the base by names alone
    rcases resolve_join_of_descent? hdescent base with ⟨names, -, hresolve⟩
    rw [hresolve]
    exact isWithin_below _ _

/-- A path leads strictly below every directory that it is joined to if and only if its components
never lead above their start and do not end at it. -/
theorem forall_isBelow_iff (path : String) :
    (∀ base, (resolve (join base path)).IsBelow (resolve base)) ↔
      ∃ depth, descent? 0 (components path) = some (depth + 1) := by
  constructor
  · intro h
    have hinside := (forall_isWithin_iff path).1 fun base => (h base).1
    rcases Option.isSome_iff_exists.1 hinside with ⟨depth, hdescent⟩
    rcases resolve_join_of_descent? hdescent "" with ⟨names, hlength, hresolve⟩
    cases depth with
    | succ depth => exact ⟨depth, hdescent⟩
    | zero =>
      -- no name is left below the start, so the path leads to the start itself
      rw [List.length_eq_zero_iff] at hlength
      rw [hlength, below_nil] at hresolve
      exact absurd hresolve (h "").2
  · rintro ⟨depth, hdescent⟩ base
    rcases resolve_join_of_descent? hdescent base with ⟨names, hlength, hresolve⟩
    rw [hresolve]
    apply isBelow_below
    intro hnil
    simp [hnil] at hlength

end BlockScribe.Path

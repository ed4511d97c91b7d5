import BlockScribe.Project.Reader
import BlockScribe.Proofs.Attempts

/-! # The grammar of projects

The reader of projects is lenient almost everywhere. What it insists on is little, and it is said
here about the JSON value alone: which values are projects, what stands in the project that is read
from one, and why any other value is refused.

* `Json.IsProject`, `Json.IsTarget`, `Json.IsBlockEntry`: the values that are accepted.
* `Json.ProjectRefused`, `Json.TargetRefused`, `Json.BlockRefused`: why the others are not. The
  error is about the first thing that is wrong: of the targets in order, and in a target of its
  name, its stage flag and its blocks in order.
* `Target.ReadFrom`: blocks, variables and lists stand under the keys of the entries that they are
  read from, in the order of the document, and nothing else is left out.
* `ofJson_reads_exactly_projects`: all three for every value.
-/

namespace BlockScribe

/-! ## Shapes of values -/

/-- The entries of an object that is a member of a value, in order. -/
def Json.entriesOf (value : Json) (name : String) : List (String × Json) :=
  match value.get? name with
  | some (.object members) => (Dict.ofList members).entries
  | _ => []

/-- Whether a value is a list. -/
def Json.isList : Json → Bool
  | .list _ => true
  | _ => false

/-- Whether a value is a list that starts with a text. -/
def Json.isDeclaration : Json → Bool
  | .list (.text _ :: _) => true
  | _ => false

section Members

/-! A member of the right kind is found, and nothing else is taken for one. -/

variable {member : Option Json}

theorem Json.bind_text?_eq_some_iff {s : String} :
    member.bind Json.text? = some s ↔ member = some (.text s) := by
  rcases member with _ | (_ | _ | _ | _ | _ | _) <;> simp [Json.text?]

theorem Json.bind_bool?_eq_some_iff {flag : Bool} :
    member.bind Json.bool? = some flag ↔ member = some (.bool flag) := by
  rcases member with _ | (_ | _ | _ | _ | _ | _) <;> simp [Json.bool?]

theorem Json.bind_list?_eq_some_iff {items : List Json} :
    member.bind Json.list? = some items ↔ member = some (.list items) := by
  rcases member with _ | (_ | _ | _ | _ | _ | _) <;> simp [Json.list?]

/-- If there is no member of the right kind, none is found. -/
theorem Json.bind_eq_none {α : Type} {read : Json → Option α} {make : α → Json}
    (hread : ∀ {a}, member.bind read = some a ↔ member = some (make a))
    (h : ∀ a, member ≠ some (make a)) : member.bind read = none := by
  rw [Option.eq_none_iff_forall_ne_some]
  intro a hsome
  exact h a (hread.1 hsome)

end Members

theorem entries_tableOf (value : Json) (name : String) :
    (tableOf (value.get? name)).entries = value.entriesOf name := by
  unfold tableOf Json.entriesOf
  cases value.get? name with
  | none => rfl
  | some member => cases member <;> rfl

/-! ## What is accepted -/

/-- What may stand in a table of blocks: a bare list, or an object with an opcode. -/
inductive Json.IsBlockEntry : String × Json → Prop
  | loose (key : String) (items : List Json) : IsBlockEntry (key, .list items)
  | block {key opcode : String} {value : Json}
    (hopcode : value.get? "opcode" = some (.text opcode)) : IsBlockEntry (key, value)

/-- A target has a name, a stage flag, and blocks if any. -/
structure Json.IsTarget (value : Json) : Prop where
  named : ∃ name, value.get? "name" = some (.text name)
  flagged : ∃ flag, value.get? "isStage" = some (.bool flag)
  blocks : ∀ entry ∈ value.entriesOf "blocks", Json.IsBlockEntry entry

/-- A project has a list of targets. -/
def Json.IsProject (value : Json) : Prop :=
  ∃ items, value.get? "targets" = some (.list items) ∧ ∀ item ∈ items, item.IsTarget

/-! ## Why anything else is refused -/

/-- Why something may not stand in a target's table of blocks. -/
inductive Json.BlockRefused (target : String) : String × Json → Error → Prop
  | notObject {key : String} {value : Json} (hlist : ∀ items, value ≠ .list items)
    (hobject : ∀ members, value ≠ .object members) :
    BlockRefused target (key, value) ⟨[.blockOf target key], .blockNotObject⟩
  | withoutOpcode {key : String} {members : List (String × Json)}
    (hopcode : ∀ opcode, (Json.object members).get? "opcode" ≠ some (.text opcode)) :
    BlockRefused target (key, .object members) ⟨[.blockOf target key], .blockWithoutOpcode⟩

/-- Why a value is no target: the name comes before the flag, and the flag before the blocks. -/
inductive Json.TargetRefused (value : Json) : Error → Prop
  | unnamed (hname : ∀ name, value.get? "name" ≠ some (.text name)) :
    TargetRefused value (.ofCause .unnamedTarget)
  | unflagged {name : String} (hname : value.get? "name" = some (.text name))
    (hflag : ∀ flag, value.get? "isStage" ≠ some (.bool flag)) :
    TargetRefused value (.ofCause (.unflaggedTarget name))
  | block {name : String} {flag : Bool} {error : Error}
    (hname : value.get? "name" = some (.text name))
    (hflag : value.get? "isStage" = some (.bool flag))
    (hblock : FirstRefused Json.IsBlockEntry (Json.BlockRefused name)
      (value.entriesOf "blocks") error) : TargetRefused value error

/-- Why a value is no project. -/
inductive Json.ProjectRefused (value : Json) : Error → Prop
  | withoutTargets (htargets : ∀ items, value.get? "targets" ≠ some (.list items)) :
    ProjectRefused value (.ofCause .missingTargets)
  | target {items : List Json} {error : Error}
    (htargets : value.get? "targets" = some (.list items))
    (htarget : FirstRefused Json.IsTarget Json.TargetRefused items error) :
    ProjectRefused value error

/-! ## What is read -/

/-- A table holds what is read from some entries, under their keys and in their order. -/
def Dict.HoldsRead {α : Type} (table : Dict String α) (Read : String → Json → α → Prop)
    (entries : List (String × Json)) : Prop :=
  List.Forall₂ (fun entry found => found.1 = entry.1 ∧ Read entry.1 entry.2 found.2) entries
    table.entries

/-- A block has its key for an id. -/
structure Block.ReadFrom (key : String) (value : Json) (block : Block) : Prop where
  id : block.id = key
  opcode : value.get? "opcode" = some (.text block.opcode)

/-- The second item of a declaration is the value of a variable. Without one, it is zero. -/
inductive Variable.ReadFrom (key : String) : Json → Variable → Prop
  | valued (name : String) (value : Json) (rest : List Json) :
    ReadFrom key (.list (.text name :: value :: rest)) ⟨name, value⟩
  | unvalued (name : String) : ReadFrom key (.list [.text name]) ⟨name, .number (.whole 0)⟩

/-- The second item of a declaration has the items of a list, if it is one. -/
inductive ItemList.ReadFrom (key : String) : Json → ItemList → Prop
  | filled (name : String) (items rest : List Json) :
    ReadFrom key (.list (.text name :: .list items :: rest)) ⟨name, items⟩
  | mistyped (name : String) {value : Json} (hvalue : ∀ items, value ≠ .list items)
    (rest : List Json) : ReadFrom key (.list (.text name :: value :: rest)) ⟨name, []⟩
  | unfilled (name : String) : ReadFrom key (.list [.text name]) ⟨name, []⟩

/-- Of the entries of a target, those left out are the bare lists among its blocks, and what is not
a declaration among its variables and lists. -/
structure Target.ReadFrom (value : Json) (target : Target) : Prop where
  name : value.get? "name" = some (.text target.name)
  isStage : value.get? "isStage" = some (.bool target.isStage)
  blocks : target.blocks.HoldsRead Block.ReadFrom
    ((value.entriesOf "blocks").filter fun entry => !entry.2.isList)
  vars : target.vars.HoldsRead Variable.ReadFrom
    ((value.entriesOf "variables").filter fun entry => entry.2.isDeclaration)
  lists : target.lists.HoldsRead ItemList.ReadFrom
    ((value.entriesOf "lists").filter fun entry => entry.2.isDeclaration)

theorem Dict.HoldsRead.exists_of_mem {α : Type} {table : Dict String α}
    {Read : String → Json → α → Prop} {entries : List (String × Json)}
    (h : table.HoldsRead Read entries) {found : String × α} (hmem : found ∈ table.entries) :
    ∃ value, (found.1, value) ∈ entries ∧ Read found.1 value found.2 := by
  unfold Dict.HoldsRead at h
  generalize table.entries = read at h hmem
  induction h with
  | nil => exact absurd hmem List.not_mem_nil
  | @cons entry first _ _ hfirst _ ih =>
    rcases List.mem_cons.1 hmem with rfl | hrest
    · obtain ⟨hkey, hread⟩ := hfirst
      rw [hkey]
      exact ⟨entry.2, List.mem_cons_self, hread⟩
    · obtain ⟨value, hvalue, hread⟩ := ih hrest
      exact ⟨value, List.mem_cons_of_mem _ hvalue, hread⟩

/-- A table that keeps the answers for some entries holds what is read from these. -/
theorem holdsRead_filterMap {α : Type} {answer : String → Json → Option α}
    {Read : String → Json → α → Prop} {table : Dict String Json} (kept : Json → Bool)
    (hkept : ∀ e ∈ table.entries, (answer e.1 e.2).isSome = kept e.2)
    (hread : ∀ {key value found}, answer key value = some found → Read key value found) :
    (table.filterMap answer).HoldsRead Read (table.entries.filter fun entry => kept entry.2) := by
  unfold Dict.HoldsRead Dict.filterMap
  dsimp only
  generalize table.entries = entries at hkept ⊢
  induction entries with
  | nil => exact .nil
  | cons entry rest ih =>
    rw [List.forall_mem_cons] at hkept
    obtain ⟨hentry, hrest⟩ := hkept
    -- an entry is kept exactly if there is an answer for it
    cases hanswer : answer entry.1 entry.2 with
    | none =>
      rw [hanswer] at hentry
      rw [List.filter_cons_of_neg (by simp [← hentry]), List.filterMap_cons, hanswer]
      exact ih hrest
    | some found =>
      rw [hanswer] at hentry
      rw [List.filter_cons_of_pos (by simp [← hentry]), List.filterMap_cons, hanswer]
      exact .cons ⟨rfl, hread hanswer⟩ (ih hrest)

/-! ## Declarations -/

theorem isSome_declaration? (value : Json) :
    (declaration? value).isSome = value.isDeclaration := by
  unfold declaration?
  split
  · rfl
  · rename_i hother
    unfold Json.isDeclaration
    split
    · exact absurd rfl (hother _ _)
    · rfl

theorem eq_of_declaration?_eq_some {value : Json} {found : String × Option Json}
    (h : declaration? value = some found) :
    ∃ rest, value = .list (.text found.1 :: rest) ∧ found.2 = rest.head? := by
  unfold declaration? at h
  split at h
  · cases h
    exact ⟨_, rfl, rfl⟩
  · cases h

theorem Variable.readFrom_of_ofJson? {key : String} {value : Json} {found : Variable}
    (h : Variable.ofJson? value = some found) : found.ReadFrom key value := by
  obtain ⟨⟨name, second⟩, hdeclared, rfl⟩ := Option.map_eq_some_iff.1 h
  obtain ⟨rest, rfl, rfl⟩ := eq_of_declaration?_eq_some hdeclared
  cases rest with
  | nil => exact .unvalued name
  | cons value rest => exact .valued name value rest

theorem ItemList.readFrom_of_ofJson? {key : String} {value : Json} {found : ItemList}
    (h : ItemList.ofJson? value = some found) : found.ReadFrom key value := by
  obtain ⟨⟨name, second⟩, hdeclared, rfl⟩ := Option.map_eq_some_iff.1 h
  obtain ⟨rest, rfl, rfl⟩ := eq_of_declaration?_eq_some hdeclared
  -- the items may be missing, no list, or a list
  cases rest with
  | nil => exact .unfilled name
  | cons value rest =>
    cases hitems : value.list? with
    | none =>
      have hvalue : ∀ items, value ≠ .list items := by
        rintro items rfl
        cases hitems
      simp only [List.head?_cons, Option.bind_some, hitems, Option.getD_none]
      exact .mistyped name hvalue rest
    | some items =>
      obtain ⟨rfl⟩ := (@Json.bind_list?_eq_some_iff (some value) items).1 hitems
      exact .filled name items rest

/-! ## Blocks -/

/-- An object with an opcode is a block. -/
theorem Block.ofEntry_of_opcode (target key : String) {opcode : String} {value : Json}
    (hopcode : value.get? "opcode" = some (.text opcode)) :
    ∃ block, Block.ofEntry target key value = .ok (some block) ∧ block.ReadFrom key value := by
  cases value with
  | object members =>
    have hmember : (Dict.ofList members).get? "opcode" = some (.text opcode) := hopcode
    unfold Block.ofEntry Block.ofJson
    simp only [Json.members?, hmember, Option.bind_some, Json.text?]
    exact ⟨_, rfl, rfl, hopcode⟩
  | null => cases hopcode
  | bool flag => cases hopcode
  | number n => cases hopcode
  | text s => cases hopcode
  | list items => cases hopcode

theorem Block.ofEntry_of_refused {target : String} {entry : String × Json} {error : Error}
    (h : Json.BlockRefused target entry error) :
    Block.ofEntry target entry.1 entry.2 = .error error := by
  cases h with
  | @notObject key value hlist hobject =>
    cases value with
    | list items => exact absurd rfl (hlist items)
    | object members => exact absurd rfl (hobject members)
    | null => rfl
    | bool flag => rfl
    | number n => rfl
    | text s => rfl
  | @withoutOpcode key members hopcode =>
    -- an opcode that is no text reads as none
    have hnone : ((Dict.ofList members).get? "opcode").bind Json.text? = none :=
      Json.bind_eq_none Json.bind_text?_eq_some_iff hopcode
    unfold Block.ofEntry Block.ofJson
    simp only [Json.members?, hnone]
    rfl

theorem Block.ofEntry_decides (target : String) (entry : String × Json) :
    Decides (Block.ofEntry target entry.1 entry.2) (Json.IsBlockEntry entry)
      (Json.BlockRefused target entry) := by
  refine .of_total ?_ (fun _ => Block.ofEntry_of_refused) ?_
  · intro h
    cases h with
    | loose key items => exact ⟨none, rfl⟩
    | block hopcode =>
      obtain ⟨block, hblock, -⟩ := Block.ofEntry_of_opcode target _ hopcode
      exact ⟨some block, hblock⟩
  · -- a list is passed over, an object needs its opcode, and anything else is refused
    obtain ⟨key, value⟩ := entry
    cases value with
    | list items => exact .inl (.loose key items)
    | object members =>
      by_cases hopcode : ∃ opcode, (Json.object members).get? "opcode" = some (.text opcode)
      · obtain ⟨opcode, hopcode⟩ := hopcode
        exact .inl (.block hopcode)
      · exact .inr ⟨_, .withoutOpcode (not_exists.1 hopcode)⟩
    | null => exact .inr ⟨_, .notObject nofun nofun⟩
    | bool flag => exact .inr ⟨_, .notObject nofun nofun⟩
    | number n => exact .inr ⟨_, .notObject nofun nofun⟩
    | text s => exact .inr ⟨_, .notObject nofun nofun⟩

/-- Reading a table of blocks fails as the first of its entries that does. -/
theorem readBlocks_eq_error_iff {target : String} {table : Dict String Json} {error : Error} :
    readBlocks target table = .error error ↔
      FailsFirst (fun entry => Block.ofEntry target entry.1 entry.2) table.entries error := by
  unfold readBlocks
  constructor
  · intro h
    split at h
    · rename_i hfound
      cases h
      -- the first error of an entry, in the order of the table
      refine (findSome?_eq_some_iff_failsFirst ?_).1 hfound
      intro entry error
      cases Block.ofEntry target entry.1 entry.2 <;> simp
    · cases h
  · intro h
    rw [(findSome?_eq_some_iff_failsFirst ?_).2 h]
    intro entry error
    cases Block.ofEntry target entry.1 entry.2 <;> simp

theorem readBlocks_decides (target : String) (table : Dict String Json) :
    Decides (readBlocks target table) (∀ entry ∈ table.entries, Json.IsBlockEntry entry)
      (FirstRefused Json.IsBlockEntry (Json.BlockRefused target) table.entries) :=
  .of_row (fun _ => readBlocks_eq_error_iff) (Block.ofEntry_decides target)

theorem Block.readFrom_of_ofEntry {target key : String} {value : Json} {block : Block}
    (h : Block.ofEntry target key value = .ok (some block)) : block.ReadFrom key value := by
  cases (Block.ofEntry_decides target (key, value)).exists_ok_iff.1 ⟨some block, h⟩ with
  | loose key items => cases h
  | block hopcode =>
    obtain ⟨found, hfound, hread⟩ := Block.ofEntry_of_opcode target key hopcode
    rw [hfound] at h
    cases h
    exact hread

/-- A table of blocks that is read has a block for every entry that is not a bare list. -/
theorem holdsRead_of_readBlocks {target : String} {table : Dict String Json}
    {blocks : Dict String Block} (h : readBlocks target table = .ok blocks) :
    blocks.HoldsRead Block.ReadFrom (table.entries.filter fun entry => !entry.2.isList) := by
  -- nothing failed, so every entry is a loose list or has an opcode
  have hentries := (readBlocks_decides target table).exists_ok_iff.1 ⟨blocks, h⟩
  unfold readBlocks at h
  split at h
  · cases h
  cases h
  refine holdsRead_filterMap (fun value => !value.isList) ?_ ?_
  · rintro ⟨key, value⟩ hmem
    cases hentries _ hmem with
    | loose key items => rfl
    | block hopcode =>
      obtain ⟨block, hblock, -⟩ := Block.ofEntry_of_opcode target key hopcode
      rw [hblock]
      cases value with
      | list items => cases hopcode
      | _ => rfl
  · intro key value block hanswer
    split at hanswer
    · rename_i hentry
      rw [hanswer] at hentry
      exact Block.readFrom_of_ofEntry hentry
    · cases hanswer

/-! ## Targets -/

/-- With a name and a flag, it depends on the blocks whether a target is read. -/
theorem Target.ofJson_of_flagged {value : Json} {name : String} {flag : Bool}
    (hname : value.get? "name" = some (.text name))
    (hflag : value.get? "isStage" = some (.bool flag)) :
    Decides (Target.ofJson value) (∀ entry ∈ value.entriesOf "blocks", Json.IsBlockEntry entry)
      (FirstRefused Json.IsBlockEntry (Json.BlockRefused name) (value.entriesOf "blocks")) := by
  have hblocks := readBlocks_decides name (tableOf (value.get? "blocks"))
  rw [entries_tableOf] at hblocks
  unfold Target.ofJson
  rw [hname, hflag]
  exact hblocks.map _

theorem Target.ofJson_decides (value : Json) :
    Decides (Target.ofJson value) value.IsTarget value.TargetRefused := by
  refine .of_total ?_ ?_ ?_
  · -- the name is read first, then the flag, then the blocks; each case stops at one of them
    rintro ⟨⟨name, hname⟩, ⟨flag, hflag⟩, hentries⟩
    exact (Target.ofJson_of_flagged hname hflag).exists_ok_iff.2 hentries
  · intro error h
    cases h with
    | unnamed hname =>
      unfold Target.ofJson
      rw [Json.bind_eq_none Json.bind_text?_eq_some_iff hname]
      rfl
    | unflagged hname hflag =>
      unfold Target.ofJson
      rw [hname, Json.bind_eq_none Json.bind_bool?_eq_some_iff hflag]
      rfl
    | block hname hflag hblock =>
      exact ((Target.ofJson_of_flagged hname hflag).eq_error_iff error).2 hblock
  · -- every value is accepted or refused, and the first field that is wrong says by what
    by_cases hnamed : ∃ name, value.get? "name" = some (.text name)
    · obtain ⟨name, hname⟩ := hnamed
      by_cases hflagged : ∃ flag, value.get? "isStage" = some (.bool flag)
      · obtain ⟨flag, hflag⟩ := hflagged
        have hblocks := Target.ofJson_of_flagged hname hflag
        cases hread : Target.ofJson value with
        | ok target =>
          exact .inl ⟨⟨name, hname⟩, ⟨flag, hflag⟩, hblocks.exists_ok_iff.1 ⟨target, hread⟩⟩
        | error error =>
          exact .inr ⟨error, .block hname hflag ((hblocks.eq_error_iff error).1 hread)⟩
      · exact .inr ⟨_, .unflagged hname (not_exists.1 hflagged)⟩
    · exact .inr ⟨_, .unnamed (not_exists.1 hnamed)⟩

theorem Target.readFrom_of_ofJson {value : Json} {target : Target}
    (h : Target.ofJson value = .ok target) : target.ReadFrom value := by
  unfold Target.ofJson at h
  split at h
  · cases h
  rename_i name hname
  split at h
  · cases h
  rename_i flag hflag
  -- with name and flag read, only the blocks can still fail
  cases hblocks : readBlocks name (tableOf (value.get? "blocks")) with
  | error error =>
    rw [hblocks] at h
    cases h
  | ok blocks =>
    rw [hblocks] at h
    cases h
    refine ⟨Json.bind_text?_eq_some_iff.1 hname, Json.bind_bool?_eq_some_iff.1 hflag, ?_, ?_, ?_⟩
    · rw [← entries_tableOf]
      exact holdsRead_of_readBlocks hblocks
    · rw [← entries_tableOf]
      refine holdsRead_filterMap Json.isDeclaration ?_ Variable.readFrom_of_ofJson?
      intro entry _
      rw [Variable.ofJson?, Option.isSome_map, isSome_declaration?]
    · rw [← entries_tableOf]
      refine holdsRead_filterMap Json.isDeclaration ?_ ItemList.readFrom_of_ofJson?
      intro entry _
      rw [ItemList.ofJson?, Option.isSome_map, isSome_declaration?]

/-! ## Projects -/

theorem Project.ofJson_of_targets {value : Json} {items : List Json}
    (htargets : value.get? "targets" = some (.list items)) :
    Decides (Project.ofJson value) (∀ item ∈ items, item.IsTarget)
      (FirstRefused Json.IsTarget Json.TargetRefused items) := by
  unfold Project.ofJson
  rw [htargets]
  exact (Decides.of_row (fun _ => mapM_eq_error_iff) Target.ofJson_decides).map _

theorem Project.ofJson_decides (value : Json) :
    Decides (Project.ofJson value) value.IsProject value.ProjectRefused := by
  refine .of_total ?_ ?_ ?_
  · rintro ⟨items, htargets, hitems⟩
    exact (Project.ofJson_of_targets htargets).exists_ok_iff.2 hitems
  · intro error h
    cases h with
    | withoutTargets htargets =>
      unfold Project.ofJson
      rw [Json.bind_eq_none Json.bind_list?_eq_some_iff htargets]
      rfl
    | target htargets htarget =>
      exact ((Project.ofJson_of_targets htargets).eq_error_iff error).2 htarget
  · -- without a list of targets there is nothing to read; with it the first refused target decides
    by_cases hlisted : ∃ items, value.get? "targets" = some (.list items)
    · obtain ⟨items, htargets⟩ := hlisted
      have hrow := Project.ofJson_of_targets htargets
      cases hread : Project.ofJson value with
      | ok project => exact .inl ⟨items, htargets, hrow.exists_ok_iff.1 ⟨project, hread⟩⟩
      | error error => exact .inr ⟨error, .target htargets ((hrow.eq_error_iff error).1 hread)⟩
    · exact .inr ⟨_, .withoutTargets (not_exists.1 hlisted)⟩

/-- The targets of a project are read one by one. -/
theorem Project.targets_of_ofJson {value : Json} {project : Project}
    (h : Project.ofJson value = .ok project) :
    ∃ items, value.get? "targets" = some (.list items) ∧
      List.Forall₂ (fun item target => target.ReadFrom item) items project.targets := by
  unfold Project.ofJson at h
  split at h
  · cases h
  rename_i items htargets
  -- targets are read in their order, and all of them
  cases hrow : items.mapM Target.ofJson with
  | error error =>
    rw [hrow] at h
    cases h
  | ok targets =>
    rw [hrow] at h
    cases h
    refine ⟨items, Json.bind_list?_eq_some_iff.1 htargets, ?_⟩
    exact (mapM_eq_ok_iff.1 hrow).imp fun _ _ => Target.readFrom_of_ofJson

/-- The reader accepts exactly the values that are projects. It reads one target for each item of
the list of targets, in order, and any other value is refused for the first thing that is wrong with
it. -/
theorem ofJson_reads_exactly_projects (value : Json) :
    ((∃ project, Project.ofJson value = .ok project) ↔ value.IsProject) ∧
    (∀ project, Project.ofJson value = .ok project →
      ∃ items, value.get? "targets" = some (.list items) ∧
        List.Forall₂ (fun item target => target.ReadFrom item) items project.targets) ∧
    (∀ error, Project.ofJson value = .error error ↔ value.ProjectRefused error) :=
  ⟨(Project.ofJson_decides value).exists_ok_iff, fun _ => Project.targets_of_ofJson,
    (Project.ofJson_decides value).eq_error_iff⟩

/-- The bare list is left out, and what is wrong with the second target is not reached. -/
example :
    Project.ofJson (.object [("targets", .list
      [.object [("name", .text "Stage"), ("isStage", .bool true),
          ("blocks", .object [("loose", .list []), ("flag", .null)])],
        .object [("name", .null)]])]) =
      .error ⟨[.blockOf "Stage" "flag"], .blockNotObject⟩ :=
  rfl

end BlockScribe

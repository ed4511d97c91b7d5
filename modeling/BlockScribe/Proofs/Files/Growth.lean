import BlockScribe.FileTree
import BlockScribe.Proofs.Files.Journal
import BlockScribe.Proofs.Files.Resolution

/-! # What a file tree keeps

Writing files and making directories removes nothing from a file tree: a directory stays one, and a
file keeps its content until something is written to its place. Where a path can be followed at all,
it leads to the place that its text tells (`spot`), so a program that writes to different places can
be held to everything that it has written.

* `Grows touched tree after`: directories stay, and so do the files at places that are not touched.
* `grows_of_unfolds`: the events of a journal touch the places of what is written.
* `read_of_wrote`: if no two events write to one place, every file holds at the end what was written
  to it.
-/

namespace BlockScribe.FileTree

open BlockScribe.Path

/-! ## Where a path leads -/

/-- Where a step leads, if it can be taken. -/
def stride (place : List String) : Component → List String
  | .name text => place ++ [text]
  | .up => place.dropLast
  | _ => place

/-- The place that a path leads to from the current one, if it can be followed. -/
def spot (current : List String) (path : String) : List String :=
  (way path.toList).foldl stride (if isAbsolute path then [] else current)

theorem step_eq {place next : List String} {piece : List Char} (h : step place piece = .ok next) :
    next = (Component.ofPiece? piece).toList.foldl stride place := by
  unfold step at h
  split at h
  · -- a name that is too long is refused; any other one is a stride down
    rename_i text hpiece
    split at h
    · cases h
    · cases h
      simp [hpiece, stride]
  · rename_i hpiece
    cases h
    simp [hpiece, stride]
  · -- neither a name nor a step up: an inert piece leaves the place as it is
    rename_i hname hup
    cases h
    cases hpiece : Component.ofPiece? piece with
    | none => rfl
    | some component =>
      cases component with
      | name text => exact absurd hpiece (hname text)
      | up => exact absurd hpiece hup
      | root => rfl
      | here => rfl

theorem follow_eq {tree : FileTree} {place reached : List String} {pieces : List (List Char)}
    (h : tree.follow place pieces = .ok reached) :
    reached = (pieces.filterMap Component.ofPiece?).foldl stride place := by
  induction pieces generalizing place with
  | nil =>
    cases h
    rfl
  | cons piece rest ih =>
    obtain ⟨-, -, h⟩ := exists_of_except_bind_eq_ok h
    obtain ⟨next, hnext, h⟩ := exists_of_except_bind_eq_ok h
    rw [ih h, step_eq hnext]
    cases hpiece : Component.ofPiece? piece with
    | none => simp [hpiece]
    | some component => simp [hpiece]

/-- The pieces of a path have the components of its way, wherever it starts. -/
theorem start_eq (tree : FileTree) (path : String) :
    (tree.start path).1 = (if isAbsolute path then [] else tree.current) ∧
      (tree.start path).2.filterMap Component.ofPiece? = way path.toList := by
  unfold start isAbsolute
  split
  · rename_i rest hlist
    rw [hlist]
    exact ⟨rfl, (way_append_slash [] rest).symm⟩
  · rename_i hlist
    refine ⟨?_, rfl⟩
    cases hcs : path.toList with
    | nil => rfl
    | cons c rest =>
      -- the text does not begin with a slash, so it is not absolute
      have hc : c ≠ '/' := by
        rintro rfl
        exact hlist rest hcs
      simp [hc]

/-- A path leads where its text tells. -/
theorem place_eq_spot {tree : FileTree} {path : String} {place : List String}
    (h : tree.place path = .ok place) : place = spot tree.current path := by
  obtain ⟨-, -, h⟩ := exists_of_except_bind_eq_ok h
  have hfollow : tree.follow (tree.start path).1 (tree.start path).2 = .ok place := h
  rw [follow_eq hfollow, (start_eq tree path).1, (start_eq tree path).2]
  rfl

/-! ## Writing a file and making a directory -/

/-- The last piece of the path of a file is a name, so there are no slashes to drop. -/
theorem dropSlashes_eq {pieces : List (List Char)} {text : String}
    (h : pieces.getLast?.bind Component.ofPiece? = some (.name text)) :
    dropSlashes pieces = pieces := by
  rcases Option.bind_eq_some_iff.1 h with ⟨piece, hlast, hpiece⟩
  obtain ⟨before, rfl⟩ := List.getLast?_eq_some_iff.1 hlast
  have hne : piece.isEmpty = false := by
    cases piece with
    | nil => cases hpiece
    | cons c rest => rfl
  simp [dropSlashes, hne]

/-- The place of a file to write is where its path leads, and no directory stands there. -/
theorem filePlace_eq_ok {tree : FileTree} {path : String} {place : List String}
    (h : tree.filePlace path = .ok place) :
    tree.place path = .ok place ∧ tree.node? place ≠ some .directory := by
  obtain ⟨_, hcheck, h⟩ := exists_of_except_bind_eq_ok h
  obtain ⟨reached, hfollow, h⟩ := exists_of_except_bind_eq_ok h
  split at h
  · cases h
  · -- the place is there and is no directory
    rename_i text hname hnode
    cases h
    rw [dropSlashes_eq hname] at hfollow
    refine ⟨?_, hnode⟩
    unfold FileTree.place
    rw [hcheck]
    exact hfollow
  · cases h

theorem write_eq_ok {tree after : FileTree} {path : String} {content : ByteArray}
    (h : tree.write path content = .ok after) :
    ∃ place, tree.place path = .ok place ∧ tree.node? place ≠ some .directory ∧
      after = tree.put place (.file content) := by
  obtain ⟨place, hplace, h⟩ := exists_of_except_bind_eq_ok h
  cases h
  exact ⟨place, (filePlace_eq_ok hplace).1, (filePlace_eq_ok hplace).2, rfl⟩

theorem createDirectory_eq_ok {tree after : FileTree} {path : String}
    (h : tree.createDirectory path = .ok after) :
    ∃ place, tree.node? place = none ∧ after = tree.put place .directory := by
  obtain ⟨-, -, h⟩ := exists_of_except_bind_eq_ok h
  obtain ⟨place, -, h⟩ := exists_of_except_bind_eq_ok h
  split at h
  · cases h
  · rename_i hnode
    cases h
    exact ⟨place, hnode, rfl⟩

theorem ne_nil_of_node? {tree : FileTree} {place : List String}
    (h : tree.node? place ≠ some .directory) : place ≠ [] := by
  rintro rfl
  exact h rfl

/-! ## Growth -/

/-- Directories stay, and so do the files at places that are not touched. -/
structure Grows (touched : List (List String)) (tree after : FileTree) : Prop where
  current : after.current = tree.current
  directory : ∀ place, tree.node? place = some .directory → after.node? place = some .directory
  file : ∀ place content, tree.node? place = some (.file content) → place ∉ touched →
    after.node? place = some (.file content)

theorem Grows.refl (touched : List (List String)) (tree : FileTree) : Grows touched tree tree where
  current := rfl
  directory := fun _ h => h
  file := fun _ _ h _ => h

theorem Grows.trans {touched more : List (List String)} {tree middle after : FileTree}
    (h : Grows touched tree middle) (hmore : Grows more middle after) :
    Grows (touched ++ more) tree after where
  current := hmore.current.trans h.current
  directory := fun place hplace => hmore.directory place (h.directory place hplace)
  file := by
    intro place content hfile huntouched
    rw [List.mem_append, not_or] at huntouched
    exact hmore.file place content (h.file place content hfile huntouched.1) huntouched.2

/-- Putting something where no directory stands touches that place alone. -/
theorem grows_put {tree : FileTree} {place : List String}
    (h : tree.node? place ≠ some .directory) (node : Node) :
    Grows [place] tree (tree.put place node) where
  current := rfl
  directory := by
    intro other hother
    have hne : other ≠ place := by
      rintro rfl
      exact h hother
    rw [node?_put tree other node (ne_nil_of_node? h), if_neg hne, hother]
  file := by
    intro other content hother huntouched
    have hne : other ≠ place := fun heq => huntouched (by simp [heq])
    rw [node?_put tree other node (ne_nil_of_node? h), if_neg hne, hother]

theorem grows_write {tree after : FileTree} {path : String} {content : ByteArray}
    (h : tree.write path content = .ok after) : Grows [spot tree.current path] tree after := by
  obtain ⟨place, hplace, hnode, rfl⟩ := write_eq_ok h
  rw [← place_eq_spot hplace]
  exact grows_put hnode _

theorem grows_createDirectory {tree after : FileTree} {path : String}
    (h : tree.createDirectory path = .ok after) : Grows [] tree after := by
  obtain ⟨place, hnode, rfl⟩ := createDirectory_eq_ok h
  have hput : Grows [place] tree (tree.put place .directory) := grows_put (by simp [hnode]) _
  refine ⟨hput.current, hput.directory, ?_⟩
  intro other content hother _
  refine hput.file other content hother ?_
  intro hmem
  rw [List.mem_singleton.1 hmem, hnode] at hother
  cases hother

/-! ## What can still be read -/

theorem enter_eq_ok {tree : FileTree} {place : List String} (h : tree.enter place = .ok ()) :
    tree.node? place = some .directory := by
  unfold enter at h
  split at h
  · assumption
  · cases h
  · cases h

/-- A way that could be followed can be followed still. -/
theorem Grows.follow {touched : List (List String)} {tree after : FileTree}
    (hgrows : Grows touched tree after) {place reached : List String} {pieces : List (List Char)}
    (h : tree.follow place pieces = .ok reached) : after.follow place pieces = .ok reached := by
  induction pieces generalizing place with
  | nil => exact h
  | cons piece rest ih =>
    obtain ⟨_, henter, h⟩ := exists_of_except_bind_eq_ok h
    obtain ⟨next, hnext, h⟩ := exists_of_except_bind_eq_ok h
    -- a directory stays a directory, so every step that could be made still can
    have hdirectory := hgrows.directory place (enter_eq_ok henter)
    have henter' : after.enter place = .ok () := by
      unfold enter
      rw [hdirectory]
    unfold FileTree.follow
    rw [henter', hnext]
    exact ih h

theorem Grows.place {touched : List (List String)} {tree after : FileTree}
    (hgrows : Grows touched tree after) {path : String} {place : List String}
    (h : tree.place path = .ok place) : after.place path = .ok place := by
  obtain ⟨_, hcheck, h⟩ := exists_of_except_bind_eq_ok h
  have hstart : after.start path = tree.start path := by
    unfold start
    rw [hgrows.current]
  unfold FileTree.place
  rw [hcheck, hstart]
  exact hgrows.follow h

theorem read_of_node? {tree : FileTree} {path : String} {place : List String} {content : ByteArray}
    (hplace : tree.place path = .ok place) (hnode : tree.node? place = some (.file content)) :
    tree.read path = .ok content := by
  have hlook : tree.lookUp path = .ok (.file content) := by
    simp only [lookUp, hplace, hnode, bind, Except.bind]
  unfold read
  rw [hlook]

/-- A file that was just written holds what was written, until its place is touched again. -/
theorem read_after_write {touched : List (List String)} {tree middle after : FileTree}
    {path : String} {content : ByteArray} (hwrite : tree.write path content = .ok middle)
    (hgrows : Grows touched middle after) (huntouched : spot tree.current path ∉ touched) :
    after.read path = .ok content := by
  have hmiddle := grows_write hwrite
  obtain ⟨place, hplace, hnode, rfl⟩ := write_eq_ok hwrite
  rw [← place_eq_spot hplace] at huntouched
  have hput : (tree.put place (.file content)).node? place = some (.file content) := by
    rw [node?_put tree place _ (ne_nil_of_node? hnode), if_pos rfl]
  exact read_of_node? (hgrows.place (hmiddle.place hplace)) (hgrows.file _ _ hput huntouched)

/-! ## Journals -/

theorem write_run (tree : FileTree) (path : String) (content : ByteArray) :
    (files.write path content).run tree =
      match tree.write path content with
      | .ok after => (.ok (), after)
      | .error fault => (.error fault, tree) := rfl

theorem createDirectory_run (tree : FileTree) (path : String) :
    (files.createDirectory path).run tree =
      match tree.createDirectory path with
      | .ok after => (.ok (), after)
      | .error fault => (.error fault, tree) := rfl

/-- Whatever comes of it, writing a file touches its place alone. -/
theorem grows_write_run (tree : FileTree) (path : String) (content : ByteArray) :
    Grows [spot tree.current path] tree ((files.write path content).run tree).2 := by
  rw [write_run]
  cases h : tree.write path content with
  | ok after => exact grows_write h
  | error fault => exact .refl _ tree

theorem grows_createDirectory_run (tree : FileTree) (path : String) :
    Grows [] tree ((files.createDirectory path).run tree).2 := by
  rw [createDirectory_run]
  cases h : tree.createDirectory path with
  | ok after => exact grows_createDirectory h
  | error fault => exact .refl _ tree

/-- The events of a journal touch the places of what is written. -/
theorem grows_of_unfolds {tree after : FileTree} {events : List Event}
    (h : Unfolds files tree events after) :
    Grows ((written events).map (spot tree.current)) tree after := by
  -- only writing and making change the tree, each at the spot of its path
  induction h with
  | done tree => exact .refl _ tree
  | look path _ ih => exact ih
  | read path _ ih => exact ih
  | check path _ ih => exact ih
  | @write tree after events path content _ ih =>
    have hwrite := grows_write_run tree path content
    rw [hwrite.current] at ih
    exact hwrite.trans ih
  | @make tree after events path _ ih =>
    have hmake := grows_createDirectory_run tree path
    rw [hmake.current] at ih
    exact hmake.trans ih

/-- If no two events write to one place, every file holds at the end what was written to it. -/
theorem read_of_wrote {tree after : FileTree} {events : List Event}
    (h : Unfolds files tree events after)
    (hnodup : ((written events).map (spot tree.current)).Nodup) {path : String}
    {content : ByteArray} (hmem : .wrote path content (.ok ()) ∈ events) :
    after.read path = .ok content := by
  induction h with
  | done tree => exact absurd hmem List.not_mem_nil
  | look other _ ih =>
    rcases List.mem_cons.1 hmem with heq | hmem
    · cases heq
    · exact ih hnodup hmem
  | read other _ ih =>
    rcases List.mem_cons.1 hmem with heq | hmem
    · cases heq
    · exact ih hnodup hmem
  | check other _ ih =>
    rcases List.mem_cons.1 hmem with heq | hmem
    · cases heq
    · exact ih hnodup hmem
  | @make tree after events other _ ih =>
    rcases List.mem_cons.1 hmem with heq | hmem
    · cases heq
    · refine ih ?_ hmem
      rw [(grows_createDirectory_run tree other).current]
      exact hnodup
  | @write tree after events other bytes hrest ih =>
    have hgrows := grows_of_unfolds hrest
    have hcurrent := (grows_write_run tree other bytes).current
    rw [hcurrent] at hgrows
    -- the places of the events that follow are not the one of this event
    have hnodup' : (spot tree.current other ::
        (written events).map (spot tree.current)).Nodup := hnodup
    rw [List.nodup_cons] at hnodup'
    rcases List.mem_cons.1 hmem with heq | hmem
    · obtain ⟨rfl, rfl, hanswer⟩ := Event.wrote.inj heq
      rw [write_run] at hanswer hgrows
      cases hwrite : tree.write path content with
      | error fault =>
        rw [hwrite] at hanswer
        cases hanswer
      | ok middle =>
        rw [hwrite] at hgrows
        exact read_after_write hwrite hgrows hnodup'.1
    · refine ih ?_ hmem
      rw [hcurrent]
      exact hnodup'.2

end BlockScribe.FileTree

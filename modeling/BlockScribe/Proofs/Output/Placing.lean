import BlockScribe.Proofs.Files.Journal
import BlockScribe.Proofs.Output.Names

/-! # What becomes of assets

Placing assets looks for the payload of each, in turn. A `Find` is an asset with what was found for
it. From the finds alone follows what is listed, under which keys, what is noted, and what is
written where; `Progress` says so, and it is kept by every asset that is placed
(`recordsExcept_placeOne`), so it holds at the end (`recordsExcept_place`). If the file system
refuses something, then at most one more copy was begun, and its name was chosen like the others.
-/

namespace BlockScribe

open BlockScribe.Path
open Identifier (suffixed)

/-! ## Keys -/

/-- Keys for names, one after the other: each is its name, followed by the fewest underscores that
make it differ from the keys before it. -/
inductive KeyedInTurn : (names keys : List String) → Prop
  | nil : KeyedInTurn [] []
  | snoc {names keys : List String} (h : KeyedInTurn names keys) {name : String} {count : Nat}
    (hfree : suffixed name count ∉ keys) (hleast : ∀ fewer < count, suffixed name fewer ∈ keys) :
    KeyedInTurn (names ++ [name]) (keys ++ [suffixed name count])

/-- The next key is a fresh name. -/
theorem KeyedInTurn.fresh {names keys : List String} (h : KeyedInTurn names keys) (name : String) :
    KeyedInTurn (names ++ [name]) (keys ++ [Identifier.fresh keys name]) := by
  rcases Identifier.extend_eq_suffixed (fun key => keys.contains key) keys.length name with
    ⟨count, -, heq, hleast, -⟩
  have hkey : Identifier.fresh keys name = suffixed name count := heq
  have hfree := Identifier.fresh_not_mem keys name
  rw [hkey] at hfree ⊢
  exact h.snoc hfree fun fewer hfewer => by simpa using hleast fewer hfewer

namespace Placed

/-- An asset is listed behind the others, under a fresh name. -/
theorem entries_list (placed : Placed) (asset : Asset) (path : String) :
    (placed.list asset path).entries.entries =
      placed.entries.entries ++
        [(Identifier.fresh placed.entries.keys asset.name, ⟨asset.dataFormat, path⟩)] := by
  apply Dict.entries_insert_of_get?_eq_none
  rw [Dict.get?_eq_none_iff]
  exact Identifier.fresh_not_mem _ _

theorem keys_list (placed : Placed) (asset : Asset) (path : String) :
    (placed.list asset path).entries.keys =
      placed.entries.keys ++ [Identifier.fresh placed.entries.keys asset.name] := by
  unfold Dict.keys
  rw [entries_list, List.map_append]
  rfl

theorem values_list (placed : Placed) (asset : Asset) (path : String) :
    (placed.list asset path).entries.values =
      placed.entries.values ++ [⟨asset.dataFormat, path⟩] := by
  unfold Dict.values
  rw [entries_list, List.map_append]
  rfl

end Placed

/-! ## Finds -/

/-- An asset, and the payload that was found for it, if there was one. -/
structure Find where
  asset : Asset
  payload : Option ByteArray

namespace Find

/-- Whether an asset is listed: always if nothing is copied, else if there is a payload. -/
def isListed (options : OutputOptions) (find : Find) : Bool :=
  !options.copyAssets || find.payload.isSome

/-- What is asked about an asset, with the answers. -/
def inquiries (options : OutputOptions) (payloads : String) (find : Find) : List Event :=
  let source := join payloads find.asset.fileName
  if !options.copyAssets then []
  else match find.payload with
    | none => [.looked source false]
    | some payload => [.looked source true, .read source (.ok payload)]

/-- What is noted about an asset: that its payload is missing, or, if that is asked for, that it is
not the payload that the asset names. -/
def diagnostics (options : OutputOptions) (find : Find) : List Diagnostic :=
  if !options.copyAssets then []
  else match find.payload with
    | none => [⟨none, .missingAsset find.asset.name find.asset.fileName⟩]
    | some payload =>
      if options.verifyAssets then (find.asset.mismatch? payload).toList.map (⟨none, ·⟩) else []

end Find

/-- The assets with a payload. -/
def copiedOf (finds : List Find) : List Asset :=
  (finds.filter fun find => find.payload.isSome).map Find.asset

theorem copiedOf_sublist (finds : List Find) : (copiedOf finds).Sublist (finds.map Find.asset) :=
  List.filter_sublist.map _

/-- A table accounts for assets: in their order, it has an entry for each that is listed, and for no
other. If payloads are copied, `holds` is so of the path of an entry and the payload. -/
structure Accounts (options : OutputOptions) (holds : String → ByteArray → Prop)
    (finds : List Find) (table : Dict String AssetEntry) : Prop where
  keyed : KeyedInTurn ((finds.filter (Find.isListed options)).map fun find => find.asset.name)
    table.keys
  entered : List.Forall₂
    (fun find entry => entry.format = find.asset.dataFormat ∧
      if options.copyAssets then ∃ payload, find.payload = some payload ∧ holds entry.path payload
      else entry.path = find.asset.fileName)
    (finds.filter (Find.isListed options)) table.values

section Accounts

variable {options : OutputOptions} {holds holds' : String → ByteArray → Prop} {finds : List Find}
  {placed : Placed}

theorem Accounts.imp {table : Dict String AssetEntry} (h : Accounts options holds finds table)
    (himp : ∀ path payload, holds path payload → holds' path payload) :
    Accounts options holds' finds table where
  keyed := h.keyed
  entered := by
    refine h.entered.imp fun find entry hentry => ⟨hentry.1, ?_⟩
    have hpath := hentry.2
    split at hpath
    · rename_i hcopy
      rw [if_pos hcopy]
      rcases hpath with ⟨payload, hpayload, hholds⟩
      exact ⟨payload, hpayload, himp _ _ hholds⟩
    · rename_i hcopy
      rwa [if_neg hcopy]

theorem accounts_nil : Accounts options holds [] Dict.empty := ⟨.nil, .nil⟩

/-- Listing one more asset. -/
theorem Accounts.list (h : Accounts options holds finds placed.entries) {find : Find}
    {path : String} (hlisted : find.isListed options = true)
    (hpath : if options.copyAssets then ∃ payload, find.payload = some payload ∧ holds path payload
      else path = find.asset.fileName) :
    Accounts options holds (finds ++ [find]) (placed.list find.asset path).entries where
  keyed := by
    rw [List.filter_append, List.filter_singleton, hlisted, List.map_append, Placed.keys_list]
    exact h.keyed.fresh _
  entered := by
    rw [List.filter_append, List.filter_singleton, hlisted, Placed.values_list]
    exact List.rel_append h.entered (.cons ⟨rfl, hpath⟩ .nil)

/-- Leaving one more asset out. -/
theorem Accounts.skip {table : Dict String AssetEntry} (h : Accounts options holds finds table)
    {find : Find} (hlisted : find.isListed options = false) :
    Accounts options holds (finds ++ [find]) table := by
  refine ⟨?_, ?_⟩
  · rw [List.filter_append, List.filter_singleton, hlisted]
    simpa using h.keyed
  · rw [List.filter_append, List.filter_singleton, hlisted]
    simpa using h.entered

end Accounts

/-! ## Copies -/

/-- The next copy gets a name that is fresh against those chosen before. -/
theorem copyPaths_concat (directory kind : String) (copied : List Asset) (asset : Asset) :
    copyPaths directory kind (copied ++ [asset]) =
      copyPaths directory kind copied ++
        [assetPath directory kind
          (freshFileName ((directoryNames [] (copied.map Asset.name)).map lowercase).reverse
            asset.name) asset.dataFormat] := by
  unfold copyPaths
  rw [List.map_append, directoryNames_append,
    List.zip_append (by rw [length_directoryNames, List.length_map]), List.map_append]
  simp [directoryNames]

/-- A payload was written to a path below the output. -/
def WroteTo (output : String) (events : List Event) (path : String) (payload : ByteArray) : Prop :=
  .wrote (join output path) payload (.ok ()) ∈ events

/-- What is known once some assets are placed. -/
structure Placement.Progress (p : Placement) (finds : List Find) (events : List Event)
    (placed : Placed) : Prop where
  accounts : Accounts p.options (WroteTo p.output events) finds placed.entries
  stems : placed.stems =
    ((directoryNames [] ((copiedOf finds).map Asset.name)).map lowercase).reverse
  diagnostics : placed.diagnostics = finds.flatMap (Find.diagnostics p.options)
  asked : inquiries events = finds.flatMap (Find.inquiries p.options p.payloads)
  written : written events = (copyPaths p.directory p.kind (copiedOf finds)).map (join p.output)

section Placing

variable {W : Type} {files : Files (StateM W)} {p : Placement} {finds : List Find}
  {events : List Event} {placed : Placed}

theorem progress_nil : p.Progress [] [] .empty := ⟨accounts_nil, rfl, rfl, rfl, rfl⟩

/-- The copies of some assets were begun, and no others. -/
def Placement.Begun (p : Placement) (assets : List Asset) (events : List Event) : Prop :=
  ∃ copied : List Asset, copied.Sublist assets ∧
    BlockScribe.written events = (copyPaths p.directory p.kind copied).map (join p.output)

theorem Placement.Progress.begun (h : p.Progress finds events placed) :
    p.Begun (finds.map Find.asset) events :=
  ⟨copiedOf finds, copiedOf_sublist finds, h.written⟩

theorem Placement.Begun.mono {assets others : List Asset} (h : p.Begun assets events)
    (hsub : assets.Sublist others) : p.Begun others events := by
  rcases h with ⟨copied, hcopied, hwritten⟩
  exact ⟨copied, hcopied.trans hsub, hwritten⟩

/-- Without copying, an asset is listed with the file of its payload. -/
theorem Placement.Progress.list (h : p.Progress finds events placed)
    (hcopy : p.options.copyAssets = false) (asset : Asset) :
    p.Progress (finds ++ [⟨asset, none⟩]) events (placed.list asset asset.fileName) where
  accounts := h.accounts.list (by simp [Find.isListed, hcopy]) (by simp [hcopy])
  stems := by simpa [copiedOf, Placed.list] using h.stems
  diagnostics := by simpa [Find.diagnostics, hcopy, Placed.list] using h.diagnostics
  asked := by simpa [Find.inquiries, hcopy] using h.asked
  written := by simpa [copiedOf] using h.written

/-- A missing payload is noted. -/
theorem Placement.Progress.note (h : p.Progress finds events placed)
    (hcopy : p.options.copyAssets = true) (asset : Asset) :
    p.Progress (finds ++ [⟨asset, none⟩])
      (events ++ [.looked (join p.payloads asset.fileName) false])
      (placed.note (.missingAsset asset.name asset.fileName)) where
  accounts := by
    -- a missing asset is noted and takes no place in the table
    refine (h.accounts.imp fun path payload hwrote => ?_).skip (by simp [Find.isListed, hcopy])
    exact List.mem_append_left _ hwrote
  stems := by simpa [copiedOf, Placed.note] using h.stems
  diagnostics := by simp [Find.diagnostics, hcopy, Placed.note, h.diagnostics]
  asked := by
    rw [inquiries_append, h.asked]
    simp [Find.inquiries, hcopy, inquiries, Event.isInquiry]
  written := by
    rw [written_append, h.written]
    simp [copiedOf, BlockScribe.written, writes, Event.write?]

/-- Where the copy of the next asset goes. -/
def Placement.copyPath (p : Placement) (placed : Placed) (asset : Asset) : String :=
  assetPath p.directory p.kind (freshFileName placed.stems asset.name) asset.dataFormat

/-- The placed assets with one more that is copied. -/
def Placement.listCopy (p : Placement) (placed : Placed) (asset : Asset) : Placed :=
  { placed.list asset (p.copyPath placed asset) with
    stems := lowercase (freshFileName placed.stems asset.name) :: placed.stems }

/-- What is known of the placed assets, if the digest of the next one is looked at. -/
def Placement.check (p : Placement) (placed : Placed) (asset : Asset) (payload : ByteArray) :
    Placed :=
  (if p.options.verifyAssets then asset.mismatch? payload else none).elim placed placed.note

@[simp]
theorem Placement.entries_check (p : Placement) (placed : Placed) (asset : Asset)
    (payload : ByteArray) : (p.check placed asset payload).entries = placed.entries := by
  unfold Placement.check
  cases (if p.options.verifyAssets then asset.mismatch? payload else none) with
  | none => rfl
  | some notice => rfl

@[simp]
theorem Placement.stems_check (p : Placement) (placed : Placed) (asset : Asset)
    (payload : ByteArray) : (p.check placed asset payload).stems = placed.stems := by
  unfold Placement.check
  cases (if p.options.verifyAssets then asset.mismatch? payload else none) with
  | none => rfl
  | some notice => rfl

theorem Placement.copyPath_check (p : Placement) (placed : Placed) (asset : Asset)
    (payload : ByteArray) :
    p.copyPath (p.check placed asset payload) asset = p.copyPath placed asset := by
  unfold Placement.copyPath
  rw [stems_check]

theorem Placement.diagnostics_check {p : Placement} (hcopy : p.options.copyAssets = true)
    (placed : Placed) (asset : Asset) (payload : ByteArray) :
    (p.check placed asset payload).diagnostics =
      placed.diagnostics ++ Find.diagnostics p.options ⟨asset, some payload⟩ := by
  unfold Placement.check Find.diagnostics
  cases p.options.verifyAssets with
  | false => simp [hcopy]
  | true =>
    cases hnotice : asset.mismatch? payload with
    | none => simp [hcopy, hnotice]
    | some notice => simp [hcopy, hnotice, Placed.note]

/-- A payload that was found is copied under a fresh name. -/
theorem Placement.Progress.copy (h : p.Progress finds events placed)
    (hcopy : p.options.copyAssets = true) {asset : Asset} {payload : ByteArray} {more : List Event}
    (hasked : inquiries more = Find.inquiries p.options p.payloads ⟨asset, some payload⟩)
    (hwritten : BlockScribe.written more = [join p.output (p.copyPath placed asset)])
    (hwrote : WroteTo p.output more (p.copyPath placed asset) payload) :
    p.Progress (finds ++ [⟨asset, some payload⟩]) (events ++ more)
      (p.listCopy (p.check placed asset payload) asset) := by
  let noted := p.check placed asset payload
  have hpath : p.copyPath noted asset = p.copyPath placed asset :=
    p.copyPath_check placed asset payload
  have hentries : noted.entries = placed.entries := p.entries_check placed asset payload
  have hstems : noted.stems = placed.stems := p.stems_check placed asset payload
  have hcopied : copiedOf (finds ++ [⟨asset, some payload⟩]) = copiedOf finds ++ [asset] := by
    simp [copiedOf]
  refine ⟨?_, ?_, ?_, ?_, ?_⟩
  · -- earlier entries keep their files, and the new one has just got its own
    have hearlier : Accounts p.options (WroteTo p.output (events ++ more)) finds
        noted.entries := by
      rw [hentries]
      exact h.accounts.imp fun path payload' hearlier => List.mem_append_left _ hearlier
    refine hearlier.list (by simp [Find.isListed]) ?_
    rw [if_pos hcopy, hpath]
    exact ⟨payload, rfl, List.mem_append_right _ hwrote⟩
  · rw [hcopied]
    show lowercase (freshFileName noted.stems asset.name) :: noted.stems = _
    rw [hstems, h.stems, List.map_append, directoryNames_append]
    simp [directoryNames]
  · show noted.diagnostics = _
    rw [p.diagnostics_check hcopy, h.diagnostics]
    simp
  · rw [inquiries_append, h.asked, hasked, List.flatMap_append, List.flatMap_singleton]
  · rw [written_append, h.written, hwritten, hcopied, copyPaths_concat, List.map_append, ← h.stems]
    rfl

/-- If the next copy was begun at all, its name was chosen like the others. -/
theorem Placement.Progress.begin (h : p.Progress finds events placed) {asset : Asset}
    {more : List Event}
    (hmore : BlockScribe.written more <+: [join p.output (p.copyPath placed asset)]) :
    p.Begun (finds.map Find.asset ++ [asset]) (events ++ more) := by
  rcases List.prefix_cons_iff.1 hmore with hnone | ⟨rest, hone, hrest⟩
  · refine ⟨copiedOf finds, (copiedOf_sublist finds).trans (List.sublist_append_left _ _), ?_⟩
    rw [written_append, hnone, List.append_nil, h.written]
  · rw [List.prefix_nil.1 hrest] at hone
    refine ⟨copiedOf finds ++ [asset], (copiedOf_sublist finds).append (.refl _), ?_⟩
    rw [written_append, h.written, hone, copyPaths_concat, List.map_append, ← h.stems]
    rfl

/-! ## Placing assets -/

/-- Copying a payload writes one file, and asks for none. -/
theorem recordsExcept_copy (placed : Placed) (asset : Asset) (payload : ByteArray) :
    RecordsExcept files (p.copy files.journaled placed asset payload)
      (p.copy files placed asset payload)
      (fun next events => next = p.listCopy placed asset ∧ inquiries events = [] ∧
        written events = [join p.output (p.copyPath placed asset)] ∧
        WroteTo p.output events (p.copyPath placed asset) payload)
      fun events => written events <+: [join p.output (p.copyPath placed asset)] := by
  unfold Placement.copy
  refine (recordsExcept_createDirectories _).bind ?_ ?_
  · intro _ quiet hquiet
    refine ((recordsExcept_write _ payload).during _).bind ?_ ?_
    · -- the directories are made quietly, and the copy is the one write behind them
      rintro _ _ rfl
      refine recordsExcept_pure ⟨rfl, ?_, ?_, ?_⟩
      · rw [inquiries_append, hquiet.asked]
        rfl
      · rw [written_append, hquiet.written]
        rfl
      · exact List.mem_append_right _ List.mem_cons_self
    · -- the write was refused, so at most this path was written to
      rintro _ ⟨fault, rfl⟩
      rw [written_append, hquiet.written, List.nil_append]
      exact List.cons_prefix_cons.2 ⟨rfl, List.nil_prefix⟩
  · intro quiet hquiet
    rw [hquiet.written]
    exact List.nil_prefix

/-- Placing one more asset keeps what is known, whatever is found for it. If something is refused,
at most its copy was begun. -/
theorem recordsExcept_placeOne (h : p.Progress finds events placed) (asset : Asset) :
    RecordsExcept files (p.placeOne files.journaled placed asset) (p.placeOne files placed asset)
      (fun next more => ∃ payload, p.Progress (finds ++ [⟨asset, payload⟩]) (events ++ more) next)
      fun more => p.Begun (finds.map Find.asset ++ [asset]) (events ++ more) := by
  unfold Placement.placeOne
  -- without copying, assets are listed and nothing is looked at
  cases hcopy : p.options.copyAssets with
  | false =>
    refine recordsExcept_pure ⟨none, ?_⟩
    rw [List.append_nil]
    exact h.list hcopy asset
  | true =>
    refine (recordsExcept_lift (records_isFile _)).bind ?_ ?_
    · rintro found _ rfl
      cases found with
      | false => exact recordsExcept_pure ⟨none, h.note hcopy asset⟩
      | true =>
        refine ((recordsExcept_read _).during _).bind ?_ ?_
        · rintro payload _ rfl
          -- a failed verification adds a note, but the path stays the same
          have hpath := p.copyPath_check placed asset payload
          refine (recordsExcept_copy (p.check placed asset payload) asset payload).mono ?_ ?_
          · rintro next more ⟨rfl, hasked, hwritten, hwrote⟩
            rw [hpath] at hwritten hwrote
            refine ⟨some payload, h.copy hcopy ?_ hwritten ?_⟩
            · rw [inquiries_append, inquiries_append, hasked]
              simp only [Find.inquiries, hcopy]
              rfl
            · exact List.mem_append_right _ (List.mem_append_right _ hwrote)
          · intro more hmore
            rw [hpath] at hmore
            exact h.begin hmore
        · -- the payload could not be read, and nothing was written for it
          rintro more ⟨fault, rfl⟩
          exact h.begin List.nil_prefix
    · exact fun more hfalse => hfalse.elim

/-- Placing assets one after the other. -/
theorem recordsExcept_foldlM {rest : List Asset} (h : p.Progress finds events placed) :
    RecordsExcept files (rest.foldlM (p.placeOne files.journaled) placed)
      (rest.foldlM (p.placeOne files) placed)
      (fun result more => ∃ found : List Find, found.map Find.asset = rest ∧
        p.Progress (finds ++ found) (events ++ more) result)
      fun more => p.Begun (finds.map Find.asset ++ rest) (events ++ more) := by
  induction rest generalizing finds events placed with
  | nil =>
    refine recordsExcept_pure ⟨[], rfl, ?_⟩
    rw [List.append_nil, List.append_nil]
    exact h
  | cons asset rest ih =>
    rw [List.foldlM_cons, List.foldlM_cons]
    refine (recordsExcept_placeOne h asset).bind ?_ ?_
    · rintro next more ⟨payload, hnext⟩
      -- the progress behind the first asset is where the others begin
      refine (ih hnext).mono ?_ ?_
      · rintro result further ⟨found, hfound, hresult⟩
        refine ⟨⟨asset, payload⟩ :: found, by rw [List.map_cons, hfound], ?_⟩
        rw [List.append_assoc, List.append_assoc] at hresult
        exact hresult
      · intro further hbegun
        rw [List.map_append, List.append_assoc, List.append_assoc] at hbegun
        exact hbegun
    · intro more hbegun
      -- it stopped at the first asset, and the others were not begun
      refine hbegun.mono (List.Sublist.append (.refl _) ?_)
      exact (List.nil_sublist rest).cons_cons asset

/-- What is known at the end of placing assets. -/
theorem recordsExcept_place (assets : List Asset) :
    RecordsExcept files (p.place files.journaled assets) (p.place files assets)
      (fun placed events => ∃ finds : List Find, finds.map Find.asset = assets ∧
        p.Progress finds events placed)
      (p.Begun assets) :=
  recordsExcept_foldlM progress_nil

end Placing

end BlockScribe

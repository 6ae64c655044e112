import CardKeeper.Proofs.Activity
import CardKeeper.Proofs.Volume.Replaceable
import CardKeeper.Publish

/-!
# Publishing is all or nothing

A draft is a file where nothing stood, so while it is there every path to a folder leads where it
did.  The entry that is replaced is therefore the one that the path asked for to begin with
(`destination_overlay`), and on a disk that does not fail the whole activity comes down to at most
one change of the volume: `publishUnder_of_serve`.

A disk may fail in any step, also with a part of the data written.  Each step keeps the volume as it
was but for the draft (`Drafted`), so whatever fails, the draft is all that has to be taken away, and
publishing is atomic under all conditions: `publishUnder_atomic`.
-/

namespace CardKeeper

/-! ## Volumes put together again -/

namespace Volume

theorem ext_entries {left right : Volume} (entries : left.entries = right.entries)
    (current : left.current = right.current) : left = right := by
  cases left
  cases right
  cases entries
  cases current
  rfl

theorem putEntry_putEntry (location : Location) (first second : Node)
    (entries : List (Location × Node)) :
    putEntry location second (putEntry location first entries) =
      putEntry location second entries := by
  induction entries with
  | nil => simp [putEntry]
  | cons entry rest ih =>
      by_cases same : entry.1 = location
      · simp [putEntry, same]
      · simp [putEntry, same, ih]

theorem putEntry_self {location : Location} {node : Node} {entries : List (Location × Node)}
    (stands : find? location entries = some node) :
    putEntry location node entries = entries := by
  induction entries with
  | nil => cases stands
  | cons entry rest ih =>
      rw [find?] at stands
      rw [putEntry]
      split at stands
      · next same =>
          cases stands
          rw [if_pos same, ← same]
      · next differs => rw [if_neg differs, ih stands]

theorem filter_putEntry {location : Location} {entries : List (Location × Node)}
    (fresh : location ∉ entries.map Prod.fst) (node : Node) :
    (putEntry location node entries).filter (fun entry => entry.1 != location) = entries := by
  induction entries with
  | nil => simp [putEntry]
  | cons entry rest ih =>
      rw [List.map_cons, List.mem_cons, not_or] at fresh
      have differs := Ne.symm fresh.1
      simp [putEntry, differs, ih fresh.2]

theorem node?_put_self {location : Location} (below : location ≠ []) (volume : Volume)
    (node : Node) : (volume.put location node).node? location = some node := by
  rw [node?_put _ _ _ _ below, if_pos rfl]

theorem node?_put_of_ne {location key : Location} (below : location ≠ []) (differs : key ≠ location)
    (volume : Volume) (node : Node) :
    (volume.put location node).node? key = volume.node? key := by
  rw [node?_put _ _ _ _ below, if_neg differs]

/-- The later of two nodes at a location stays. -/
theorem put_put (volume : Volume) (location : Location) (first second : Node) :
    (volume.put location first).put location second = volume.put location second :=
  ext_entries (putEntry_putEntry location first second volume.entries) rfl

/-- To put what stands there already changes nothing. -/
theorem put_self {volume : Volume} {location : Location} {node : Node} (below : location ≠ [])
    (stands : volume.node? location = some node) : volume.put location node = volume := by
  cases location with
  | nil => exact absurd rfl below
  | cons name above => exact ext_entries (putEntry_self stands) rfl

/-- Taking away what was put where nothing stood leaves nothing behind. -/
theorem erase_put {volume : Volume} {name : Name} {above : Location}
    (fresh : volume.node? (name :: above) = none) (node : Node) :
    (volume.put (name :: above) node).erase (name :: above) = volume :=
  ext_entries (filter_putEntry (find?_eq_none_iff.mp fresh) node) rfl

end Volume

namespace Publish

open Volume

variable {volume before after : Volume} {path : Path} {name : Name} {above : Location}
  {conditions : Conditions} {kept : Option Nat}

/-! ## The entry that is replaced -/

theorem eq_of_length_dropTrailing {α : Type} {test : α → Bool} {list : List α}
    (same : list.length ≤ (Path.dropTrailing test list).length) :
    Path.dropTrailing test list = list := by
  have suffix : list.reverse.dropWhile test <:+ list.reverse := List.dropWhile_suffix test
  rw [Path.dropTrailing, List.length_reverse] at same
  rw [Path.dropTrailing, suffix.eq_of_length_le (by simpa using same), List.reverse_reverse]

/-- A file takes the place of the entry that the path asks for, unless a folder stands there. -/
theorem destination_eq_ok_iff {target : Location} :
    destination volume path = .ok target ↔ ∃ name above, target = name :: above ∧
      volume.EntryAt path name above ∧ volume.isFolderAt target = false := by
  constructor
  · intro found
    simp only [destination] at found
    split at found
    · cases found
    · cases found
    · cases found
    · next last accepted lasts =>
        cases walked : volume.walk true linkLimit (start path volume.current)
            ((Path.dropTrailing List.isEmpty path.segments).dropLast ++ [[]]) with
        | error fault => simp [walked, Except.bind] at found
        | ok above =>
            simp only [walked, Except.bind] at found
            split at found
            · cases found
            split at found
            · cases found
            split at found
            · cases found
            split at found
            · cases found
            split at found
            · cases found
            rename_i special short whole _ name named closed
            cases found
            have all := eq_of_length_dropTrailing (Nat.le_of_not_lt whole)
            rw [all] at walked lasts
            obtain ⟨front, shape⟩ := List.getLast?_eq_some_iff.mp lasts
            obtain rfl := (Name.ofBytes?_eq_some_iff name).mp named
            rw [shape, List.dropLast_concat] at walked
            exact ⟨name, above, rfl, ⟨accepted, Nat.le_of_not_lt short, front, shape, walked⟩,
              Bool.eq_false_iff.mpr closed⟩
  · rintro ⟨name, above, rfl, ⟨accepted, short, front, shape, leads⟩, closed⟩
    have visible : List.isEmpty name.bytes = false := by simp [name.ne_nil]
    have whole : Path.dropTrailing List.isEmpty path.segments = front ++ [name.bytes] := by
      rw [shape, Path.dropTrailing_concat visible]
    simp only [destination, whole]
    simp [accepted, shape, leads, Except.bind, name.ne_up, Nat.not_lt.mpr short, closed]

/-- Files laid over sites do not change which entry is replaced. -/
theorem destination_overlay {target : Location} (overlays : after.Overlays before) :
    destination after path = .ok target ↔ destination before path = .ok target := by
  rw [destination_eq_ok_iff, destination_eq_ok_iff]
  refine exists_congr fun name => exists_congr fun above => and_congr_right fun _ => ?_
  rw [overlays.entryAt_iff, overlays.isFolderAt_eq]

/-! ## The draft -/

/-- A spare name is picked in a folder that the path leads to, if new files can be made there. -/
theorem spareName_eq_ok_iff {naming : Naming} {folder goal : Path} :
    spareName naming folder goal volume = .ok (name, above) ↔
      refusal? ((volume.absolute folder).entry naming.sample.bytes) = none ∧
        volume.locate true (volume.absolute folder) = .ok above ∧
          volume.isFolderAt above = true ∧
            name = naming.pick
              ((goal.fileName?.bind Name.ofBytes?).toList ++ volume.names above) := by
  simp only [spareName]
  cases refusal? ((volume.absolute folder).entry naming.sample.bytes) with
  | some fault => simp
  | none =>
      cases volume.locate true (volume.absolute folder) with
      | error fault => simp [Except.bind]
      | ok location =>
          cases opened : volume.isFolderAt location with
          | false =>
              simp only [Except.bind, opened, true_and, Except.ok.injEq]
              constructor
              · intro found
                cases found
              · rintro ⟨rfl, isFolder, -⟩
                cases opened.symm.trans isFolder
          | true =>
              simp only [Except.bind, opened, if_true, true_and, Except.ok.injEq, Prod.mk.injEq]
              constructor
              · rintro ⟨rfl, rfl⟩
                exact ⟨rfl, opened, rfl⟩
              · rintro ⟨rfl, -, rfl⟩
                exact ⟨rfl, rfl⟩

/-- A draft is named in a folder that the path leads to, and not like the goal. -/
theorem of_spareName {naming : Naming} {folder goal : Path}
    (found : spareName naming folder goal volume = .ok (name, above)) :
    volume.locate true (volume.absolute folder) = .ok above ∧ volume.isFolderAt above = true ∧
      ∃ taken, name = naming.pick taken ∧ goal.fileName? ≠ some name.bytes := by
  obtain ⟨-, reached, isFolder, picked⟩ := spareName_eq_ok_iff.mp found
  have free := naming.fresh ((goal.fileName?.bind Name.ofBytes?).toList ++ volume.names above)
  rw [← picked] at free
  refine ⟨reached, isFolder, _, picked, fun same => free (List.mem_append_left _ ?_)⟩
  simp [same]

/-- A draft is written where nothing stands. -/
theorem fresh_of_spareName {naming : Naming} {folder goal : Path}
    (found : spareName naming folder goal volume = .ok (name, above)) :
    volume.node? (name :: above) = none := by
  obtain ⟨-, -, -, rfl⟩ := spareName_eq_ok_iff.mp found
  have free := naming.fresh ((goal.fileName?.bind Name.ofBytes?).toList ++ volume.names above)
  rw [List.mem_append, not_or, mem_names] at free
  simpa using free.2

theorem append_eq {location : Location} {mode : Nat} {content : Bytes}
    (stands : volume.node? location = some (.file mode content)) (data : Bytes) :
    append location data volume = volume.put location (.file mode (content ++ data)) := by
  simp only [append, stands]

theorem append_put {location : Location} (below : location ≠ []) (mode : Nat)
    (content data : Bytes) :
    append location data (volume.put location (.file mode content)) =
      volume.put location (.file mode (content ++ data)) := by
  rw [append_eq (node?_put_self below volume _), put_put]

theorem setMode_eq {location : Location} {old : Nat} {content : Bytes} (below : location ≠ [])
    (stands : volume.node? location = some (.file old content)) (mode : Option Nat) :
    setMode location mode volume = volume.put location (.file (mode.getD old) content) := by
  cases mode with
  | none => exact (put_self below stands).symm
  | some mode => simp only [setMode, stands, Option.getD_some]

theorem setMode_put {location : Location} (below : location ≠ []) (mode : Option Nat) (old : Nat)
    (content : Bytes) :
    setMode location mode (volume.put location (.file old content)) =
      volume.put location (.file (mode.getD old) content) := by
  rw [setMode_eq below (node?_put_self below volume _), put_put]

theorem replace_put (fresh : volume.node? (name :: above) = none) (path : Path) (node : Node) :
    replace (name :: above) path (volume.put (name :: above) node) =
      (destination (volume.put (name :: above) node) path).map fun target =>
        volume.put target node := by
  have below : name :: above ≠ [] := List.cons_ne_nil _ _
  unfold replace
  cases destination (volume.put (name :: above) node) path with
  | error fault => rfl
  | ok target =>
      simp only [Except.bind, node?_put_self below]
      rw [erase_put fresh]
      rfl

theorem getD_keptMode?_newMode (mask : Nat) (volume : Volume) (path : Path) :
    (keptMode? volume path).getD (Node.newMode mask) = volume.modeUnder mask path := by
  unfold keptMode? modeUnder
  cases volume.status? path <;> rfl

theorem getD_keptMode? (volume : Volume) (path : Path) :
    (keptMode? volume path).getD Node.fileMode = volume.modeFor path := by
  rw [← Node.newMode_usualMask, getD_keptMode?_newMode, modeUnder_usualMask]

theorem create_usualMask (location : Location) (volume : Volume) :
    create Node.usualMask location volume = volume.put location (.file Node.fileMode []) := by
  rw [create, Node.newMode_usualMask]

/-! ## Drafts that are all that has changed -/

/-- A volume is as before, but for a file at a location. -/
def Drafted (before : Volume) (draft : Location) (after : Volume) : Prop :=
  ∃ mode content, after = before.put draft (.file mode content)

theorem drafted_create (mask : Nat) (draft : Location) (volume : Volume) :
    Drafted volume draft (create mask draft volume) :=
  ⟨_, _, rfl⟩

theorem Drafted.append {draft : Location} (drafted : Drafted before draft after)
    (below : draft ≠ []) (data : Bytes) : Drafted before draft (append draft data after) := by
  obtain ⟨mode, content, rfl⟩ := drafted
  exact ⟨mode, content ++ data, append_put below _ _ _⟩

theorem Drafted.setMode {draft : Location} (drafted : Drafted before draft after)
    (below : draft ≠ []) (kept : Option Nat) : Drafted before draft (setMode draft kept after) := by
  obtain ⟨mode, content, rfl⟩ := drafted
  exact ⟨kept.getD mode, content, setMode_put below _ _ _⟩

theorem Drafted.erase (drafted : Drafted before (name :: above) after)
    (fresh : before.node? (name :: above) = none) : after.erase (name :: above) = before := by
  obtain ⟨mode, content, rfl⟩ := drafted
  exact erase_put fresh _

/-! ## Faults of the disk -/

namespace Conditions

variable {step : Step} {work : Volume → Except Fault Volume} {draft : Location} {data : Bytes}

/-- The disk fails in no step that is taken.  Permissions are only set if there are some to keep. -/
def Serve (conditions : Conditions) (kept : Option Nat) : Prop :=
  ∀ step, (step = .setMode → kept.isSome) → conditions.fault? step = none

theorem serve_usual (kept : Option Nat) : usual.Serve kept :=
  fun _ _ => rfl

/-- A step changes the volume on a disk that does not fail in it, or it changes nothing. -/
theorem change_cases (conditions : Conditions) (step : Step)
    (work : Volume → Except Fault Volume) (volume : Volume) :
    (∃ next, conditions.fault? step = none ∧ work volume = .ok next ∧
      conditions.change step work volume = ⟨[], next, .ok ()⟩) ∨
    ∃ fault, conditions.change step work volume = ⟨[], volume, .error fault⟩ := by
  cases fails : conditions.fault? step with
  | some fault => exact .inr ⟨fault, by simp only [change, fails, Activity.fail]⟩
  | none =>
      cases worked : work volume with
      | error fault => exact .inr ⟨fault, by simp only [change, fails, Activity.change, worked]⟩
      | ok next => exact .inl ⟨next, rfl, rfl, by simp only [change, fails, Activity.change, worked]⟩

theorem of_change_ok (done : (conditions.change step work volume).result = .ok ()) :
    conditions.fault? step = none := by
  obtain ⟨next, fine, -⟩ | ⟨fault, failed⟩ := change_cases conditions step work volume
  · exact fine
  · simp [failed] at done

theorem of_write_ok (done : (conditions.write draft data volume).result = .ok ()) :
    conditions.fault? .write = none := by
  cases fails : conditions.fault? .write with
  | none => rfl
  | some fault =>
      simp [write, fails, bind, Activity.andThen, Activity.change, Activity.fail] at done

theorem of_keepMode_ok (some : kept.isSome = true)
    (done : (conditions.keepMode draft kept volume).result = .ok ()) :
    conditions.fault? .setMode = none := by
  rw [keepMode, if_pos some] at done
  exact of_change_ok done

/-- A step that fails keeps everything. -/
theorem change_failsWithin (keeps : Volume → Prop) :
    (conditions.change step work).FailsWithin keeps := by
  intro volume error holds failed
  obtain ⟨next, -, -, done⟩ | ⟨fault, same⟩ := change_cases conditions step work volume
  · simp [done] at failed
  · rw [same]
    exact holds

/-- A step that only changes a draft leaves a draft, whether the disk fails or not. -/
theorem drafted_change (drafted : Drafted before draft volume)
    (keeps : ∀ next, work volume = .ok next → Drafted before draft next) :
    Drafted before draft (conditions.change step work volume).volume := by
  obtain ⟨next, -, worked, done⟩ | ⟨fault, same⟩ := change_cases conditions step work volume
  · rw [done]
    exact keeps next worked
  · rw [same]
    exact drafted

theorem drafted_write (below : draft ≠ []) (drafted : Drafted before draft volume) :
    Drafted before draft (conditions.write draft data volume).volume := by
  unfold write
  cases conditions.fault? .write with
  | some fault => exact drafted.append below _
  | none => exact drafted.append below _

theorem drafted_sync (drafted : Drafted before draft volume) :
    Drafted before draft (conditions.change .sync .ok volume).volume :=
  drafted_change drafted fun next worked => by
    cases worked
    exact drafted

theorem drafted_keepMode (below : draft ≠ []) (drafted : Drafted before draft volume) :
    Drafted before draft (conditions.keepMode draft kept volume).volume := by
  unfold keepMode
  split
  · refine drafted_change drafted fun next worked => ?_
    cases worked
    exact drafted.setMode below kept
  · exact drafted

end Conditions

/-- Whatever fails while a draft is filled in, a draft is all that is left behind. -/
theorem fill_failsWithin (conditions : Conditions) {draft : Location} (below : draft ≠ [])
    (path : Path) (data : Bytes) (kept : Option Nat) (before : Volume) :
    (fill conditions draft path data kept).FailsWithin (Drafted before draft) := by
  refine .bind (fun volume => Conditions.drafted_write below) fun _ => ?_
  refine .bind (fun volume => Conditions.drafted_sync) fun _ => ?_
  refine .bind (fun volume => Conditions.drafted_keepMode below) fun _ => ?_
  exact Conditions.change_failsWithin _

/-- A draft that takes its place has been filled in on a disk that did not fail. -/
theorem serve_of_fill_ok {draft : Location} {data : Bytes}
    (created : conditions.fault? .create = none)
    (done : (fill conditions draft path data kept volume).result = .ok ()) :
    conditions.Serve kept := by
  obtain ⟨_, wrote, done⟩ := Activity.of_bind_ok done
  obtain ⟨_, synced, done⟩ := Activity.of_bind_ok done
  obtain ⟨_, set, replaced⟩ := Activity.of_bind_ok done
  intro step taken
  cases step with
  | create => exact created
  | write => exact Conditions.of_write_ok wrote
  | sync => exact Conditions.of_change_ok synced
  | setMode => exact Conditions.of_keepMode_ok (taken rfl) set
  | replace => exact Conditions.of_change_ok replaced

/-- On a disk that does not fail, a draft that is filled in either takes its place or is all that is
left behind. -/
theorem fill_of_serve (serve : conditions.Serve kept)
    (fresh : volume.node? (name :: above) = none) (path : Path) (data : Bytes) (mode : Nat) :
    fill conditions (name :: above) path data kept (volume.put (name :: above) (.file mode [])) =
      let file := Node.file (kept.getD mode) data
      let drafted := volume.put (name :: above) file
      match destination drafted path with
      | .error fault => ⟨[], drafted, .error fault⟩
      | .ok target => ⟨[], volume.put target file, .ok ()⟩ := by
  have below : name :: above ≠ [] := List.cons_ne_nil _ _
  have wrote := serve .write nofun
  have synced := serve .sync nofun
  have replaced := serve .replace nofun
  have set : conditions.keepMode (name :: above) kept = .change fun volume =>
      .ok (setMode (name :: above) kept volume) := by
    cases kept with
    | none => rfl
    | some old => simp [Conditions.keepMode, Conditions.change, serve .setMode (fun _ => rfl)]
  simp only [fill, bind, Activity.andThen, Conditions.write, wrote, Conditions.change, synced, set,
    replaced, Activity.change, append_put below, setMode_put below, replace_put fresh,
    List.nil_append]
  cases destination (volume.put (name :: above) (.file (kept.getD mode) data)) path with
  | error fault => rfl
  | ok target => rfl

/-! ## Room for drafts -/

/-- A draft can be written in the folder at a path. -/
def HasRoom (naming : Naming) (folder : Path) (volume : Volume) : Prop :=
  refusal? ((volume.absolute folder).entry naming.sample.bytes) = none ∧
    ∃ location, volume.locate true (volume.absolute folder) = .ok location ∧
      volume.isFolderAt location = true

theorem exists_spareName_iff {naming : Naming} {folder : Path} (goal : Path) :
    (∃ draft, spareName naming folder goal volume = .ok draft) ↔ HasRoom naming folder volume := by
  simp only [HasRoom, Prod.exists, spareName_eq_ok_iff]
  constructor
  · rintro ⟨name, location, accepted, reached, isFolder, -⟩
    exact ⟨accepted, location, reached, isFolder⟩
  · rintro ⟨accepted, location, reached, isFolder⟩
    exact ⟨_, location, accepted, reached, isFolder, rfl⟩

theorem hasRoom_overlay {naming : Naming} {folder : Path} (overlays : after.Overlays before) :
    HasRoom naming folder after ↔ HasRoom naming folder before := by
  unfold HasRoom
  rw [overlays.absolute_eq]
  exact and_congr_right fun _ => exists_congr fun location => overlays.locate_folder_iff

/-- The folder for the drafts of entries of a folder. -/
def draftFolder (root : Path) : Path :=
  let folder := Path.ofSegments root.isAbsolute
    (Path.ofSegments root.isAbsolute root.prior).significant
  if folder.bytes.isEmpty then .ofText "." else folder

/-- All entries of a folder have their drafts in the same folder. -/
theorem folderOf_entry (root : Path) (name : Name) :
    folderOf (root.entry name.bytes) = draftFolder root := by
  have plain := name.slash_not_mem
  have ends := Path.significant_of_segments (Path.segments_entry root plain)
  have parent : (root.entry name.bytes).parent? = some (Path.ofSegments root.isAbsolute
      (Path.ofSegments root.isAbsolute root.prior).significant) := by
    unfold Path.parent?
    rw [ends, Path.isAbsolute_entry root plain]
    split
    · next nothing => simp at nothing
    · rw [List.dropLast_concat]
  simp only [folderOf, parent, draftFolder]

/-! ## Publishing -/

/-- On a disk that does not fail, publishing changes the volume at most once, and a failure leaves it
as it was. -/
theorem publishUnder_of_serve (serve : conditions.Serve (keptMode? volume path)) (naming : Naming)
    (data : Bytes) :
    publishUnder conditions naming path data volume =
      let file := Node.file (volume.modeUnder conditions.mask path) data
      match spareName naming (folderOf path) path volume with
      | .error fault => ⟨[], volume, .error fault⟩
      | .ok (name, above) =>
          match destination (volume.put (name :: above) file) path with
          | .error fault => ⟨[], volume, .error fault⟩
          | .ok target =>
              ⟨[.event (.published path data.length)], volume.put target file, .ok ()⟩ := by
  have created := serve .create nofun
  simp only [publishUnder, bind, Activity.andThen, Activity.look, Activity.demand]
  cases found : spareName naming (folderOf path) path volume with
  | error fault => rfl
  | ok draft =>
      obtain ⟨name, above⟩ := draft
      have fresh := fresh_of_spareName found
      simp only [Conditions.change, created, Activity.change, create, Activity.withUndo,
        fill_of_serve serve fresh, getD_keptMode?_newMode]
      cases destination (volume.put (name :: above)
          (.file (volume.modeUnder conditions.mask path) data)) path with
      | error fault => simp [erase_put fresh]
      | ok target => rfl

/-- A draft lies over a site. -/
theorem draft_overlays {naming : Naming} {folder goal : Path}
    (found : spareName naming folder goal volume = .ok (name, above)) (mode : Nat)
    (data : Bytes) : (volume.put (name :: above) (.file mode data)).Overlays volume :=
  (Overlays.refl volume).put (.of_fresh (fresh_of_spareName found)) mode data

/-- Publishing succeeds if the disk does not fail, there is room for a draft and the path has an entry
to be replaced. -/
theorem publishUnder_of_entryAt {naming : Naming} {data : Bytes} {draft : Name × Location}
    (serve : conditions.Serve (keptMode? volume path))
    (found : spareName naming (folderOf path) path volume = .ok draft)
    (entry : volume.EntryAt path name above) (closed : volume.isFolderAt (name :: above) = false) :
    publishUnder conditions naming path data volume =
      ⟨[.event (.published path data.length)],
        volume.put (name :: above) (.file (volume.modeUnder conditions.mask path) data),
        .ok ()⟩ := by
  obtain ⟨draftName, draftFolder⟩ := draft
  have overlays := draft_overlays found (volume.modeUnder conditions.mask path) data
  have replaced := (destination_overlay overlays).mpr
    (destination_eq_ok_iff.mpr ⟨name, above, rfl, entry, closed⟩)
  simp only [publishUnder_of_serve serve, found, replaced]

/-- Whatever fails, the volume is left as it was: a draft that has been created is taken away. -/
theorem volume_of_publishUnder_error {naming : Naming} {data : Bytes} {fault : Fault}
    (failed : (publishUnder conditions naming path data volume).result = .error fault) :
    (publishUnder conditions naming path data volume).volume = volume := by
  simp only [publishUnder, bind, Activity.andThen, Activity.look, Activity.demand] at failed ⊢
  cases found : spareName naming (folderOf path) path volume with
  | error fault => rfl
  | ok draft =>
      obtain ⟨name, above⟩ := draft
      have fresh := fresh_of_spareName found
      obtain ⟨next, -, made, created⟩ | ⟨cause, same⟩ := conditions.change_cases .create
        (fun volume => .ok (create conditions.mask (name :: above) volume)) volume
      · cases made
        have drafted := drafted_create conditions.mask (name :: above) volume
        have filled := fill_failsWithin conditions (List.cons_ne_nil name above) path data
          (keptMode? volume path) volume
        simp only [found, created, Activity.withUndo] at failed ⊢
        cases ended : (fill conditions (name :: above) path data (keptMode? volume path)
            (create conditions.mask (name :: above) volume)).result with
        | error cause => exact (filled _ cause drafted ended).erase fresh
        | ok value => simp [ended, Activity.tell] at failed
      · simp only [same]

/-- Publishing that succeeds has met with no fault of the disk. -/
theorem serve_of_publishUnder_ok {naming : Naming} {data : Bytes}
    (done : (publishUnder conditions naming path data volume).result = .ok ()) :
    conditions.Serve (keptMode? volume path) := by
  obtain ⟨kept, looked, done⟩ := Activity.of_bind_ok done
  cases looked
  obtain ⟨⟨name, above⟩, -, done⟩ := Activity.of_bind_ok done
  obtain ⟨_, created, done⟩ := Activity.of_bind_ok done
  obtain ⟨_, filled, -⟩ := Activity.of_bind_ok done
  exact serve_of_fill_ok (Conditions.of_change_ok created) (Activity.of_withUndo_ok filled)

/-- Publishing succeeds exactly if the disk does not fail, there is room for a draft, and the path
asks for an entry that is no folder. -/
theorem publishUnder_eq_ok_iff (conditions : Conditions) (naming : Naming) (path : Path)
    (data : Bytes) (volume : Volume) :
    (publishUnder conditions naming path data volume).result = .ok () ↔
      conditions.Serve (keptMode? volume path) ∧ HasRoom naming (folderOf path) volume ∧
        ∃ name above,
          volume.EntryAt path name above ∧ volume.isFolderAt (name :: above) = false := by
  constructor
  · intro done
    have serve := serve_of_publishUnder_ok done
    refine ⟨serve, ?_⟩
    rw [publishUnder_of_serve serve] at done
    cases found : spareName naming (folderOf path) path volume with
    | error fault => simp [found] at done
    | ok draft =>
        obtain ⟨draftName, draftFolder⟩ := draft
        refine ⟨(exists_spareName_iff path).mp ⟨_, found⟩, ?_⟩
        simp only [found] at done
        have overlays := draft_overlays found (volume.modeUnder conditions.mask path) data
        cases replaced : destination (volume.put (draftName :: draftFolder)
            (.file (volume.modeUnder conditions.mask path) data)) path with
        | error fault => simp [replaced] at done
        | ok target =>
            obtain ⟨name, above, rfl, entry, closed⟩ :=
              destination_eq_ok_iff.mp ((destination_overlay overlays).mp replaced)
            exact ⟨name, above, entry, closed⟩
  · rintro ⟨serve, room, name, above, entry, closed⟩
    obtain ⟨draft, found⟩ := (exists_spareName_iff path).mpr room
    rw [publishUnder_of_entryAt serve found entry closed]

/-! ## Publishing on a disk that does not fail -/

/-- Publishing changes the volume at most once. -/
theorem publishBy_eq (naming : Naming) (path : Path) (data : Bytes) (volume : Volume) :
    publishBy naming path data volume =
      let file := Node.file (volume.modeFor path) data
      match spareName naming (folderOf path) path volume with
      | .error fault => ⟨[], volume, .error fault⟩
      | .ok (name, above) =>
          match destination (volume.put (name :: above) file) path with
          | .error fault => ⟨[], volume, .error fault⟩
          | .ok target =>
              ⟨[.event (.published path data.length)], volume.put target file, .ok ()⟩ := by
  rw [← modeUnder_usualMask]
  exact publishUnder_of_serve (Conditions.serve_usual _) naming data

/-- Publishing succeeds if there is room for a draft and the path has an entry to be replaced. -/
theorem publishBy_of_entryAt {naming : Naming} {data : Bytes} {draft : Name × Location}
    (found : spareName naming (folderOf path) path volume = .ok draft)
    (entry : volume.EntryAt path name above) (closed : volume.isFolderAt (name :: above) = false) :
    publishBy naming path data volume =
      ⟨[.event (.published path data.length)],
        volume.put (name :: above) (.file (volume.modeFor path) data), .ok ()⟩ := by
  rw [← modeUnder_usualMask]
  exact publishUnder_of_entryAt (Conditions.serve_usual _) found entry closed

/-- A failure leaves the volume as it was. -/
theorem volume_of_publishBy_error {naming : Naming} {data : Bytes} {fault : Fault}
    (failed : (publishBy naming path data volume).result = .error fault) :
    (publishBy naming path data volume).volume = volume :=
  volume_of_publishUnder_error failed

/-- Publishing succeeds exactly if there is room for a draft and the path asks for an entry that is
no folder. -/
theorem publishBy_eq_ok_iff (naming : Naming) (path : Path) (data : Bytes) (volume : Volume) :
    (publishBy naming path data volume).result = .ok () ↔
      HasRoom naming (folderOf path) volume ∧ ∃ name above,
        volume.EntryAt path name above ∧ volume.isFolderAt (name :: above) = false := by
  rw [publishBy, publishUnder_eq_ok_iff]
  exact and_iff_right (Conditions.serve_usual _)

/-! ## All or nothing -/

/-- Publishing is atomic, whatever the mask of the program and wherever the disk fails.  It succeeds
exactly if the disk fails in no step, there is room for a draft and the path asks for an entry that
is no folder.  If it fails, the volume is exactly what it was.  If it succeeds, the entry that the
path asks for is a file with the data, it has the permissions of what the path led to before, or all
may read and write it as far as the mask lets them, and nothing else has changed. -/
theorem publishUnder_atomic (conditions : Conditions) (naming : Naming) (path : Path) (data : Bytes)
    (volume : Volume) :
    let outcome := publishUnder conditions naming path data volume
    (outcome.result = .ok () ↔
      conditions.Serve (keptMode? volume path) ∧ HasRoom naming (folderOf path) volume ∧
        ∃ name above,
          volume.EntryAt path name above ∧ volume.isFolderAt (name :: above) = false) ∧
    match outcome.result with
    | .error _ => outcome.volume = volume
    | .ok () => ∃ name above mode, volume.EntryAt path name above ∧
        outcome.volume.node? (name :: above) = some (.file mode data) ∧
        (match volume.status? path with
          | .ok node => mode = node.mode
          | .error _ => ∀ bit, mode.testBit bit =
              (Nat.testBit 0o666 bit && !conditions.mask.testBit bit)) ∧
        (∀ other, other ≠ name :: above →
          outcome.volume.node? other = volume.node? other) ∧
        outcome.volume.current = volume.current := by
  have succeeds := publishUnder_eq_ok_iff conditions naming path data volume
  refine ⟨succeeds, ?_⟩
  cases ended : (publishUnder conditions naming path data volume).result with
  | error fault => exact volume_of_publishUnder_error ended
  | ok value =>
      obtain ⟨serve, room, name, above, entry, closed⟩ := succeeds.mp ended
      obtain ⟨draft, found⟩ := (exists_spareName_iff path).mpr room
      have below : name :: above ≠ [] := List.cons_ne_nil _ _
      rw [publishUnder_of_entryAt serve found entry closed]
      refine ⟨name, above, _, entry, node?_put_self below volume _, ?_,
        fun other differs => node?_put_of_ne below differs volume _, rfl⟩
      unfold modeUnder
      cases volume.status? path with
      | ok node => rfl
      | error fault => exact Node.testBit_newMode conditions.mask

/-- On a disk that is full after one byte the draft has held that byte, and is gone. -/
example :
    let full : Conditions :=
      ⟨Node.usualMask, fun step => if step = .write then some (.device "full") else none, 1⟩
    let outcome := publishUnder full .draft (.ofText "a") [1, 2] .empty
    outcome.result = .error (.device "full") ∧ outcome.volume = .empty :=
  ⟨by cbv, by cbv⟩

end Publish
end CardKeeper

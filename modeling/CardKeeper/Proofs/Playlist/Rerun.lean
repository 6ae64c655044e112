import CardKeeper.Proofs.Playlist.Generate

/-!
# Generating playlists again

All playlists are compared with what is at their paths before the first one is written.  A run
leaves the titles as they were, but a playlist may be overwritten by that of another title with the
same name for its playlist, or stand behind a link.  A second run writes nothing exactly if what the
first one left is settled: `rerun_iff_settled`.  Where no links are involved that means that plans
for one path agree.
-/

namespace CardKeeper
namespace Playlist

open Volume Publish

variable {before after volume : Volume} {root : Path} {above : Location} {title : Name}
  {list : List PlaylistPlan}

/-! ## Titles and discs under an overlay -/

theorem titles_overlay (overlays : after.Overlays before)
    (reached : before.locate true root = .ok above) (folder : before.isFolderAt above = true) :
    titles after root above = titles before root above := by
  have still := (overlays.locate_folder_iff.mpr ⟨reached, folder⟩).1
  refine (ascending_titles after root above).eq_of_mem_iff (ascending_titles before root above) ?_
  intro name
  rw [mem_titles_iff still, mem_titles_iff reached, overlays.isFolder_eq]

theorem isDisc_overlay (overlays : after.Overlays before) {path : Path}
    (disc : isDisc before path = true) : isDisc after path = true := by
  obtain ⟨file, extension⟩ := Bool.and_eq_true_iff.mp disc
  exact Bool.and_eq_true_iff.mpr ⟨overlays.isFile_of file, extension⟩

/-- A title that called for a playlist still does. -/
theorem linesFor_overlay (overlays : after.Overlays before)
    (folder : before.isFolder (root.entry title.bytes) = true)
    (some : linesFor before root title ≠ []) : linesFor after root title ≠ [] := by
  obtain ⟨name, disc⟩ := (linesFor_ne_nil_iff folder).mp some
  have still : after.isFolder (root.entry title.bytes) = true := by
    rw [overlays.isFolder_eq, folder]
  exact (linesFor_ne_nil_iff still).mpr ⟨name, isDisc_overlay overlays disc⟩

/-! ## Plans that are up to date -/

/-- After playlists were written, each title that calls for one did so before, and its playlist
reads as it should. -/
def Settled (before after : Volume) (root : Path) : Prop :=
  ∀ title : Name, after.isFolder (root.entry title.bytes) = true → linesFor after root title ≠ [] →
    linesFor before root title ≠ [] ∧
      after.read (root.entry (nameFor title).bytes) =
        .ok (Utf8.encode (contentFor after root title))

/-- A report says that nothing was written if all plans were up to date. -/
theorem report_eq_iff {count : Nat} : report list = ⟨[], count⟩ ↔
    list.length = count ∧ ∀ plan ∈ list, plan.status = .unchanged := by
  have none_pending : (pending list).map PlaylistPlan.path = [] ↔
      ∀ plan ∈ list, plan.status = .unchanged := by
    rw [List.map_eq_nil_iff, pending_eq_nil_iff]
  rw [report, PlaylistReport.mk.injEq, none_pending, and_comm]
  refine and_congr_left fun all => ?_
  have whole : list.countP (fun plan => plan.status == .unchanged) = list.length :=
    List.countP_eq_length.mpr fun plan member => by simp [all plan member]
  rw [whole]

/-- A run writes nothing exactly if all plans are up to date. -/
theorem generateBy_eq_report_iff {naming : Naming} {count : Nat} :
    (generateBy naming root false volume).result = .ok ⟨[], count⟩ ∧
        (generateBy naming root false volume).volume = volume ↔
      ∃ list, plans volume root = .ok list ∧ list.length = count ∧
        ∀ plan ∈ list, plan.status = .unchanged := by
  constructor
  · rintro ⟨result, -⟩
    rcases generateBy_cases naming root volume with
      ⟨error, failed, -⟩ | ⟨list, above, planned, succeeded, -⟩
    · cases failed.symm.trans result
    · rw [succeeded, Except.ok.injEq, report_eq_iff] at result
      exact ⟨list, planned, result⟩
  · rintro ⟨list, planned, count_eq, all⟩
    have done : report list = ⟨[], count⟩ := report_eq_iff.mpr ⟨count_eq, all⟩
    rw [generateBy_of_ok naming false planned, pending_eq_nil_iff.mpr all]
    exact ⟨congrArg Except.ok done, rfl⟩

theorem length_callers (reached : volume.locate true root = .ok above)
    (planned : plans volume root = .ok list) :
    (callers volume root above).length = list.length := by
  obtain ⟨place, placed, -, called⟩ := plans_eq_ok_iff.mp planned
  cases reached.symm.trans placed
  rw [← List.length_map (planFor volume root), called, List.length_map]

/-- Those that called for a playlist are among those that do now. -/
theorem callers_overlay (overlays : after.Overlays before)
    (reached : before.locate true root = .ok above) (folder : before.isFolderAt above = true) :
    callers before root above =
      (callers after root above).filter fun title => !(linesFor before root title).isEmpty := by
  rw [callers, callers, List.filter_filter, titles_overlay overlays reached folder]
  refine List.filter_congr fun title member => ?_
  have kept := linesFor_overlay overlays (isFolder_of_mem_titles member)
  rw [Bool.eq_iff_iff]
  simpa using kept

/-- All plans are up to date, and there are as many as there were, exactly if what was written is
settled. -/
theorem plans_unchanged_iff (overlays : after.Overlays before)
    (reached : before.locate true root = .ok above) (folder : before.isFolderAt above = true)
    (planned : plans before root = .ok list) :
    (∃ again, plans after root = .ok again ∧ again.length = list.length ∧
        ∀ plan ∈ again, plan.status = .unchanged) ↔ Settled before after root := by
  obtain ⟨still, stillFolder⟩ := overlays.locate_folder_iff.mpr ⟨reached, folder⟩
  have count := length_callers reached planned
  rw [callers_overlay overlays reached folder] at count
  constructor
  · rintro ⟨again, replanned, same, all⟩ title isTitle some
    have calls := (mem_callers_iff still).mpr ⟨isTitle, some⟩
    rw [← same, ← length_callers still replanned] at count
    refine ⟨by simpa using List.length_filter_eq_length_iff.mp count title calls, ?_⟩
    obtain ⟨place, placed, -, called⟩ := plans_eq_ok_iff.mp replanned
    cases still.symm.trans placed
    obtain ⟨plan, member, found⟩ := exists_result called calls
    obtain ⟨path, content, compared⟩ := of_planFor found
    rw [all plan member, path, content] at compared
    exact status_eq_unchanged_iff.mp compared
  · intro settled
    -- Comparing finds each of the plans that are called for now up to date.
    have upToDate : ∀ title ∈ callers after root above, planFor after root title =
        .ok ⟨root.entry (nameFor title).bytes, contentFor after root title, .unchanged⟩ := by
      intro title member
      obtain ⟨isTitle, some⟩ := (mem_callers_iff still).mp member
      exact planFor_of_status (status_eq_unchanged_iff.mpr (settled title isTitle some).2)
    refine ⟨(callers after root above).map fun title =>
      ⟨root.entry (nameFor title).bytes, contentFor after root title, .unchanged⟩, ?_, ?_, ?_⟩
    · refine plans_eq_ok_iff.mpr ⟨above, still, stillFolder, ?_⟩
      rw [List.map_map]
      exact List.map_congr_left upToDate
    · rw [List.length_map, ← count, eq_comm, List.length_filter_eq_length_iff]
      intro title member
      obtain ⟨isTitle, some⟩ := (mem_callers_iff still).mp member
      simpa using (settled title isTitle some).1
    · intro plan member
      obtain ⟨title, -, rfl⟩ := List.mem_map.mp member
      rfl

/-! ## Without links -/

/-- No disc of a title and no playlist that is planned is kept as a link. -/
structure Direct (volume : Volume) (root : Path) (list : List PlaylistPlan) : Prop where
  /-- The entries that have the extension of discs are not links. -/
  discs : ∀ (title name : Name) (location : Location) (target : Path),
    volume.locate true (root.entry title.bytes) = .ok location →
      volume.node? (name :: location) = some (.link target) →
        ((root.entry title.bytes).entry name.bytes).hasExtension discExtension = false
  /-- The entries of the plans are not links. -/
  playlists : ∀ plan ∈ list, ∀ name above target, volume.EntryAt plan.path name above →
    volume.node? (name :: above) ≠ some (.link target)

/-- Where there are no links, no disc and no playlist is kept as one. -/
theorem direct_of_linkFree
    (free : ∀ location target, volume.node? location ≠ some (.link target)) :
    Direct volume root list where
  discs _ name location target _ linked := absurd linked (free (name :: location) target)
  playlists _ _ name above target _ := free (name :: above) target

theorem splitName_append_ending (stem : Bytes) :
    (Path.splitName (stem ++ ending)).2 =
      if stem.isEmpty then none else some [0x6D, 0x33, 0x75] := by
  rw [ending_eq]
  cases stem with
  | nil => decide
  | cons first rest => simp [Path.splitName, Path.dot]

/-- A playlist is no disc. -/
theorem hasExtension_nameFor (folder : Path) (title : Name) :
    (folder.entry (nameFor title).bytes).hasExtension discExtension = false := by
  have text : Utf8.decode? [0x6D, 0x33, 0x75] = some "m3u" :=
    Utf8.decode?_eq_some_iff.mpr (by decide)
  have differs : Text.sameAsciiCase "m3u" discExtension = false := by decide
  rw [Path.hasExtension, Path.extension?, Path.fileName?_entry, Option.bind_some, nameFor,
    splitName_append_ending]
  cases (Utf8.encode (Card.unhide (titleText title))).isEmpty with
  | true => rfl
  | false => simp [text, differs]

/-- What stands at an entry with the extension of discs is left alone. -/
theorem node?_of_hasExtension (written : Written before above (pending list) before after)
    (ready : ∀ plan ∈ list, ∃ title, Ready before root above plan (nameFor title)) {folder : Path}
    {name : Name} (extension : (folder.entry name.bytes).hasExtension discExtension = true)
    (location : Location) : after.node? (name :: location) = before.node? (name :: location) := by
  refine written.frame _ fun plan member other entry same => ?_
  obtain ⟨title, here⟩ := ready plan (List.mem_filter.mp member).1
  obtain ⟨rfl, -⟩ := here.entry.unique entry
  cases same
  rw [hasExtension_nameFor] at extension
  exact absurd extension Bool.false_ne_true

/-- Without links among them, the discs stay the same. -/
theorem isDisc_eq (written : Written before above (pending list) before after)
    (ready : ∀ plan ∈ list, ∃ title, Ready before root above plan (nameFor title))
    (direct : Direct before root list) (title name : Name) :
    isDisc after ((root.entry title.bytes).entry name.bytes) =
      isDisc before ((root.entry title.bytes).entry name.bytes) := by
  rw [Bool.eq_iff_iff]
  refine ⟨fun disc => ?_, isDisc_overlay written.overlays⟩
  obtain ⟨file, extension⟩ := Bool.and_eq_true_iff.mp disc
  refine Bool.and_eq_true_iff.mpr ⟨?_, extension⟩
  obtain ⟨location, mode, content, found, standing⟩ := isFile_iff.mp file
  have some : (root.entry title.bytes).bytes ≠ [] := bytes_entry_ne_nil root title
  obtain ⟨place, placed, folder, entry, -⟩ := entryAt_of_locate some found
  have same := node?_of_hasExtension written ready extension place
  obtain ⟨placedBefore, -⟩ := written.overlays.locate_folder_iff.mp ⟨placed, folder⟩
  have plain : ∀ target, before.node? (name :: place) ≠ .some (.link target) := by
    intro target linked
    rw [direct.discs title name place target placedBefore linked] at extension
    exact absurd extension Bool.false_ne_true
  obtain rfl := entry.eq_of_locate (same ▸ plain) found
  rw [same] at standing
  have entryBefore := written.overlays.entryAt_iff.mp entry
  exact isFile_iff.mpr ⟨_, mode, content, entryBefore.locate_file standing, standing⟩

/-- A title with the same discs calls for the same playlist. -/
theorem linesFor_eq_of_isDisc (overlays : after.Overlays before)
    (folder : before.isFolder (root.entry title.bytes) = true)
    (same : ∀ name : Name, isDisc after ((root.entry title.bytes).entry name.bytes) =
      isDisc before ((root.entry title.bytes).entry name.bytes)) :
    linesFor after root title = linesFor before root title := by
  obtain ⟨location, reached, isFolder⟩ := isFolder_iff.mp folder
  obtain ⟨still, stillFolder⟩ := overlays.locate_folder_iff.mpr ⟨reached, isFolder⟩
  rw [linesFor_eq still stillFolder, linesFor_eq reached isFolder]
  refine sort_eq_of_perm (List.Perm.map _ ?_)
  refine (List.perm_ext_iff_of_nodup ((nodup_names after location).filter _)
    ((nodup_names before location).filter _)).mpr fun name => ?_
  rw [List.mem_filter, List.mem_filter, same name]
  refine and_congr_left fun disc => ?_
  exact ⟨fun _ => mem_names_of_isDisc reached disc,
    fun _ => mem_names_of_isDisc still ((same name).trans disc)⟩

/-- Without links among discs, what titles call for stays. -/
theorem linesFor_written (written : Written before above (pending list) before after)
    (ready : ∀ plan ∈ list, ∃ title, Ready before root above plan (nameFor title))
    (direct : Direct before root list)
    (folder : before.isFolder (root.entry title.bytes) = true) :
    linesFor after root title = linesFor before root title :=
  linesFor_eq_of_isDisc written.overlays folder (isDisc_eq written ready direct title)

theorem status_of_mem (planned : plans volume root = .ok list) {plan : PlaylistPlan}
    (member : plan ∈ list) : status volume plan.path plan.content = .ok plan.status := by
  obtain ⟨above, -, -, called⟩ := plans_eq_ok_iff.mp planned
  obtain ⟨title, -, found⟩ := (mem_results_iff called).mp member
  exact (of_planFor found).2.2

/-- A path has the content of the last plan that was carried out for it, or the one it had. -/
theorem read_of_written (written : Written before above (pending list) before after)
    (ready : ∀ plan ∈ list, ∃ title, Ready before root above plan (nameFor title))
    (direct : Direct before root list) (planned : plans before root = .ok list)
    {plan : PlaylistPlan} (member : plan ∈ list) :
    after.read plan.path =
      .ok (Utf8.encode ((lastFor (pending list) plan.path).getD plan).content) := by
  obtain ⟨title, here⟩ := ready plan member
  have entry := written.overlays.entryAt_iff.mpr here.entry
  cases last : lastFor (pending list) plan.path with
  | some latest => exact entry.read_file (written.holds plan.path latest _ last here.entry)
  | none =>
      -- No pending plan is for this path, so that what was read there is still there.
      have upToDate : plan.status = .unchanged := by
        by_cases same : plan.status = .unchanged
        · exact same
        · have isPending : plan ∈ pending list :=
            List.mem_filter.mpr ⟨member, by simpa using same⟩
          obtain ⟨latest, found⟩ := exists_lastFor isPending
          cases last.symm.trans found
      have found := status_of_mem planned member
      rw [upToDate, status_eq_unchanged_iff] at found
      obtain ⟨location, mode, reached, standing⟩ := read_eq_ok_iff.mp found
      obtain rfl := here.entry.eq_of_locate
        (fun target => direct.playlists plan member _ _ target here.entry) reached
      refine entry.read_file (Eq.trans (written.frame _ ?_) standing)
      intro other isPending name otherEntry same
      obtain ⟨otherTitle, otherReady⟩ := ready other (List.mem_filter.mp isPending).1
      obtain ⟨rfl, -⟩ := otherReady.entry.unique otherEntry
      obtain ⟨names, -⟩ := List.cons.inj same
      have path : other.path = plan.path := by rw [otherReady.path, here.path, names]
      obtain ⟨latest, again⟩ := exists_lastFor isPending
      rw [path] at again
      cases last.symm.trans again

/-- Plans for one path agree on what it should hold. -/
def Agree (list : List PlaylistPlan) : Prop :=
  ∀ plan ∈ list, ∀ other ∈ list, plan.path = other.path → plan.content = other.content

/-- Plans for one path agree if each says what is written there in the end. -/
theorem agree_iff_lastFor (planned : plans volume root = .ok list) :
    Agree list ↔ ∀ plan ∈ list,
      ((lastFor (pending list) plan.path).getD plan).content = plan.content := by
  constructor
  · intro agree plan member
    cases last : lastFor (pending list) plan.path with
    | none => rfl
    | some latest =>
        obtain ⟨isPending, path⟩ := of_lastFor last
        exact agree latest (List.mem_filter.mp isPending).1 plan member path
  · intro final plan member other otherMember same
    have here := final plan member
    have there := final other otherMember
    rw [same] at here
    cases last : lastFor (pending list) other.path with
    | some latest =>
        rw [last] at here there
        exact here.symm.trans there
    | none =>
        -- Neither plan is pending, so both say what is read at the path.
        have upToDate {each : PlaylistPlan} (listed : each ∈ list) (path : each.path = other.path) :
            volume.read other.path = .ok (Utf8.encode each.content) := by
          rw [← path, ← status_eq_unchanged_iff, status_of_mem planned listed]
          by_cases status : each.status = .unchanged
          · rw [status]
          · obtain ⟨latest, found⟩ := exists_lastFor
              (List.mem_filter.mpr ⟨listed, by simpa using status⟩ : each ∈ pending list)
            rw [path] at found
            cases last.symm.trans found
        have contents := (upToDate member same).symm.trans (upToDate otherMember rfl)
        exact Utf8.encode_injective (Except.ok.inj contents)

/-- Without links, what a run leaves is settled exactly if plans for one path agree. -/
theorem settled_iff_agree (written : Written before above (pending list) before after)
    (ready : ∀ plan ∈ list, ∃ title, Ready before root above plan (nameFor title))
    (direct : Direct before root list) (reached : before.locate true root = .ok above)
    (planned : plans before root = .ok list) : Settled before after root ↔ Agree list := by
  obtain ⟨place, placed, -, called⟩ := plans_eq_ok_iff.mp planned
  cases reached.symm.trans placed
  have lines (title : Name) (folder : before.isFolder (root.entry title.bytes) = true) :
      linesFor after root title = linesFor before root title :=
    linesFor_written written ready direct folder
  have final (plan : PlaylistPlan) (member : plan ∈ list) :
      after.read plan.path = .ok (Utf8.encode plan.content) ↔
        ((lastFor (pending list) plan.path).getD plan).content = plan.content := by
    rw [read_of_written written ready direct planned member, Except.ok.injEq, Utf8.encode_inj]
  rw [agree_iff_lastFor planned]
  constructor
  · intro settled plan member
    obtain ⟨title, calls, found⟩ := (mem_results_iff called).mp member
    obtain ⟨path, content, -⟩ := of_planFor found
    obtain ⟨folder, some⟩ := (mem_callers_iff reached).mp calls
    have still : after.isFolder (root.entry title.bytes) = true := by
      rw [written.overlays.isFolder_eq, folder]
    have reads := (settled title still (by rwa [lines title folder])).2
    rw [contentFor, lines title folder, ← contentFor, ← path, ← content] at reads
    exact (final plan member).mp reads
  · intro last title still some
    have folder : before.isFolder (root.entry title.bytes) = true := by
      rw [← written.overlays.isFolder_eq, still]
    rw [lines title folder] at some
    refine ⟨some, ?_⟩
    obtain ⟨plan, member, found⟩ :=
      exists_result called ((mem_callers_iff reached).mpr ⟨folder, some⟩)
    obtain ⟨path, content, -⟩ := of_planFor found
    rw [contentFor, lines title folder, ← contentFor, ← path, ← content]
    exact (final plan member).mpr (last plan member)

/-! ## The second run -/

/-- After a run that succeeded, a second one writes nothing, counts every plan of the first one and
leaves the volume as it was exactly if what the first one left is settled.  If no disc and no
planned playlist is kept as a link, this is so exactly if plans for one path agree. -/
theorem rerun_iff_settled (first second : Naming) (root : Path) (volume : Volume)
    (list : List PlaylistPlan) (report : PlaylistReport) (planned : plans volume root = .ok list)
    (succeeded : (generateBy first root false volume).result = .ok report) :
    let after := (generateBy first root false volume).volume
    let again := generateBy second root false after
    (again.result = .ok ⟨[], list.length⟩ ∧ again.volume = after ↔ Settled volume after root) ∧
      (Direct volume root list → (Settled volume after root ↔ Agree list)) := by
  obtain ⟨above, reached, folder, ready, written⟩ := written_of_generateBy planned succeeded
  constructor
  · rw [generateBy_eq_report_iff, plans_unchanged_iff written.overlays reached folder planned]
  · exact fun direct => settled_iff_agree written ready direct reached planned

/-- The name `Game`. -/
def game : Name := ⟨[0x47, 0x61, 0x6D, 0x65], by decide⟩

/-- The name `.Game`. -/
def hiddenGame : Name := ⟨[0x2E, 0x47, 0x61, 0x6D, 0x65], by decide⟩

/-- The name `d1.cue`. -/
def firstDisc : Name := ⟨[0x64, 0x31, 0x2E, 0x63, 0x75, 0x65], by decide⟩

/-- The folder in which relative paths start. -/
def currentFolder : Path := .ofText "."

/-- The title `Game` on one disc. -/
def oneGame : Volume where
  entries := [([game], .folder Node.folderMode), ([firstDisc, game], .file Node.fileMode [])]

/-- The titles `.Game` and `Game`, each on one disc. -/
def twoGames : Volume where
  entries := [([hiddenGame], .folder Node.folderMode),
    ([firstDisc, hiddenGame], .file Node.fileMode []),
    ([game], .folder Node.folderMode), ([firstDisc, game], .file Node.fileMode [])]

/-- What a run leaves is settled where one title calls for each playlist. -/
theorem settled_oneGame :
    Settled oneGame (generateBy .draft currentFolder false oneGame).volume currentFolder := by
  have planned : plans oneGame currentFolder =
      .ok [⟨currentFolder.entry (nameFor game).bytes, "Game/d1.cue", .create⟩] := by cbv
  have succeeded : (generateBy .draft currentFolder false oneGame).result =
      .ok ⟨[currentFolder.entry (nameFor game).bytes], 0⟩ := by cbv
  refine (rerun_iff_settled .draft .draft currentFolder oneGame _ _ planned succeeded).1.mp ?_
  refine generateBy_eq_report_iff.mpr
    ⟨[⟨currentFolder.entry (nameFor game).bytes, "Game/d1.cue", .unchanged⟩], ?_, rfl, ?_⟩
  · cbv
  · simp

theorem plans_twoGames : plans twoGames currentFolder =
    .ok [⟨currentFolder.entry (nameFor game).bytes, ".Game/d1.cue", .create⟩,
      ⟨currentFolder.entry (nameFor game).bytes, "Game/d1.cue", .create⟩] := by
  cbv

theorem result_twoGames : (generateBy .draft currentFolder false twoGames).result =
    .ok ⟨[currentFolder.entry (nameFor game).bytes,
      currentFolder.entry (nameFor game).bytes], 0⟩ := by
  cbv

/-- Two titles whose playlists have the same name take turns: a second run writes again. -/
theorem rerun_writes_twoGames :
    ∃ root volume list report, plans volume root = .ok list ∧
      (generateBy .draft root false volume).result = .ok report ∧
        let after := (generateBy .draft root false volume).volume
        let again := generateBy .draft root false after
        ¬ (again.result = .ok ⟨[], list.length⟩ ∧ again.volume = after) := by
  refine ⟨currentFolder, twoGames, _, _, plans_twoGames, result_twoGames, fun writesNothing => ?_⟩
  obtain ⟨above, reached, folder, ready, written⟩ :=
    written_of_generateBy plans_twoGames result_twoGames
  have settled := (plans_unchanged_iff written.overlays reached folder plans_twoGames).mp
    (generateBy_eq_report_iff.mp writesNothing)
  have plain : ∀ entry ∈ twoGames.entries, (entry.2.isFile || entry.2.isFolder) = true := by
    decide
  have agree := (settled_iff_agree written ready (direct_of_linkFree (node?_ne_link plain)) reached
    plans_twoGames).mp settled
  have same := agree _ List.mem_cons_self _ (List.mem_cons_of_mem _ List.mem_cons_self) rfl
  exact absurd same (by decide)

end Playlist
end CardKeeper

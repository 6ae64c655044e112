import Mathlib
import CardKeeper.Playlist
import CardKeeper.Proofs.Gather
import CardKeeper.Proofs.Results
import CardKeeper.Proofs.Utf8
import CardKeeper.Proofs.Volume.Replaceable
import CardKeeper.Proofs.Volume.Sorted

/-!
# What playlists are planned

The titles of a folder are its folders in the order of their names.  Those that hold discs call for
a playlist each, and planning succeeds exactly if each of these playlists can be compared with what
is at its path: `plans_eq_ok_iff`.  A planned playlist is an entry of the folder of titles, and a
file or nothing is found there.
-/

namespace CardKeeper
namespace Playlist

open Volume

variable {volume : Volume} {root path : Path} {above : Location} {title : Name}

/-! ## The names of playlists -/

/-- The text that shows the name of a title. -/
def titleText (title : Name) : String :=
  Utf8.display title.bytes

theorem not_mem_encode_unhide {byte : UInt8} (ascii : byte < 0x80) (free : byte ∉ title.bytes) :
    byte ∉ Utf8.encode (Card.unhide (titleText title)) := by
  intro member
  have shown := (Card.encode_unhide_suffix (titleText title)).mem member
  exact free (Utf8.mem_of_mem_encode_display ascii shown)

/-- The ending of the names of playlists. -/
def ending : Bytes :=
  Utf8.encode ("." ++ Card.playlistExtension)

theorem ending_eq : ending = [0x2E, 0x6D, 0x33, 0x75] := by
  decide

/-- The name of the playlist of a title. -/
def nameFor (title : Name) : Name where
  bytes := Utf8.encode (Card.unhide (titleText title)) ++ ending
  proper := isName_append (not_mem_encode_unhide (by decide) title.slash_not_mem)
    (not_mem_encode_unhide (by decide) title.nul_not_mem) (by decide) (by decide)

theorem bytes_nameFor (title : Name) :
    (nameFor title).bytes =
      Utf8.encode (Card.unhide (titleText title) ++ "." ++ Card.playlistExtension) := by
  rw [String.append_assoc, Utf8.encode_append]
  rfl

theorem pathFor_eq (root : Path) (title : Name) :
    pathFor root (titleText title) = root.entry (nameFor title).bytes := by
  rw [bytes_nameFor]
  rfl

/-! ## Titles and what they call for -/

/-- The names of the titles in a folder, in order. -/
def titles (volume : Volume) (root : Path) (above : Location) : List Name :=
  ((volume.names above).mergeSort nameLe).filter fun name =>
    volume.isFolder (root.entry name.bytes)

/-- The lines of the playlist that a title calls for. -/
def linesFor (volume : Volume) (root : Path) (title : Name) : List String :=
  match volume.list (root.entry title.bytes) with
  | .ok names => discs volume (root.entry title.bytes) (titleText title) names
  | .error _ => []

/-- The titles that call for a playlist, in order. -/
def callers (volume : Volume) (root : Path) (above : Location) : List Name :=
  (titles volume root above).filter fun title => !(linesFor volume root title).isEmpty

/-- What the playlist of a title should hold. -/
def contentFor (volume : Volume) (root : Path) (title : Name) : String :=
  "\n".intercalate (linesFor volume root title)

/-- The plan for a title that calls for a playlist. -/
def planFor (volume : Volume) (root : Path) (title : Name) : Except PlaylistError PlaylistPlan :=
  let path := root.entry (nameFor title).bytes
  let content := contentFor volume root title
  (status volume path content).map fun status => ⟨path, content, status⟩

theorem filterMap_title? (volume : Volume) (root : Path) (names : List Name) :
    (names.map fun name => root.entry name.bytes).filterMap (title? volume) =
      (names.filter fun name => volume.isFolder (root.entry name.bytes)).map fun name =>
        (root.entry name.bytes, titleText name) := by
  induction names with
  | nil => rfl
  | cons name rest ih =>
      rw [List.map_cons, List.filterMap_cons, ih, List.filter_cons]
      cases folder : volume.isFolder (root.entry name.bytes) with
      | false => simp [title?, folder]
      | true => simp [title?, folder, nameText?, titleText]

/-- What there is to find out about a title. -/
def findingFor (volume : Volume) (root : Path) (title : Name) :
    Except PlaylistError TitleFinding :=
  if (linesFor volume root title).isEmpty then .ok (.noDiscs (root.entry title.bytes))
  else (planFor volume root title).map .playlist

theorem survey_eq (folder : volume.isFolder (root.entry title.bytes) = true) :
    survey volume root (root.entry title.bytes) (titleText title) =
      findingFor volume root title := by
  obtain ⟨location, reached, isFolder⟩ := isFolder_iff.mp folder
  have listed := list_eq_ok_iff.mpr ⟨location, reached, isFolder, rfl⟩
  unfold findingFor planFor contentFor linesFor survey
  simp only [listed, pathFor_eq]
  split
  · rfl
  · cases status volume (root.entry (nameFor title).bytes) _ <;> rfl

/-- The plans that are found are those for the titles that call for a playlist. -/
theorem exists_findings_iff {names : List Name} {plans : List PlaylistPlan} :
    (∃ found : List TitleFinding, names.map (findingFor volume root) = found.map .ok ∧
        found.filterMap TitleFinding.plan? = plans) ↔
      (names.filter fun title => !(linesFor volume root title).isEmpty).map (planFor volume root) =
        plans.map .ok := by
  induction names generalizing plans with
  | nil => simp [eq_comm]
  | cons title rest ih =>
      rw [List.map_cons, List.filter_cons, findingFor]
      cases empty : (linesFor volume root title).isEmpty with
      | true =>
          -- A title without discs gives a finding and no plan.
          simp only [if_true, Bool.not_true, Bool.false_eq_true, if_false]
          rw [← ih]
          constructor
          · rintro ⟨found, all, rfl⟩
            obtain ⟨first, more, rfl, head, tail⟩ := List.map_eq_cons_iff.mp all.symm
            cases head
            exact ⟨more, tail.symm, rfl⟩
          · rintro ⟨found, all, rfl⟩
            exact ⟨.noDiscs (root.entry title.bytes) :: found, by rw [all, List.map_cons], rfl⟩
      | false =>
          simp only [Bool.false_eq_true, if_false, Bool.not_false, if_true, List.map_cons]
          constructor
          · rintro ⟨found, all, rfl⟩
            obtain ⟨first, more, rfl, head, tail⟩ := List.map_eq_cons_iff.mp all.symm
            obtain ⟨plan, planned, rfl⟩ := map_eq_ok_iff.mp head.symm
            rw [planned, ih.mp ⟨more, tail.symm, rfl⟩]
            rfl
          · intro all
            obtain ⟨plan, more, rfl, planned, tail⟩ := List.map_eq_cons_iff.mp all.symm
            obtain ⟨found, whole, rfl⟩ := ih.mpr tail.symm
            exact ⟨.playlist plan :: found, by rw [← planned, whole]; rfl, rfl⟩

theorem isFolder_of_mem_titles (member : title ∈ titles volume root above) :
    volume.isFolder (root.entry title.bytes) = true :=
  (List.mem_filter.mp member).2

theorem findings_eq_iff (reached : volume.locate true root = .ok above)
    (folder : volume.isFolderAt above = true) {found : List TitleFinding} :
    findings volume root = ⟨found, none⟩ ↔
      (titles volume root above).map (findingFor volume root) = found.map .ok := by
  have opened : volume.isFolder root = true := isFolder_iff.mpr ⟨above, reached, folder⟩
  have listed := list_eq_ok_iff.mpr ⟨above, reached, folder, rfl⟩
  have surveyed : ((titles volume root above).map fun name =>
      (root.entry name.bytes, titleText name)).map
        (fun place => survey volume root place.1 place.2) =
      (titles volume root above).map (findingFor volume root) := by
    rw [List.map_map]
    exact List.map_congr_left fun name member => survey_eq (isFolder_of_mem_titles member)
  rw [← surveyed, ← gather_eq_iff]
  simp only [findings, opened, Bool.not_true, Bool.false_eq_true, if_false, sortedEntries, listed,
    Except.map, filterMap_title?, titles]

theorem plans_eq_ok_iff_findings {list : List PlaylistPlan} :
    plans volume root = .ok list ↔ ∃ found, findings volume root = ⟨found, none⟩ ∧
      found.filterMap TitleFinding.plan? = list := by
  unfold plans
  cases findings volume root with
  | mk found failure => cases failure <;> simp

/-- Planning succeeds exactly if each playlist that is called for can be compared with what is at
its path, and then there is a plan for each of them. -/
theorem plans_eq_ok_iff {list : List PlaylistPlan} :
    plans volume root = .ok list ↔ ∃ above, volume.locate true root = .ok above ∧
      volume.isFolderAt above = true ∧
        (callers volume root above).map (planFor volume root) = list.map .ok := by
  rw [plans_eq_ok_iff_findings]
  constructor
  · rintro ⟨found, all, planned⟩
    cases opened : volume.isFolder root with
    | false => simp [findings, opened] at all
    | true =>
        obtain ⟨above, reached, folder⟩ := isFolder_iff.mp opened
        rw [findings_eq_iff reached folder] at all
        exact ⟨above, reached, folder, exists_findings_iff.mp ⟨found, all, planned⟩⟩
  · rintro ⟨above, reached, folder, all⟩
    obtain ⟨found, listed, planned⟩ := exists_findings_iff.mpr all
    exact ⟨found, (findings_eq_iff reached folder).mpr listed, planned⟩

/-! ## What titles and discs there are -/

theorem ascending_titles (volume : Volume) (root : Path) (above : Location) :
    Ascending (titles volume root above) :=
  (ascending_mergeSort (nodup_names volume above)).filter _

/-- The titles are the folders. -/
theorem mem_titles_iff (reached : volume.locate true root = .ok above) :
    title ∈ titles volume root above ↔ volume.isFolder (root.entry title.bytes) = true := by
  refine ⟨isFolder_of_mem_titles, fun folder => ?_⟩
  obtain ⟨location, found, -⟩ := isFolder_iff.mp folder
  have listed := mem_names_of_locate reached found
  exact List.mem_filter.mpr ⟨List.mem_mergeSort.mpr listed, folder⟩

theorem discs_eq (volume : Volume) (folder : Path) (text : String) (names : List Name) :
    discs volume folder text names =
      ((names.filter fun name => isDisc volume (folder.entry name.bytes)).map fun name =>
        text ++ "/" ++ Utf8.display name.bytes).mergeSort fun left right => left ≤ right := by
  unfold discs
  simp only
  congr 1
  induction names with
  | nil => rfl
  | cons name rest ih =>
      rw [List.map_cons, List.filter_cons, List.filter_cons]
      cases isDisc volume (folder.entry name.bytes) with
      | false => exact ih
      | true =>
          have shown : nameText? (folder.entry name.bytes) = some (Utf8.display name.bytes) := by
            simp [nameText?]
          rw [if_pos rfl, if_pos rfl, List.filterMap_cons, shown, List.map_cons, ← ih]
          rfl

theorem linesFor_eq {location : Location}
    (reached : volume.locate true (root.entry title.bytes) = .ok location)
    (folder : volume.isFolderAt location = true) :
    linesFor volume root title =
      (((volume.names location).filter fun name =>
          isDisc volume ((root.entry title.bytes).entry name.bytes)).map fun name =>
        titleText title ++ "/" ++ Utf8.display name.bytes).mergeSort
          fun left right => left ≤ right := by
  have listed := list_eq_ok_iff.mpr ⟨location, reached, folder, rfl⟩
  simp only [linesFor, listed, discs_eq]

theorem mem_names_of_isDisc {folder : Path} {location : Location} {name : Name}
    (reached : volume.locate true folder = .ok location)
    (disc : isDisc volume (folder.entry name.bytes) = true) : name ∈ volume.names location := by
  obtain ⟨file, -⟩ := Bool.and_eq_true_iff.mp disc
  obtain ⟨there, -, -, found, -⟩ := isFile_iff.mp file
  exact mem_names_of_locate reached found

/-- A title has lines if it has discs. -/
theorem linesFor_ne_nil_iff (folder : volume.isFolder (root.entry title.bytes) = true) :
    linesFor volume root title ≠ [] ↔
      ∃ name : Name, isDisc volume ((root.entry title.bytes).entry name.bytes) = true := by
  obtain ⟨location, reached, isFolder⟩ := isFolder_iff.mp folder
  rw [linesFor_eq reached isFolder]
  constructor
  · intro some
    obtain ⟨line, member⟩ := List.exists_mem_of_ne_nil _ some
    rw [List.mem_mergeSort] at member
    obtain ⟨name, chosen, -⟩ := List.mem_map.mp member
    exact ⟨name, (List.mem_filter.mp chosen).2⟩
  · rintro ⟨name, disc⟩
    refine List.ne_nil_of_mem (List.mem_mergeSort.mpr (List.mem_map.mpr ⟨name, ?_, rfl⟩))
    exact List.mem_filter.mpr ⟨mem_names_of_isDisc reached disc, disc⟩

/-- A title calls for a playlist if it is a folder with lines. -/
theorem mem_callers_iff (reached : volume.locate true root = .ok above) :
    title ∈ callers volume root above ↔
      volume.isFolder (root.entry title.bytes) = true ∧ linesFor volume root title ≠ [] := by
  rw [callers, List.mem_filter, mem_titles_iff reached]
  simp

/-! ## Where playlists go -/

theorem planFor_of_status {found : PlaylistStatus}
    (compared : status volume (root.entry (nameFor title).bytes) (contentFor volume root title) =
      .ok found) :
    planFor volume root title =
      .ok ⟨root.entry (nameFor title).bytes, contentFor volume root title, found⟩ := by
  simp only [planFor, compared, Except.map]

theorem of_planFor {plan : PlaylistPlan} (planned : planFor volume root title = .ok plan) :
    plan.path = root.entry (nameFor title).bytes ∧
      plan.content = contentFor volume root title ∧
        status volume plan.path plan.content = .ok plan.status := by
  unfold planFor at planned
  cases compared : status volume (root.entry (nameFor title).bytes)
      (contentFor volume root title) with
  | error error => simp [compared, Except.map] at planned
  | ok status =>
      simp only [compared, Except.map, Except.ok.injEq] at planned
      subst planned
      simp only [compared, true_and]

/-- A playlist is compared with a file, or with nothing. -/
theorem replaceable_of_status {content : String} {found : PlaylistStatus}
    (compared : status volume path content = .ok found) : volume.Replaceable path := by
  unfold status at compared
  split at compared
  · next existing read => exact .inl ⟨existing, read⟩
  · next read => exact .inr read
  · cases compared

theorem status_eq_unchanged_iff {content : String} :
    status volume path content = .ok .unchanged ↔
      volume.read path = .ok (Utf8.encode content) := by
  unfold status
  cases volume.read path with
  | error fault => cases fault <;> simp
  | ok existing => by_cases same : existing = Utf8.encode content <;> simp [same]

theorem status_eq_create_iff {content : String} :
    status volume path content = .ok .create ↔ volume.read path = .error .notFound := by
  unfold status
  cases volume.read path with
  | error fault => cases fault <;> simp
  | ok existing => by_cases same : existing = Utf8.encode content <;> simp [same]

end Playlist
end CardKeeper

import Mathlib
import CardKeeper.Proofs.Path.Extension
import CardKeeper.Proofs.Playlist.Rerun

/-!
# What a plan says

Planning gives one plan for each title that holds discs, in the order of the titles' names, and what
each plan says is described here by the folders and files alone: `plans_exact`.  The lines of a
playlist are sorted as texts, which is the order of their bytes, and a line ends in the name of a
disc, so a playlist never ends in a line break.  Where the names are text without line breaks, the
playlist comes apart into its lines again, and each of them is the path of its disc.
-/

namespace CardKeeper

/-! ## The extension of discs -/

/-- An ASCII letter in lower case comes from itself and from the letter in upper case. -/
theorem Text.asciiLower_eq_iff {lower upper : Char} (first : 'a' ≤ lower) (last : lower ≤ 'z')
    (pair : upper.toNat + 32 = lower.toNat) (character : Char) :
    asciiLower character = lower ↔ character = lower ∨ character = upper := by
  have low : 97 ≤ lower.toNat := first
  have high : lower.toNat ≤ 122 := last
  unfold asciiLower
  split
  · next capital =>
      have atLeast : 65 ≤ character.toNat := capital.1
      have atMost : character.toNat ≤ 90 := capital.2
      have valid : (character.toNat + 32).isValidChar := .inl (by omega)
      simp only [← Char.toNat_inj, Char.toNat_ofNat, if_pos valid]
      omega
  · next other =>
      have outside : ¬ (65 ≤ character.toNat ∧ character.toNat ≤ 90) := other
      simp only [← Char.toNat_inj]
      omega

namespace Playlist
open Volume
variable {volume : Volume} {root path : Path} {above : Location} {name title disc : Name}

/-- The extension of discs in all its spellings. -/
def discExtensions : List String :=
  ["cue", "cuE", "cUe", "cUE", "Cue", "CuE", "CUe", "CUE"]

theorem sameAsciiCase_iff {own : String} :
    Text.sameAsciiCase own discExtension = true ↔ own ∈ discExtensions := by
  constructor
  · intro same
    have letters : own.toList.map Text.asciiLower = ['c', 'u', 'e'] :=
      (beq_iff_eq.mp same).trans (by decide)
    have c := Text.asciiLower_eq_iff (by decide : 'a' ≤ 'c') (by decide)
      (by decide : 'C'.toNat + 32 = 'c'.toNat)
    have u := Text.asciiLower_eq_iff (by decide : 'a' ≤ 'u') (by decide)
      (by decide : 'U'.toNat + 32 = 'u'.toNat)
    have e := Text.asciiLower_eq_iff (by decide : 'a' ≤ 'e') (by decide)
      (by decide : 'E'.toNat + 32 = 'e'.toNat)
    simp only [List.map_eq_cons_iff, List.map_eq_nil_iff, c, u, e] at letters
    obtain ⟨first, _, whole, isFirst, second, _, rfl, isSecond, third, _, rfl, isThird, rfl⟩ :=
      letters
    obtain rfl : own = String.ofList [first, second, third] := by
      rw [← whole, String.ofList_toList]
    rcases isFirst with rfl | rfl <;> rcases isSecond with rfl | rfl <;>
      rcases isThird with rfl | rfl <;> decide
  · intro member
    simp only [discExtensions, List.mem_cons, List.not_mem_nil, or_false] at member
    rcases member with rfl | rfl | rfl | rfl | rfl | rfl | rfl | rfl <;> decide

theorem dot_not_mem_encode {extension : String} (spelled : extension ∈ discExtensions) :
    Path.dot ∉ Utf8.encode extension := by
  simp only [discExtensions, List.mem_cons, List.not_mem_nil, or_false] at spelled
  rcases spelled with rfl | rfl | rfl | rfl | rfl | rfl | rfl | rfl <;> decide

/-- A name has the extension of discs if it is a stem, which is not empty, and that extension. -/
theorem hasExtension_entry_iff (folder : Path) :
    (folder.entry disc.bytes).hasExtension discExtension = true ↔
      ∃ stem extension, stem ≠ [] ∧ extension ∈ discExtensions ∧
        disc.bytes = stem ++ Path.dot :: Utf8.encode extension := by
  have last : (folder.entry disc.bytes).fileName? = some disc.bytes :=
    Path.fileName?_entry folder disc
  rw [Path.hasExtension_eq_true_iff]
  constructor
  · rintro ⟨own, found, same⟩
    obtain ⟨⟨stem, proper, named⟩, -⟩ := Path.extension?_eq_some_iff.mp found
    rw [last, Option.some.injEq] at named
    exact ⟨stem, own, proper, sameAsciiCase_iff.mp same, named⟩
  · rintro ⟨stem, own, proper, spelled, named⟩
    have found := Path.extension?_eq_some_iff.mpr
      ⟨⟨stem, proper, last.trans (congrArg some named)⟩, dot_not_mem_encode spelled⟩
    exact ⟨own, found, sameAsciiCase_iff.mpr spelled⟩

/-- A file in the folder of a title whose name is a stem and the extension of discs. -/
structure IsDiscOf (volume : Volume) (root : Path) (title disc : Name) : Prop where
  /-- It is a file, perhaps through links. -/
  file : volume.isFile ((root.entry title.bytes).entry disc.bytes) = true
  /-- The stem of its name is not empty. -/
  named : ∃ stem extension, stem ≠ [] ∧ extension ∈ discExtensions ∧
    disc.bytes = stem ++ Path.dot :: Utf8.encode extension

theorem isDisc_iff : isDisc volume ((root.entry title.bytes).entry disc.bytes) = true ↔
    IsDiscOf volume root title disc := by
  rw [isDisc, Bool.and_eq_true, hasExtension_entry_iff]
  exact ⟨fun disc => ⟨disc.1, disc.2⟩, fun disc => ⟨disc.file, disc.named⟩⟩

/-! ## Lines -/

/-- The line for a disc of a title. -/
def lineOf (title disc : Name) : String :=
  Utf8.display title.bytes ++ "/" ++ Utf8.display disc.bytes

/-- Sorted texts are in the order of their bytes. -/
theorem pairwise_encode_mergeSort (texts : List String) :
    (texts.mergeSort fun left right => left ≤ right).Pairwise fun left right =>
      Utf8.encode left ≤ Utf8.encode right := by
  refine (List.pairwise_mergeSort (fun first second third below above => ?_)
    (fun left right => ?_) texts).imp fun {left right} below => ?_
  · simp only [decide_eq_true_eq] at below above ⊢
    exact String.le_trans below above
  · simpa using String.le_total left right
  · rw [← List.not_lt, Utf8.encode_lt_encode_iff, String.not_lt]
    simpa using below

/-- The lines of a playlist are those of the discs, in the order of their bytes. -/
theorem exists_discs (folder : volume.isFolder (root.entry title.bytes) = true) :
    ∃ discs : List Name, discs.Nodup ∧ (∀ disc, disc ∈ discs ↔ IsDiscOf volume root title disc) ∧
      linesFor volume root title = discs.map (lineOf title) ∧
      (discs.map (lineOf title)).Pairwise fun left right =>
        Utf8.encode left ≤ Utf8.encode right := by
  obtain ⟨location, reached, isFolder⟩ := isFolder_iff.mp folder
  let found := (volume.names location).filter fun name =>
    isDisc volume ((root.entry title.bytes).entry name.bytes)
  let discs := found.mergeSort fun left right => decide (lineOf title left ≤ lineOf title right)
  have lines : linesFor volume root title = discs.map (lineOf title) := by
    rw [linesFor_eq reached isFolder]
    exact (List.map_mergeSort (f := lineOf title) (s := fun left right => decide (left ≤ right))
      (l := found) fun _ _ _ _ => rfl).symm
  refine ⟨discs, ?_, fun disc => ?_, lines, ?_⟩
  · exact (List.mergeSort_perm _ _).nodup_iff.mpr ((nodup_names volume location).filter _)
  · rw [List.mem_mergeSort, List.mem_filter, isDisc_iff]
    exact and_iff_right_of_imp fun disc => mem_names_of_isDisc reached (isDisc_iff.mpr disc)
  · rw [← lines, linesFor_eq reached isFolder]
    exact pairwise_encode_mergeSort _

theorem toList_lineOf (title disc : Name) : (lineOf title disc).toList =
    (Utf8.display title.bytes).toList ++ '/' :: (Utf8.display disc.bytes).toList := by
  simp [lineOf]

/-- A line ends as the name of a disc does, and not in a line break. -/
theorem getLast?_lineOf (isDisc : IsDiscOf volume root title disc) :
    ∃ last, (lineOf title disc).toList.getLast? = some last ∧ last ≠ '\n' := by
  rw [toList_lineOf]
  cases ends : (Utf8.display disc.bytes).toList.getLast? with
  | none => exact ⟨'/', by simp [List.getLast?_eq_none_iff.mp ends], by decide⟩
  | some last =>
      refine ⟨last, by simp [List.getLast?_cons, ends], ?_⟩
      rintro rfl
      obtain ⟨front, whole⟩ := Utf8.exists_append_of_getLast? (by decide) ends
      obtain ⟨stem, extension, -, spelled, named⟩ := isDisc.named
      have byte : disc.bytes.getLast? = some Utf8.lineFeed := by
        rw [whole]
        simp [show String.utf8EncodeChar '\n' = [Utf8.lineFeed] by decide]
      rw [named, List.getLast?_append, List.getLast?_cons] at byte
      simp only [discExtensions, List.mem_cons, List.not_mem_nil, or_false] at spelled
      rcases spelled with rfl | rfl | rfl | rfl | rfl | rfl | rfl | rfl <;> cases byte

theorem getLast?_intercalate {lines : List (List Char)} (given : lines ≠ [])
    (ends : ∀ line ∈ lines, ∃ last, line.getLast? = some last ∧ last ≠ '\n') :
    ∃ last, (['\n'].intercalate lines).getLast? = some last ∧ last ≠ '\n' := by
  induction lines with
  | nil => exact absurd rfl given
  | cons line rest ih =>
      obtain ⟨here, later⟩ := List.forall_mem_cons.mp ends
      by_cases done : rest = []
      · simpa [done] using here
      · obtain ⟨last, found, proper⟩ := ih done later
        rw [List.intercalate_cons_of_ne_nil done, List.getLast?_append, found]
        exact ⟨last, rfl, proper⟩

/-- A playlist does not end in a line break. -/
theorem getLast?_content {discs : List Name}
    (isDisc : ∀ disc ∈ discs, IsDiscOf volume root title disc) :
    ("\n".intercalate (discs.map (lineOf title))).toList.getLast? ≠ some '\n' := by
  rw [String.toList_intercalate, List.map_map]
  obtain rfl | given := eq_or_ne discs []
  · simp
  · have ends : ∀ line ∈ discs.map (String.toList ∘ lineOf title),
        ∃ last, line.getLast? = some last ∧ last ≠ '\n' := by
      intro line member
      obtain ⟨disc, listed, rfl⟩ := List.mem_map.mp member
      exact getLast?_lineOf (isDisc disc listed)
    obtain ⟨last, found, proper⟩ := getLast?_intercalate (by simpa using given) ends
    exact fun broken => proper (Option.some.inj (found.symm.trans broken))

/-- A name that is text in one line. -/
def IsLine (name : Name) : Prop :=
  (∃ text, name.bytes = Utf8.encode text) ∧ Utf8.lineFeed ∉ name.bytes

theorem not_mem_lineOf (titleLine : IsLine title) (discLine : IsLine disc) :
    '\n' ∉ (lineOf title disc).toList := by
  rw [toList_lineOf, List.mem_append, List.mem_cons]
  rintro (inTitle | slash | inDisc)
  · exact titleLine.2 (Utf8.lineFeed_mem_of_mem_display inTitle)
  · cases slash
  · exact discLine.2 (Utf8.lineFeed_mem_of_mem_display inDisc)

/-- A playlist comes apart into its lines. -/
theorem splitOn_content {discs : List Name} (some : discs ≠ []) (titleLine : IsLine title)
    (discLines : ∀ disc ∈ discs, IsLine disc) :
    ("\n".intercalate (discs.map (lineOf title))).toList.splitOn '\n' =
      discs.map fun disc => (lineOf title disc).toList := by
  rw [String.toList_intercalate, List.map_map]
  refine List.splitOn_intercalate '\n' (fun line member => ?_) (by simpa using some)
  obtain ⟨disc, listed, rfl⟩ := List.mem_map.mp member
  exact not_mem_lineOf titleLine (discLines disc listed)

theorem child_lineOf (root : Path) (titleLine : IsLine title) (discLine : IsLine disc) :
    root.child (lineOf title disc) = (root.entry title.bytes).entry disc.bytes := by
  obtain ⟨⟨titleText, titleBytes⟩, -⟩ := titleLine
  obtain ⟨⟨discText, discBytes⟩, -⟩ := discLine
  have line : Utf8.encode (lineOf title disc) = title.bytes ++ Path.slash :: disc.bytes := by
    rw [lineOf, titleBytes, discBytes, Utf8.display_encode, Utf8.display_encode, Utf8.encode_append,
      Utf8.encode_append, List.append_assoc]
    rfl
  rw [Path.child, Path.ofText, line]
  exact Path.join_names root title disc

/-! ## Plans -/

/-- What the plan for a title says. -/
structure PlannedFor (volume : Volume) (root : Path) (above : Location) (title : Name)
    (plan : PlaylistPlan) : Prop where
  /-- The playlist goes next to the folder of the title. -/
  path : plan.path = root.child (Card.unhide (Utf8.display title.bytes) ++ ".m3u")
  /-- It holds the discs, in the order of their lines, and its lines are their paths. -/
  content : ∃ discs : List Name, discs.Nodup ∧
    (∀ disc, disc ∈ discs ↔ IsDiscOf volume root title disc) ∧
    plan.content = "\n".intercalate (discs.map (lineOf title)) ∧
    ((discs.map (lineOf title)).Pairwise fun left right =>
      Utf8.encode left ≤ Utf8.encode right) ∧
    (IsLine title → (∀ disc ∈ discs, IsLine disc) →
      (plan.content.toList.splitOn '\n' = discs.map fun disc => (lineOf title disc).toList) ∧
        ∀ disc ∈ discs, volume.isFile (root.child (lineOf title disc)) = true)
  /-- It does not end in a line break. -/
  ends : plan.content.toList.getLast? ≠ some '\n'
  /-- The path asks for the entry of the folder that has the playlist's name. -/
  entry : volume.EntryAt plan.path (nameFor title) above
  /-- The playlist is there. -/
  unchanged : plan.status = .unchanged ↔
    volume.read plan.path = .ok (Utf8.encode plan.content)
  /-- Nothing is there, or a link that leads nowhere. -/
  create : plan.status = .create ↔ volume.node? (nameFor title :: above) = none ∨
    ∃ target, volume.node? (nameFor title :: above) = some (.link target) ∧
      volume.status? plan.path = .error .notFound

theorem read_eq_notFound_iff_dangling (entry : volume.EntryAt path name above) :
    volume.read path = .error .notFound ↔ volume.node? (name :: above) = none ∨
      ∃ target, volume.node? (name :: above) = some (.link target) ∧
        volume.status? path = .error .notFound := by
  rw [read_eq_notFound_iff]
  cases standing : volume.node? (name :: above) with
  | none => simp [entry.status?_none standing]
  | some node =>
      cases node with
      | link target => simp
      | file mode content => simp [entry.status?_file standing]
      | folder mode => simp [entry.status?_folder standing]

/-- The plan for a title says what it should. -/
theorem plannedFor_of_planFor (reached : volume.locate true root = .ok above)
    (folder : volume.isFolderAt above = true)
    (isTitle : volume.isFolder (root.entry title.bytes) = true)
    (holdsDisc : ∃ disc, IsDiscOf volume root title disc) {plan : PlaylistPlan}
    (planned : planFor volume root title = .ok plan) :
    PlannedFor volume root above title plan := by
  obtain ⟨path_eq, content_eq, compared⟩ := of_planFor planned
  obtain ⟨discs, distinct, listed, lines, ascending⟩ := exists_discs isTitle
  have isDisc (disc : Name) (member : disc ∈ discs) := (listed disc).mp member
  have given : discs ≠ [] := by
    obtain ⟨disc, isDisc⟩ := holdsDisc
    exact List.ne_nil_of_mem ((listed disc).mpr isDisc)
  have content : plan.content = "\n".intercalate (discs.map (lineOf title)) := by
    rw [content_eq, contentFor, lines]
  have entry : volume.EntryAt plan.path (nameFor title) above := by
    have replaceable := replaceable_of_status compared
    rw [path_eq] at replaceable ⊢
    exact replaceable.entryAt reached folder
  refine ⟨?path, ⟨discs, distinct, listed, content, ascending, fun titleLine discLines =>
    ⟨?splits, fun disc member => ?isFile⟩⟩, ?ends, entry, ?unchanged, ?create⟩
  case path =>
    rw [path_eq, ← pathFor_eq, pathFor, String.append_assoc]
    rfl
  case splits => rw [content, splitOn_content given titleLine discLines]
  case isFile =>
    rw [child_lineOf root titleLine (discLines disc member)]
    exact (isDisc disc member).file
  case ends =>
    rw [content]
    exact getLast?_content isDisc
  case unchanged => rw [← status_eq_unchanged_iff, compared, Except.ok.injEq]
  case create =>
    rw [← read_eq_notFound_iff_dangling entry, ← status_eq_create_iff, compared, Except.ok.injEq]

/-- If planning succeeds, there is one plan for each folder that holds a disc, in the order of the
folders' names, and each plan says what it should: where the playlist goes, what it holds, and how
it compares with what is there. -/
theorem plans_exact (volume : Volume) (root : Path) (list : List PlaylistPlan)
    (planned : plans volume root = .ok list) :
    ∃ above titles, volume.locate true root = .ok above ∧ volume.isFolderAt above = true ∧
      Ascending titles ∧
      (∀ title : Name, title ∈ titles ↔ volume.isFolder (root.entry title.bytes) = true ∧
        ∃ disc, IsDiscOf volume root title disc) ∧
      List.Forall₂ (PlannedFor volume root above) titles list := by
  obtain ⟨above, reached, folder, called⟩ := plans_eq_ok_iff.mp planned
  have mem_callers (title : Name) : title ∈ callers volume root above ↔
      volume.isFolder (root.entry title.bytes) = true ∧
        ∃ disc, IsDiscOf volume root title disc := by
    rw [mem_callers_iff reached]
    refine and_congr_right fun isTitle => ?_
    simp only [linesFor_ne_nil_iff isTitle, isDisc_iff]
  refine ⟨above, callers volume root above, reached, folder,
    (ascending_titles volume root above).filter _, mem_callers, ?_⟩
  have pairs : List.Forall₂ (fun title plan => planFor volume root title = .ok plan)
      (callers volume root above) list := by
    rw [← List.forall₂_eq_eq_eq, List.forall₂_map_left_iff, List.forall₂_map_right_iff] at called
    exact called
  have described := (List.forall₂_and_left _ _).mpr ⟨fun title => (mem_callers title).mp, pairs⟩
  exact described.imp fun title plan ⟨⟨isTitle, holdsDisc⟩, planned⟩ =>
    plannedFor_of_planFor reached folder isTitle holdsDisc planned

/-- The name `Game.m3u`. -/
def gamePlaylist : Name := ⟨[0x47, 0x61, 0x6D, 0x65, 0x2E, 0x6D, 0x33, 0x75], by decide⟩

/-- The title `.Game` on one disc, the empty title `Game`, and a link that leads nowhere in the
place of a playlist. -/
def lostPlaylist : Volume where
  entries := [([game], .folder Node.folderMode),
    ([hiddenGame], .folder Node.folderMode), ([firstDisc, hiddenGame], .file Node.fileMode []),
    ([gamePlaylist], .link (.ofText "gone"))]

/-- There is one plan, which is to create what the link does not lead to. -/
theorem plannedFor_lostPlaylist :
    plans lostPlaylist currentFolder =
        .ok [⟨currentFolder.child "Game.m3u", ".Game/d1.cue", .create⟩] ∧
      PlannedFor lostPlaylist currentFolder [] hiddenGame
        ⟨currentFolder.child "Game.m3u", ".Game/d1.cue", .create⟩ := by
  have planned : plans lostPlaylist currentFolder =
      .ok [⟨currentFolder.child "Game.m3u", ".Game/d1.cue", .create⟩] := by cbv
  have isTitle : lostPlaylist.isFolder (currentFolder.entry hiddenGame.bytes) = true := by cbv
  have holdsDisc : ∃ disc, IsDiscOf lostPlaylist currentFolder hiddenGame disc :=
    ⟨firstDisc, isDisc_iff.mp (by cbv)⟩
  obtain ⟨above, titles, reached, -, -, listed, pairs⟩ :=
    plans_exact lostPlaylist currentFolder _ planned
  obtain rfl : [] = above := Except.ok.inj ((by cbv : _ = Except.ok []).symm.trans reached)
  obtain ⟨title, rfl⟩ := List.length_eq_one_iff.mp pairs.length_eq
  obtain rfl : hiddenGame = title := List.mem_singleton.mp ((listed _).mpr ⟨isTitle, holdsDisc⟩)
  exact ⟨planned, (List.forall₂_cons.mp pairs).1⟩

end Playlist
end CardKeeper

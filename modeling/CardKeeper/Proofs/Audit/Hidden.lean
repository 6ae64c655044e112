import CardKeeper.Proofs.Audit.Change
import CardKeeper.Proofs.Volume.Rename

/-!
# Audits of a card with a hidden title

A title that is hidden looks for the image that it looked for before, and no other path of a card
that an audit looks at passes the title's folder.  So the report names the title by its new name
where it named it before, and is otherwise the same: `report_hides`.
-/

namespace CardKeeper
namespace Audit

open Volume

variable {before after : Volume} {card : Card} {rules : Rules} {home : Location}
  {folder title hidden name entry : Name} {console : String} {launcher : Launcher} {path : Path}
  {result : AuditReport}

/-! ## The image of a hidden title -/

theorem titleStem_encode (text : String) :
    titleStem (Utf8.encode text) = Utf8.encode (Card.unhide text) := by
  simp [titleStem, Utf8.decode?_eq_some_iff.mpr rfl]

/-- A title has the same image with the dot and without it. -/
theorem titleStem_hides {above : Location} (hides : Hides before after above title hidden) :
    titleStem hidden.bytes = titleStem title.bytes := by
  obtain ⟨text, spelled, plain, dotted, unhidden⟩ := hides.exists_text
  rw [spelled, dotted, titleStem_encode, titleStem_encode, plain, unhidden]

theorem gamePath_inj {otherName otherEntry : Name} :
    gamePath name entry = gamePath otherName otherEntry ↔
      name = otherName ∧ entry = otherEntry := by
  refine ⟨fun same => ?_, fun ⟨names, entries⟩ => by rw [names, entries]⟩
  have components := congrArg Path.components same
  rw [gamePath, gamePath] at components
  have left := Path.components_ofSegments [gamesName, name, entry]
  have right := Path.components_ofSegments [gamesName, otherName, otherEntry]
  simp only [List.map_cons, List.map_nil] at left right
  rw [left, right] at components
  simp only [List.cons.injEq, Component.name.injEq, and_true, true_and] at components
  exact ⟨Name.ext_bytes components.1, Name.ext_bytes components.2⟩

/-! ## A title that is hidden -/

/-- On a card without links, a title in the folder of the console whose titles are folders is
hidden. -/
structure HidesTitle (before after : Volume) (card : Card) (rules : Rules) (home : Location)
    (folder title hidden : Name) : Prop where
  /-- The path of the card leads to the location. -/
  opens : before.Opens card.root home
  /-- No link stands in the card. -/
  free : before.LinkFree home
  /-- The rules have plain names for the launcher. -/
  plain : PlainConfigs rules
  /-- The folder is that of the console whose titles are folders. -/
  console : folder.bytes = Utf8.encode rules.multiDiscConsole
  /-- The title is not the folder of images. -/
  notImages : title ≠ imagesName
  /-- The title is hidden. -/
  hides : Hides before after (folder :: gamesName :: home) title hidden

/-- The entry that a report names after a title was hidden, where it named one before. -/
def renamed (folder title hidden : Name) (path : Path) : Path :=
  if path = gamePath folder title then gamePath folder hidden else path

namespace HidesTitle

variable (change : HidesTitle before after card rules home folder title hidden)
  (still : after.Opens card.root home)

include change

theorem console_eq : card.console rules.multiDiscConsole = card.games.entry folder.bytes := by
  rw [change.console]
  rfl

theorem hidden_ne_images : hidden ≠ imagesName := by
  rintro same
  have start : some Path.dot = imagesName.bytes.head? := by
    rw [← same, change.hides.dotted]
    rfl
  exact absurd start (by decide)

theorem renames : Renames before after ([gamesName, folder].reverse ++ home) title hidden :=
  change.hides.renames

/-- What stands on the way along names that do not start with those of the title is the same. -/
theorem node?_of_mem_route {names : List Name} {location : Location}
    (aside : ∀ own, own = title ∨ own = hidden → ¬ [gamesName, folder, own] <+: names)
    (passed : location ∈ route home names) : after.node? location = before.node? location :=
  change.renames.node?_of_mem_route (aside title (.inl rfl)) (aside hidden (.inr rfl)) passed

include still

theorem status?_eq {names : List Name} (some : names ≠ [])
    (aside : ∀ own, own = title ∨ own = hidden → ¬ [gamesName, folder, own] <+: names) :
    after.status? (card.root.descend names) = before.status? (card.root.descend names) :=
  change.renames.status?_beside still change.opens change.free some (aside title (.inl rfl))
    (aside hidden (.inr rfl))

theorem isConsole_iff :
    IsConsole after card rules name console ↔ IsConsole before card rules name console := by
  have same : after.isFolder (card.games.entry name.bytes) =
      before.isFolder (card.games.entry name.bytes) := by
    have alike := change.status?_eq still (List.cons_ne_nil gamesName [name]) fun own _ longer =>
      absurd longer.length_le (by simp)
    exact isFolder_congr alike
  constructor
  · rintro ⟨text, isFolder, kept⟩
    exact ⟨text, same ▸ isFolder, kept⟩
  · rintro ⟨text, isFolder, kept⟩
    exact ⟨text, same.trans isFolder, kept⟩

theorem configOf_eq (text : name.bytes = Utf8.encode console) :
    configOf after card rules console = configOf before card rules console := by
  refine configOf_congr change.plain text fun launcherName _ => ?_
  refine change.status?_eq still (List.cons_ne_nil _ _) fun own _ start => ?_
  have tops : gamesName = emuName := (List.cons_prefix_cons.mp start).1
  exact absurd tops (by decide)

/-- An audit comes to its end afterwards if it did before. -/
theorem exists_report (completed : report before card rules = .ok result) :
    ∃ again, report after card rules = .ok again := by
  obtain ⟨games, usable⟩ := exists_report_iff.mp ⟨result, completed⟩
  have alike := change.status?_eq still (List.cons_ne_nil gamesName [])
    fun own _ longer => absurd longer.length_le (by simp)
  refine exists_report_iff.mpr ⟨(isFolder_congr alike).trans games, fun name console kept => ?_⟩
  have isConsole := (change.isConsole_iff still).mp kept
  rw [change.configOf_eq still isConsole.text]
  exact usable name console isConsole

/-- The same consoles are such that the launcher knows something about them. -/
theorem exists_isConsole_iff (known : Except ConfigError (Option Launcher) → Prop) :
    ((∃ name, IsConsole after card rules name console) ∧
        known (configOf after card rules console)) ↔
      (∃ name, IsConsole before card rules name console) ∧
        known (configOf before card rules console) := by
  simp only [change.isConsole_iff still]
  refine and_congr_right fun ⟨name, isConsole⟩ => ?_
  rw [change.configOf_eq still isConsole.text]

/-- Every image is there that was there, and no other one. -/
theorem contains_wantedImage (name entry : Name) :
    after.contains (wantedImage card rules (gamePath name entry)) =
      before.contains (wantedImage card rules (gamePath name entry)) := by
  rw [contains, contains, wantedImage_eq_descend]
  rw [change.status?_eq still (List.cons_ne_nil _ _) fun own isTitle start => ?_]
  have images : own = imagesName := by
    simp only [List.cons_prefix_cons, true_and] at start
    exact start.2.1
  exact isTitle.elim (fun same => change.notImages (same ▸ images))
    fun same => change.hidden_ne_images (same ▸ images)

/-- Entries other than the title lack an image if they did. -/
theorem lacksImage_beside (text : name.bytes = Utf8.encode console)
    (notTitle : ¬ (name = folder ∧ entry = title))
    (notHidden : ¬ (name = folder ∧ entry = hidden)) :
    LacksImage after card rules name console launcher entry ↔
      LacksImage before card rules name console launcher entry := by
  have alike := change.status?_eq still (List.cons_ne_nil gamesName [name, entry])
    fun own isTitle start => by
      simp only [List.cons_prefix_cons, true_and, List.nil_prefix, and_true] at start
      obtain ⟨rfl, rfl⟩ := start
      exact isTitle.elim (fun same => notTitle ⟨rfl, same⟩) fun same => notHidden ⟨rfl, same⟩
  have isFolder : after.isFolder ((card.games.entry name.bytes).entry entry.bytes) =
      before.isFolder ((card.games.entry name.bytes).entry entry.bytes) := isFolder_congr alike
  have isFile : after.isFile ((card.games.entry name.bytes).entry entry.bytes) =
      before.isFile ((card.games.entry name.bytes).entry entry.bytes) := isFile_congr alike
  rw [lacksImage_iff text, lacksImage_iff text, change.contains_wantedImage still]
  simp only [WantsImage, isFolder, isFile]

theorem locate_console : after.locate true (card.games.entry folder.bytes) =
    before.locate true (card.games.entry folder.bytes) :=
  locate_descend_congr still change.opens change.free (List.cons_ne_nil gamesName [folder]) rfl
    fun _ passed => change.node?_of_mem_route
      (fun own _ longer => absurd longer.length_le (by simp)) passed

/-- The folder of titles is where its names lead, before and afterwards. -/
theorem opens_console {above : Location}
    (reached : before.locate true (card.games.entry folder.bytes) = .ok above)
    (isFolder : before.isFolderAt above = true) :
    before.Opens (card.games.entry folder.bytes) (folder :: gamesName :: home) ∧
      after.Opens (card.games.entry folder.bytes) (folder :: gamesName :: home) := by
  have opened : before.Opens (card.root.descend [gamesName, folder]) above :=
    opens_of_locate reached isFolder
  obtain rfl : above = folder :: gamesName :: home :=
    change.opens.eq_of_descend change.free opened
  have passed : folder :: gamesName :: home ∈ route home [gamesName, folder] := by simp [route]
  have same := change.node?_of_mem_route
    (fun own _ longer => absurd longer.length_le (by simp)) passed
  refine ⟨opened, opens_of_locate ((change.locate_console still).trans reached) ?_⟩
  rwa [Volume.isFolderAt, same]

end HidesTitle

/-! ## What is missing -/

/-- The folder of the title's console is open, and the path of the hidden title can be followed. -/
structure OpensTitle (before after : Volume) (card : Card) (home : Location)
    (folder hidden : Name) : Prop where
  /-- The path of the card still leads to the location. -/
  root : after.Opens card.root home
  /-- The folder is open before the title is hidden. -/
  opens : before.Opens (card.games.entry folder.bytes) (folder :: gamesName :: home)
  /-- It is open afterwards. -/
  still : after.Opens (card.games.entry folder.bytes) (folder :: gamesName :: home)
  /-- The path of the hidden title is not too long. -/
  accepted : refusal? ((card.games.entry folder.bytes).entry hidden.bytes) = none

namespace HidesTitle

variable (change : HidesTitle before after card rules home folder title hidden)
  (opened : OpensTitle before after card home folder hidden)

include change opened

/-- The hidden title lacks an image if it did before. -/
theorem lacksImage_hidden (text : folder.bytes = Utf8.encode console) :
    LacksImage after card rules folder console launcher hidden ↔
      LacksImage before card rules folder console launcher title := by
  have images (own : Name) (differs : own ≠ imagesName) :
      own.bytes ≠ Utf8.encode Card.imageFolder := fun same => differs (Name.ext_bytes same)
  have sameImage : wantedImage card rules (gamePath folder hidden) =
      wantedImage card rules (gamePath folder title) := by
    rw [wantedImage_gamePath, wantedImage_gamePath, stemOf, stemOf, if_pos change.console,
      if_pos change.console, titleStem_hides change.hides]
  rw [lacksImage_iff text, lacksImage_iff text, WantsImage, WantsImage, if_pos change.console,
    if_pos change.console, sameImage, change.contains_wantedImage opened.root]
  simp only [change.hides.isFolder_hidden opened.still opened.accepted,
    change.hides.isFolder_title opened.opens opened.accepted, images title change.notImages,
    images hidden change.hidden_ne_images, ne_eq, not_false_eq_true, and_self]

theorem not_lacksImage (text : folder.bytes = Utf8.encode console) :
    ¬ LacksImage after card rules folder console launcher title ∧
      ¬ LacksImage before card rules folder console launcher hidden := by
  rw [lacksImage_iff text, lacksImage_iff text, WantsImage, WantsImage, if_pos change.console,
    if_pos change.console, change.hides.not_isFolder_title opened.still,
    change.hides.not_isFolder_hidden opened.opens]
  simp

/-- What is missing is what was missing, with the title under its new name. -/
theorem isMissing_iff : IsMissing after card rules path ↔
    ∃ old, IsMissing before card rules old ∧ renamed folder title hidden old = path := by
  constructor
  · rintro ⟨name, console, launcher, entry, isConsole, config, lacks, rfl⟩
    have isConsole := (change.isConsole_iff opened.root).mp isConsole
    rw [change.configOf_eq opened.root isConsole.text] at config
    by_cases isHidden : name = folder ∧ entry = hidden
    · obtain ⟨rfl, rfl⟩ := isHidden
      have lacks := (change.lacksImage_hidden opened isConsole.text).mp lacks
      exact ⟨_, ⟨_, console, launcher, title, isConsole, config, lacks, rfl⟩, if_pos rfl⟩
    by_cases isTitle : name = folder ∧ entry = title
    · obtain ⟨rfl, rfl⟩ := isTitle
      exact absurd lacks (change.not_lacksImage opened isConsole.text).1
    have lacks :=
      (change.lacksImage_beside opened.root isConsole.text isTitle isHidden).mp lacks
    exact ⟨_, ⟨name, console, launcher, entry, isConsole, config, lacks, rfl⟩,
      if_neg (mt gamePath_inj.mp isTitle)⟩
  · rintro ⟨_, ⟨name, console, launcher, entry, isConsole, config, lacks, rfl⟩, rfl⟩
    have isConsoleToo := (change.isConsole_iff opened.root).mpr isConsole
    rw [← change.configOf_eq opened.root isConsole.text] at config
    by_cases isTitle : name = folder ∧ entry = title
    · obtain ⟨rfl, rfl⟩ := isTitle
      have lacks := (change.lacksImage_hidden opened isConsole.text).mpr lacks
      exact ⟨_, console, launcher, hidden, isConsoleToo, config, lacks, if_pos rfl⟩
    by_cases isHidden : name = folder ∧ entry = hidden
    · obtain ⟨rfl, rfl⟩ := isHidden
      exact absurd lacks (change.not_lacksImage opened isConsole.text).2
    have lacks :=
      (change.lacksImage_beside opened.root isConsole.text isTitle isHidden).mpr lacks
    exact ⟨name, console, launcher, entry, isConsoleToo, config, lacks,
      if_neg (mt gamePath_inj.mp isTitle)⟩

theorem not_isMissing_hidden : ¬ IsMissing before card rules (gamePath folder hidden) := by
  rintro ⟨name, console, launcher, entry, isConsole, -, lacks, same⟩
  obtain ⟨rfl, rfl⟩ := gamePath_inj.mp same
  exact (change.not_lacksImage opened isConsole.text).2 lacks

/-- The hidden title is missing exactly if the title was. -/
theorem isMissing_hidden_iff : IsMissing after card rules (gamePath folder hidden) ↔
    IsMissing before card rules (gamePath folder title) := by
  rw [change.isMissing_iff opened]
  constructor
  · rintro ⟨old, missing, same⟩
    rw [renamed] at same
    split at same
    · next isTitle => exact isTitle ▸ missing
    · exact absurd (same ▸ missing) (change.not_isMissing_hidden opened)
  · intro missing
    exact ⟨_, missing, if_pos rfl⟩

theorem renamed_inj {left right : Path} (leftMissing : IsMissing before card rules left)
    (rightMissing : IsMissing before card rules right)
    (same : renamed folder title hidden left = renamed folder title hidden right) :
    left = right := by
  have fresh := change.not_isMissing_hidden opened
  rw [renamed, renamed] at same
  split at same
  · next isTitle =>
      split at same
      · next isTitleToo => rw [isTitle, isTitleToo]
      · exact absurd (same ▸ rightMissing) fresh
  · split at same
    · exact absurd (same ▸ leftMissing) fresh
    · exact same

end HidesTitle

/-! ## The report -/

/-- An audit comes to its end after a title was hidden.  It names the title by its new name where
it named it before, and is otherwise the same. -/
def KeepsReport (after : Volume) (card : Card) (rules : Rules) (folder title hidden : Name)
    (result : AuditReport) : Prop :=
  ∃ again, report after card rules = .ok again ∧
    again.missing.Perm (result.missing.map (renamed folder title hidden)) ∧
    (gamePath folder hidden ∈ again.missing ↔ gamePath folder title ∈ result.missing) ∧
    again.unconfigured = result.unconfigured ∧ again.examined = result.examined

/-- To hide a title keeps the report, as long as the path of the card leads where it did and the
path of the hidden title can be followed. -/
theorem report_hides (change : HidesTitle before after card rules home folder title hidden)
    (opened : OpensTitle before after card home folder hidden)
    (completed : report before card rules = .ok result) :
    KeepsReport after card rules folder title hidden result := by
  obtain ⟨again, completedToo⟩ := change.exists_report opened.root completed
  obtain ⟨-, nodup, missing, ascending, unconfigured, checked, distinct, count, examined⟩ :=
    report_exact before card rules result completed
  obtain ⟨-, nodupToo, missingToo, ascendingToo, unconfiguredToo, checkedToo, distinctToo, countToo,
    examinedToo⟩ := report_exact after card rules again completedToo
  refine ⟨again, completedToo, ?_, ?_, ?_, ?_⟩
  · have nodupNew : (result.missing.map (renamed folder title hidden)).Nodup :=
      nodup.map_on fun left isLeft right isRight same =>
        change.renamed_inj opened ((missing left).mp isLeft) ((missing right).mp isRight) same
    refine (List.perm_ext_iff_of_nodup nodupToo nodupNew).mpr fun path => ?_
    rw [missingToo, change.isMissing_iff opened, List.mem_map]
    simp only [missing]
  · rw [missingToo, missing, change.isMissing_hidden_iff opened]
  · refine eq_of_ascending ascendingToo ascending fun console => ?_
    rw [unconfiguredToo, unconfigured, change.exists_isConsole_iff opened.root (· = .ok none)]
  · have perm : checkedToo.Perm checked :=
      (List.perm_ext_iff_of_nodup distinctToo distinct).mpr fun console => by
        rw [examinedToo, examined, change.exists_isConsole_iff opened.root
          fun config => ∃ launcher, config = .ok (some launcher)]
    rw [countToo, count, perm.length_eq]

end Audit
end CardKeeper

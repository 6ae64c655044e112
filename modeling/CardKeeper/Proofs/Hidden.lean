import CardKeeper.Proofs.Audit.Hidden
import CardKeeper.Proofs.Audit.Playlists
import CardKeeper.Proofs.Audit.Unconfigured
import CardKeeper.Proofs.Playlist.DryRun
import CardKeeper.Proofs.Playlist.Hidden

/-!
# Hiding a title

A title is hidden by a dot in front of the name of its folder.  It keeps its playlist and its image,
both of which have the name without the dot for their stem: `hide_title`.  What can go wrong has to
do with paths: the path of the card may lead through the title's folder, the paths of the discs get
longer by one byte, and a playlist may go where the hidden folder is.
-/

namespace CardKeeper
namespace Audit

open Volume Playlist

variable {before after : Volume} {card : Card} {rules : Rules} {home : Location}
  {folder title hidden : Name} {result : AuditReport} {list : List PlaylistPlan} {text : String}

/-! ## Stems -/

theorem encode_unhide_ne_nil (spelled : title.bytes = Utf8.encode text) :
    Utf8.encode (Card.unhide text) ≠ [] := by
  intro nothing
  have empty : Card.unhide text = "" := Utf8.encode_injective nothing
  unfold Card.unhide at empty
  split at empty
  · next rest shape =>
      obtain rfl : rest = [] := by simpa using empty
      have dot : text = "." := String.toList_inj.mp shape
      exact title.ne_dot (spelled.trans (dot ▸ by decide))
  · exact title.ne_nil (spelled.trans (empty ▸ rfl))

/-- The stem of a name that ends in a plain extension. -/
theorem stem?_entry {root : Path} {name : Name} {stem ending : Bytes}
    (split : name.bytes = stem ++ Path.dot :: ending) (some : stem ≠ [])
    (plain : Path.dot ∉ ending) : (root.entry name.bytes).stem? = .some stem := by
  rw [Path.stem?, Path.fileName?_entry, Option.map_some, split, Path.splitName_append some plain]

theorem stem?_pathFor (root : Path) (spelled : title.bytes = Utf8.encode text) :
    (pathFor root (titleText title)).stem? = some (Utf8.encode (Card.unhide text)) := by
  have shown : titleText title = text := by rw [titleText, spelled, Utf8.display_encode]
  have split : (nameFor title).bytes =
      Utf8.encode (Card.unhide text) ++ Path.dot :: [0x6D, 0x33, 0x75] := by
    rw [← shown, ← ending_eq]
    rfl
  rw [pathFor_eq]
  exact stem?_entry split (encode_unhide_ne_nil spelled) (by decide)

theorem stem?_imagePath (root : Path) (spelled : title.bytes = Utf8.encode text) :
    (Card.imagePath root (titleStem title.bytes)).stem? =
      some (Utf8.encode (Card.unhide text)) := by
  have inside {byte : UInt8} (free : byte ∉ title.bytes) :
      byte ∉ Utf8.encode (Card.unhide text) := fun member =>
    free (spelled ▸ (Card.encode_unhide_suffix text).mem member)
  obtain ⟨image, named⟩ : ∃ image : Name, image.bytes =
      Utf8.encode (Card.unhide text) ++ Utf8.encode ("." ++ Card.imageExtension) :=
    ⟨⟨_, isName_append (inside title.slash_not_mem) (inside title.nul_not_mem) (by decide)
      (by decide)⟩, rfl⟩
  have ending : Utf8.encode ("." ++ Card.imageExtension) = Path.dot :: [0x70, 0x6E, 0x67] := by
    decide
  rw [spelled, titleStem_encode, Card.imagePath, ← named]
  exact stem?_entry (ending ▸ named) (encode_unhide_ne_nil spelled) (by decide)

/-! ## Reports and plans -/

/-- Nothing is in the way of a title that is hidden. -/
structure StaysClear (before after : Volume) (card : Card) (rules : Rules) (home : Location)
    (title hidden : Name) (list : List PlaylistPlan) : Prop where
  /-- The path of the card still leads to the location. -/
  still : after.Opens card.root home
  /-- The path of the hidden title is not too long. -/
  titlePath : refusal? ((card.console rules.multiDiscConsole).entry hidden.bytes) = none
  /-- The paths of its discs are not too long. -/
  discPaths : ∀ disc, IsDiscOf before (card.console rules.multiDiscConsole) title disc →
    refusal? (((card.console rules.multiDiscConsole).entry hidden.bytes).entry disc.bytes) = none
  /-- No playlist goes where the hidden folder is. -/
  apart : ∀ plan ∈ list, plan.path ≠ (card.console rules.multiDiscConsole).entry hidden.bytes

/-- To hide a title on a card without links changes neither its playlist nor its image.  If the
audit and the planning of playlists succeed before, and nothing is in the way, they succeed
afterwards: the audit reports the title by its new name if it reported it before, and everything
else alike, and planning finds the same playlists, of which the title's names the same discs by the
new name of their folder.  The playlist and the image of every title have the same stem. -/
theorem hide_title (card : Card) (rules : Rules) :
    (∀ before after home folder title hidden result list,
      HidesTitle before after card rules home folder title hidden →
      StaysClear before after card rules home title hidden list →
      report before card rules = .ok result →
      plans before (card.console rules.multiDiscConsole) = .ok list →
        KeepsReport after card rules folder title hidden result ∧
        KeepsPlans before after (card.console rules.multiDiscConsole)
          (folder :: gamesName :: home) title hidden list) ∧
    ∀ (root : Path) (title : Name) (text : String), title.bytes = Utf8.encode text →
      (pathFor root (titleText title)).stem? =
        (Card.imagePath root (titleStem title.bytes)).stem? := by
  refine ⟨fun before after home folder title hidden result list change clear completed planned =>
    ?_, fun root title text spelled =>
      (stem?_pathFor root spelled).trans (stem?_imagePath root spelled).symm⟩
  obtain ⟨still, titlePath, discPaths, apart⟩ := clear
  obtain ⟨above, reached, isFolder, -⟩ := plans_eq_ok_iff.mp planned
  rw [change.console_eq] at planned reached titlePath discPaths apart ⊢
  obtain ⟨opens, stillOpen⟩ := change.opens_console still reached isFolder
  have free : before.LinkFree (folder :: gamesName :: home) := fun location below =>
    change.free location ((List.suffix_append [folder, gamesName] home).trans below)
  exact ⟨report_hides change ⟨still, opens, stillOpen, titlePath⟩ completed,
    plans_hides ⟨opens, stillOpen, free, change.hides, titlePath, discPaths⟩ planned apart⟩

/-- The card with one title on one disc, after the title was hidden. -/
def hiddenDiscCard : Volume :=
  discCard.move [game, playStation, gamesName] [hiddenGame, playStation, gamesName]

theorem hides_discCard :
    Hides discCard hiddenDiscCard [playStation, gamesName] game hiddenGame where
  text := ⟨"Game", by decide⟩
  shown := by decide
  dotted := by decide
  short := by decide
  standing := ⟨Node.folderMode, by decide⟩
  fresh := by decide
  moved := rfl

theorem hidesTitle_discCard {card : Card} (opens : discCard.Opens card.root []) :
    HidesTitle discCard hiddenDiscCard card .standard [] playStation game hiddenGame where
  opens := opens
  free location _ := node?_ne_link (by decide) location
  plain := plainConfigs_standard
  console := by decide
  notImages := by decide
  hides := hides_discCard

theorem eq_of_isDiscOf_discCard {disc : Name}
    (isDisc : IsDiscOf discCard (Card.console ⟨.ofText "."⟩ "PS") game disc) :
    disc = firstDisc := by
  have opens : discCard.Opens ((Card.console ⟨.ofText "."⟩ "PS").entry game.bytes)
      [game, playStation, gamesName] := by cbv
  obtain ⟨-, -, mode, content, standing⟩ :=
    (opens.isFile_entry_iff (node?_ne_link (by decide) _)).mp isDisc.file
  have member := (node?_eq_some_iff (List.cons_ne_nil _ _)).mp standing
  have same : disc = firstDisc ∧ mode = Node.fileMode ∧ content = [] := by
    simpa [discCard] using member
  exact same.1

/-- The hidden title is reported by its new name, and its playlist keeps its path. -/
theorem hide_title_discCard :
    (∃ again, report hiddenDiscCard ⟨.ofText "."⟩ .standard = .ok again ∧
      again.missing = [gamePath playStation hiddenGame]) ∧
    ∃ renewed, plans hiddenDiscCard (Card.console ⟨.ofText "."⟩ "PS") = .ok [renewed] ∧
      renewed.path = (Card.console ⟨.ofText "."⟩ "PS").child "Game.m3u" := by
  have completed : report discCard ⟨.ofText "."⟩ .standard =
      .ok ⟨[gamePath playStation game], [], 1⟩ := by cbv
  have planned : plans discCard (Card.console ⟨.ofText "."⟩ "PS") =
      .ok [⟨(Card.console ⟨.ofText "."⟩ "PS").child "Game.m3u", "Game/d1.cue", .create⟩] := by cbv
  have clear : StaysClear discCard hiddenDiscCard ⟨.ofText "."⟩ .standard [] game hiddenGame
      [⟨(Card.console ⟨.ofText "."⟩ "PS").child "Game.m3u", "Game/d1.cue", .create⟩] := {
    still := by cbv
    titlePath := by cbv
    discPaths := fun disc isDisc => by
      rw [eq_of_isDiscOf_discCard isDisc]
      cbv
    apart := by
      intro plan member
      rw [List.mem_singleton.mp member]
      decide }
  obtain ⟨⟨again, reported, missing, -⟩, replanned, found, plansKept⟩ :=
    (hide_title ⟨.ofText "."⟩ .standard).1 _ _ _ _ _ _ _ _ (hidesTitle_discCard (by cbv)) clear
      completed planned
  refine ⟨⟨again, reported, ?_⟩, ?_⟩
  · rwa [List.map_singleton, renamed, if_pos rfl, List.perm_singleton] at missing
  · rcases plansKept with ⟨plan, renewed, others, discs, -, perm, permToo, -, -, path, -⟩ | ⟨none, -⟩
    · obtain ⟨rfl, rfl⟩ : plan = _ ∧ others = [] := by
        simpa using List.perm_singleton.mp perm.symm
      rw [List.perm_singleton.mp permToo] at found
      exact ⟨renewed, found, path⟩
    · exact absurd ⟨firstDisc, isDisc_iff.mp (by cbv)⟩ none

/-! ## What can be in the way -/

/-- To hide the title loses something, though the audit and the planning of playlists succeed
before. -/
def Loses (before after : Volume) (card : Card) (rules : Rules) (home : Location)
    (folder title hidden : Name) : Prop :=
  HidesTitle before after card rules home folder title hidden ∧
  ∃ result list, report before card rules = .ok result ∧
    plans before (card.console rules.multiDiscConsole) = .ok list ∧
    ¬ (KeepsReport after card rules folder title hidden result ∧
      KeepsPlans before after (card.console rules.multiDiscConsole)
        (folder :: gamesName :: home) title hidden list)

/-- A path to the card through the folder of the title. -/
def throughTitle : Card := ⟨.ofText "Roms/PS/Game/../../.."⟩

/-- Where the path led there is no card any more. -/
theorem loses_throughTitle :
    Loses discCard hiddenDiscCard throughTitle .standard [] playStation game hiddenGame := by
  have completed : report discCard throughTitle .standard =
      .ok ⟨[gamePath playStation game], [], 1⟩ := by cbv
  have planned : plans discCard (throughTitle.console "PS") =
      .ok [⟨(throughTitle.console "PS").child "Game.m3u", "Game/d1.cue", .create⟩] := by cbv
  have lost : report hiddenDiscCard throughTitle .standard =
      .error (.unlisted throughTitle.games .notFound) := by cbv
  refine ⟨hidesTitle_discCard (by cbv), _, _, completed, planned, ?_⟩
  rintro ⟨⟨again, reported, -⟩, -⟩
  cases lost.symm.trans reported

/-- The name `..Game`. -/
def dottedGame : Name := ⟨[0x2E, 0x2E, 0x47, 0x61, 0x6D, 0x65], by decide⟩

/-- The name `.Game.m3u`. -/
def hiddenPlaylist : Name :=
  ⟨[0x2E, 0x47, 0x61, 0x6D, 0x65, 0x2E, 0x6D, 0x33, 0x75], by decide⟩

/-- A card with the title `..Game` on one disc and the empty title `Game.m3u`. -/
def coveredCard : Volume where
  entries := [([gamesName], .folder Node.folderMode),
    ([playStation, gamesName], .folder Node.folderMode),
    ([dottedGame, playStation, gamesName], .folder Node.folderMode),
    ([firstDisc, dottedGame, playStation, gamesName], .file Node.fileMode []),
    ([gamePlaylist, playStation, gamesName], .folder Node.folderMode)]

/-- The card after the empty title was hidden. -/
def hiddenCoveredCard : Volume :=
  coveredCard.move [gamePlaylist, playStation, gamesName]
    [hiddenPlaylist, playStation, gamesName]

/-- The playlist of `..Game` would go where the folder `.Game.m3u` is. -/
theorem loses_coveredCard : Loses coveredCard hiddenCoveredCard ⟨.ofText "."⟩ .standard []
    playStation gamePlaylist hiddenPlaylist := by
  have change : HidesTitle coveredCard hiddenCoveredCard ⟨.ofText "."⟩ .standard [] playStation
      gamePlaylist hiddenPlaylist := {
    opens := by cbv
    free := fun location _ => node?_ne_link (by decide) location
    plain := plainConfigs_standard
    console := by decide
    notImages := by decide
    hides := {
      text := ⟨"Game.m3u", by decide⟩
      shown := by decide
      dotted := by decide
      short := by decide
      standing := ⟨Node.folderMode, by decide⟩
      fresh := by decide
      moved := rfl } }
  have completed : report coveredCard ⟨.ofText "."⟩ .standard = .ok ⟨[], ["PS"], 0⟩ := by cbv
  have planned : plans coveredCard (Card.console ⟨.ofText "."⟩ "PS") =
      .ok [⟨(Card.console ⟨.ofText "."⟩ "PS").child ".Game.m3u", "..Game/d1.cue", .create⟩] := by
    cbv
  have lost : plans hiddenCoveredCard (Card.console ⟨.ofText "."⟩ "PS") =
      .error (.file ((Card.console ⟨.ofText "."⟩ "PS").child ".Game.m3u") .isDirectory) := by cbv
  refine ⟨change, _, _, completed, planned, ?_⟩
  rintro ⟨-, again, replanned, -⟩
  cases lost.symm.trans replanned

/-! ### Paths that are too long with the dot -/

/-- A card in a folder, with one title on one disc. -/
def innerCard : Volume where
  entries := [([farFolder], .folder Node.folderMode),
    ([gamesName, farFolder], .folder Node.folderMode),
    ([playStation, gamesName, farFolder], .folder Node.folderMode),
    ([game, playStation, gamesName, farFolder], .folder Node.folderMode),
    ([firstDisc, game, playStation, gamesName, farFolder], .file Node.fileMode [])]

/-- The card after the title was hidden. -/
def hiddenInnerCard : Volume :=
  innerCard.move [game, playStation, gamesName, farFolder]
    [hiddenGame, playStation, gamesName, farFolder]

/-- A path to the card by which the path of the disc is as long as a path can be. -/
@[irreducible]
def longRoot : Path :=
  roundabout 2037 farFolder

/-- The folder of the title's console by that path. -/
def longConsole : Path :=
  (longRoot.entry gamesName.bytes).entry playStation.bytes

theorem longRoot_eq : longRoot = roundabout 2037 farFolder := by
  unfold longRoot
  rfl

theorem games_longRoot : Card.games ⟨longRoot⟩ = longRoot.entry gamesName.bytes := by
  have spelled : Path.ofText "Roms" = ⟨gamesName.bytes⟩ := by decide
  rw [Card.games, Path.child, spelled, Path.entry]

theorem console_longRoot : Card.console ⟨longRoot⟩ Rules.standard.multiDiscConsole =
    longConsole := by
  have spelled : Path.ofText Rules.standard.multiDiscConsole = ⟨playStation.bytes⟩ := by decide
  rw [Card.console, games_longRoot, Path.child, spelled, longConsole, Path.entry, Path.entry]

theorem launcherConfig_longRoot :
    Card.launcherConfig ⟨longRoot⟩ (Rules.standard.configName "PS") =
      longRoot.descend [emuName, playStationConfig, configName] := by
  have launcher : Path.ofText "Emu" = ⟨emuName.bytes⟩ := by decide
  have console : Path.ofText (Rules.standard.configName "PS") = ⟨playStationConfig.bytes⟩ := by
    decide
  have config : Path.ofText "config.json" = ⟨configName.bytes⟩ := by decide
  rw [Card.launcherConfig, Path.child, Path.child, Path.child, launcher, console, config,
    Path.descend_cons, Path.descend_cons, Path.descend_cons, Path.descend_nil, Path.entry,
    Path.entry, Path.entry]

theorem refusal?_longRoot_iff (names : List Name) : refusal? (longRoot.descend names) = none ↔
    2 * 2037 + 1 + (names.map fun name => name.bytes.length + 1).sum ≤ pathLimit :=
  longRoot_eq ▸ refusal?_roundabout_iff 2037 farFolder names

theorem refusal?_longConsole_iff (names : List Name) :
    refusal? (longConsole.descend names) = none ↔
      2 * 2037 + 9 + (names.map fun name => name.bytes.length + 1).sum ≤ pathLimit := by
  have onward := refusal?_longRoot_iff (gamesName :: playStation :: names)
  have games : gamesName.bytes.length = 4 := by decide
  have console : playStation.bytes.length = 2 := by decide
  rw [Path.descend_cons, Path.descend_cons, ← longConsole, List.map_cons, List.map_cons,
    List.sum_cons, List.sum_cons, games, console] at onward
  rw [onward]
  omega

theorem opens_innerCard : innerCard.Opens longRoot [farFolder] :=
  longRoot_eq ▸ opens_roundabout 2037 rfl (by decide) rfl

theorem opens_longConsole : innerCard.Opens longConsole [playStation, gamesName, farFolder] := by
  have games : innerCard.Opens (longRoot.entry gamesName.bytes) [gamesName, farFolder] :=
    opens_innerCard.entry (by decide) rfl
  exact games.entry (by decide) rfl

theorem node?_innerCard_ne_link (location : Location) (target : Path) :
    innerCard.node? location ≠ some (.link target) :=
  node?_ne_link (by decide) location target

theorem hidesTitle_innerCard : HidesTitle innerCard hiddenInnerCard ⟨longRoot⟩ .standard
    [farFolder] playStation game hiddenGame where
  opens := opens_innerCard
  free location _ := node?_innerCard_ne_link location
  plain := plainConfigs_standard
  console := by decide
  notImages := by decide
  hides := {
    text := ⟨"Game", by decide⟩
    shown := by decide
    dotted := by decide
    short := by decide
    standing := ⟨Node.folderMode, by decide⟩
    fresh := by decide
    moved := rfl }

theorem eq_of_isConsole_innerCard {name : Name} {console : String}
    (isConsole : IsConsole innerCard ⟨longRoot⟩ .standard name console) : console = "PS" := by
  have opens : innerCard.Opens (Card.games ⟨longRoot⟩) [gamesName, farFolder] := by
    rw [games_longRoot]
    exact opens_innerCard.entry (by decide) rfl
  obtain ⟨-, -, mode, standing⟩ :=
    (opens.isFolder_entry_iff (node?_innerCard_ne_link _)).mp isConsole.folder
  have member := (node?_eq_some_iff (List.cons_ne_nil _ _)).mp standing
  obtain ⟨rfl, -⟩ : name = playStation ∧ mode = Node.folderMode := by
    simpa [innerCard] using member
  exact Utf8.encode_injective (isConsole.text.symm.trans (by decide))

/-- The launcher has no configurations on the card. -/
theorem exists_report_innerCard : ∃ result, report innerCard ⟨longRoot⟩ .standard = .ok result := by
  have games : innerCard.isFolder (Card.games ⟨longRoot⟩) = true := by
    have accepted := (refusal?_longRoot_iff [gamesName]).mpr (by decide)
    rw [games_longRoot]
    exact (opens_innerCard.isFolder_entry_iff (node?_innerCard_ne_link _)).mpr
      ⟨accepted, by decide, Node.folderMode, rfl⟩
  refine exists_report_iff_status.mpr ⟨games, fun name console isConsole => .inl ?_⟩
  have accepted : refusal? (longRoot.descend [emuName, playStationConfig, configName]) = none :=
    (refusal?_longRoot_iff _).mpr (by decide)
  obtain ⟨left, walked⟩ := opens_innerCard.locate_descend (List.cons_ne_nil _ _) accepted
  have lost : innerCard.locate true (longRoot.descend [emuName, playStationConfig, configName]) =
      .error .notFound := by
    rw [walked, List.map_cons, walk_cons, turn_name opens_innerCard.isFolderAt (by decide)]
    rfl
  rw [eq_of_isConsole_innerCard isConsole, launcherConfig_longRoot, status?, lost]
  rfl

theorem eq_of_isFolder_innerCard {name : Name}
    (isFolder : innerCard.isFolder (longConsole.entry name.bytes) = true) : name = game := by
  obtain ⟨-, -, mode, standing⟩ :=
    (opens_longConsole.isFolder_entry_iff (node?_innerCard_ne_link _)).mp isFolder
  have member := (node?_eq_some_iff (List.cons_ne_nil _ _)).mp standing
  have same : name = game ∧ mode = Node.folderMode := by
    simpa [innerCard] using member
  exact same.1

theorem exists_plans_innerCard : ∃ list, plans innerCard longConsole = .ok list := by
  have accepted := (refusal?_longConsole_iff []).mpr (by decide)
  rw [Path.descend_nil] at accepted
  have reached := opens_longConsole.locate_eq accepted
  refine exists_plans reached opens_longConsole.isFolderAt fun title calls => .inr ?_
  have playlist : nameFor game = gamePlaylist := Name.ext_bytes (by cbv)
  rw [eq_of_isFolder_innerCard ((mem_callers_iff reached).mp calls).1, playlist]
  have near := (refusal?_longConsole_iff [gamePlaylist]).mpr (by decide)
  rw [Path.descend_cons, Path.descend_nil] at near
  exact (opens_longConsole.entryAt near (by decide)).read_none rfl

theorem isDiscOf_innerCard : IsDiscOf innerCard longConsole game firstDisc where
  file := by
    have opens : innerCard.Opens (longConsole.entry game.bytes)
        [game, playStation, gamesName, farFolder] := opens_longConsole.entry (by decide) rfl
    have accepted := (refusal?_longConsole_iff [game, firstDisc]).mpr (by decide)
    rw [Path.descend_cons, Path.descend_cons, Path.descend_nil] at accepted
    exact (opens.isFile_entry_iff (node?_innerCard_ne_link _)).mpr
      ⟨accepted, by decide, Node.fileMode, [], rfl⟩
  named := ⟨[0x64, 0x31], "cue", by decide, by decide, by decide⟩

theorem opens_hiddenInnerCard :
    hiddenInnerCard.Opens longConsole [playStation, gamesName, farFolder] := by
  have root : hiddenInnerCard.Opens longRoot [farFolder] :=
    longRoot_eq ▸ opens_roundabout 2037 rfl (by decide) rfl
  have games : hiddenInnerCard.Opens (longRoot.entry gamesName.bytes) [gamesName, farFolder] :=
    root.entry (by decide) rfl
  exact games.entry (by decide) rfl

theorem node?_hiddenInnerCard_ne_link (location : Location) (target : Path) :
    hiddenInnerCard.node? location ≠ some (.link target) :=
  node?_ne_link (by decide) location target

/-- The path of the disc is too long with the dot. -/
theorem not_isDiscOf_hiddenInnerCard {title disc : Name}
    (isTitle : hiddenInnerCard.isFolder (longConsole.entry title.bytes) = true) :
    ¬ IsDiscOf hiddenInnerCard longConsole title disc := by
  intro isDisc
  obtain ⟨-, short, mode, standing⟩ :=
    (opens_hiddenInnerCard.isFolder_entry_iff (node?_hiddenInnerCard_ne_link _)).mp isTitle
  have opens := opens_hiddenInnerCard.entry short standing
  obtain ⟨accepted, -, discMode, content, file⟩ :=
    (opens.isFile_entry_iff (node?_hiddenInnerCard_ne_link _)).mp isDisc.file
  have member := (node?_eq_some_iff (List.cons_ne_nil _ _)).mp file
  have entries : hiddenInnerCard.entries = [([farFolder], .folder Node.folderMode),
      ([gamesName, farFolder], .folder Node.folderMode),
      ([playStation, gamesName, farFolder], .folder Node.folderMode),
      ([hiddenGame, playStation, gamesName, farFolder], .folder Node.folderMode),
      ([firstDisc, hiddenGame, playStation, gamesName, farFolder], .file Node.fileMode [])] := by
    decide
  rw [entries] at member
  obtain ⟨⟨rfl, rfl⟩, -⟩ : (disc = firstDisc ∧ title = hiddenGame) ∧
      discMode = Node.fileMode ∧ content = [] := by
    simpa using member
  rw [← Path.descend_nil ((longConsole.entry _).entry _), ← Path.descend_cons,
    ← Path.descend_cons, refusal?_longConsole_iff] at accepted
  exact absurd accepted (by decide)

/-- The title had a plan, and has none when it is hidden. -/
theorem loses_innerCard : Loses innerCard hiddenInnerCard ⟨longRoot⟩ .standard [farFolder]
    playStation game hiddenGame := by
  obtain ⟨result, completed⟩ := exists_report_innerCard
  obtain ⟨list, planned⟩ := exists_plans_innerCard
  refine ⟨hidesTitle_innerCard, result, list, completed, ?_⟩
  rw [console_longRoot]
  refine ⟨planned, ?_⟩
  rintro ⟨-, again, replanned, kept⟩
  obtain ⟨above, titles, -, -, -, listed, pairs⟩ := plans_exact _ _ again replanned
  have none (title : Name) : title ∉ titles := fun member => by
    obtain ⟨isTitle, disc, isDisc⟩ := (listed title).mp member
    exact not_isDiscOf_hiddenInnerCard isTitle isDisc
  rw [List.eq_nil_iff_forall_not_mem.mpr none, List.forall₂_nil_left_iff] at pairs
  rcases kept with ⟨plan, renewed, others, discs, -, -, perm, -⟩ | ⟨nothing, -⟩
  · rw [pairs] at perm
    exact List.cons_ne_nil _ _ perm.nil_eq.symm
  · exact nothing ⟨firstDisc, isDiscOf_innerCard⟩

/-- To hide a title can change more if the card is reached through the title, if a playlist would go
where the hidden folder is, or if the dot makes the path of a disc too long. -/
theorem hide_title_differs :
    Loses discCard hiddenDiscCard throughTitle .standard [] playStation game hiddenGame ∧
    Loses coveredCard hiddenCoveredCard ⟨.ofText "."⟩ .standard [] playStation gamePlaylist
      hiddenPlaylist ∧
    Loses innerCard hiddenInnerCard ⟨longRoot⟩ .standard [farFolder] playStation game hiddenGame :=
  ⟨loses_throughTitle, loses_coveredCard, loses_innerCard⟩

end Audit
end CardKeeper

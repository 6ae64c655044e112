import CardKeeper.Proofs.Audit.Change
import CardKeeper.Proofs.Playlist.Rerun

/-!
# Audits after playlists are generated

Playlists are files directly in the folder of the console whose titles are folders.  Only folders
count there for an audit, and the folder of images has a name that no playlist has.  So an audit
finds the same before and after: `report_generateBy`.
-/

namespace CardKeeper

namespace Audit

open Volume Playlist

variable {before after : Volume} {card : Card} {rules : Rules} {home : Location} {name : Name}
  {naming : Naming}

/-- No playlist is called like the folder of images. -/
theorem imagesName_ne_nameFor (title : Name) : imagesName ≠ nameFor title := by
  intro same
  have lasts := congrArg (fun name : Name => name.bytes.getLast?) same
  simp only [nameFor, ending_eq, List.getLast?_append, List.getLast?_cons_cons,
    List.getLast?_singleton, Option.some_or] at lasts
  exact absurd lasts (by decide)

/-- Playlists were laid in the folder of the console whose titles are folders, on a card without
links. -/
structure LaysPlaylists (before after : Volume) (card : Card) (rules : Rules) (home : Location)
    (name : Name) : Prop where
  /-- The console's name spells the text in the rules. -/
  text : name.bytes = Utf8.encode rules.multiDiscConsole
  /-- Only files were laid over sites. -/
  overlays : after.Overlays before
  /-- The card's top folder is at the location. -/
  opens : before.Opens card.root home
  /-- No link stands in the card. -/
  free : before.LinkFree home
  /-- The folder of games can be listed. -/
  games : before.isFolder card.games = true
  /-- Nothing else changed than the playlists of titles. -/
  frame : ∀ location, after.node? location = before.node? location ∨
    ∃ title, location = nameFor title :: name :: gamesName :: home

/-- A run that does not leave the volume as it was has laid playlists. -/
theorem generateBy_lays (naming : Naming) (dryRun : Bool) (free : CardLinkFree before card)
    (console : IsPlain rules.multiDiscConsole) :
    let after := (generateBy naming (card.console rules.multiDiscConsole) dryRun before).volume
    after = before ∨ ∃ home name, LaysPlaylists before after card rules home name := by
  cases dryRun with
  | true => exact .inl (volume_generateBy_dryRun naming _ before)
  | false =>
      rcases generateBy_cases naming (card.console rules.multiDiscConsole) before with
        ⟨error, -, same⟩ | ⟨list, above, planned, -, reached, ready, written⟩
      · exact .inl same
      · obtain ⟨place, placed, folder, -⟩ := plans_eq_ok_iff.mp planned
        obtain rfl : above = place := Except.ok.inj (reached.symm.trans placed)
        have accepted := (locate_eq_ok_iff.mp reached).1
        have nul : 0 ∉ Utf8.encode rules.multiDiscConsole := fun member =>
          (refusal?_eq_none_iff.mp accepted).1 (Path.mem_bytes_entry card.games member)
        let name : Name := ⟨_, isName_of_isPlain console nul⟩
        have inside : before.Opens (card.root.descend [gamesName, name]) above :=
          opens_of_locate reached folder
        obtain ⟨home, opens⟩ := inside.of_descend
        obtain rfl : above = name :: gamesName :: home :=
          opens.eq_of_descend (free home opens) inside
        have games : before.isFolder card.games = true := by
          obtain ⟨there, under⟩ : ∃ there, before.Opens (card.root.descend [gamesName]) there :=
            Opens.of_descend
              (inside : before.Opens ((card.root.descend [gamesName]).descend [name]) _)
          have allowed := refusal?_of_prefix (prefix_entry card.games name.slash_not_mem)
            (bytes_entry_ne_nil card.root gamesName) accepted
          exact isFolder_iff.mpr ⟨there, under.locate_eq allowed, under.isFolderAt⟩
        refine .inr ⟨home, name, rfl, written.overlays, opens, free home opens, games,
          fun location => ?_⟩
        by_cases playlist : ∃ title, location = nameFor title :: name :: gamesName :: home
        · exact .inr playlist
        · refine .inl (written.frame location fun plan member other entry same => ?_)
          obtain ⟨title, here⟩ := ready plan (List.mem_filter.mp member).1
          obtain ⟨rfl, -⟩ := here.entry.unique entry
          exact playlist ⟨title, same⟩

namespace LaysPlaylists

variable (lays : LaysPlaylists before after card rules home name)

include lays

theorem changesGames : ChangesGames before after card home where
  overlays := lays.overlays
  opens := lays.opens
  free := lays.free
  frame location := by
    rcases lays.frame location with same | ⟨title, rfl⟩
    · exact .inl same
    · exact .inr ⟨nameFor title, name, List.suffix_rfl⟩

/-- A path in the card that does not come upon a playlist leads where it did. -/
theorem status?_eq {names : List Name} (some : names ≠ [])
    (aside : ∀ title, ¬ [gamesName, name, nameFor title] <+: names) :
    after.status? (card.root.descend names) = before.status? (card.root.descend names) := by
  refine status?_descend_congr (lays.overlays.opens_iff.mpr lays.opens) lays.opens lays.free some
    fun location passed => (lays.frame location).resolve_right ?_
  rintro ⟨title, rfl⟩
  have onward : [nameFor title, name, gamesName] ++ home ∈ route home names := passed
  exact aside title (prefix_of_mem_route onward)

/-- Playlists are no titles, and no games of another console. -/
theorem wantsImage_iff (console own : Name) (launcher : Launcher) :
    WantsImage after card rules console launcher own ↔
      WantsImage before card rules console launcher own := by
  by_cases multiDisc : console.bytes = Utf8.encode rules.multiDiscConsole
  · simp only [WantsImage, if_pos multiDisc, lays.overlays.isFolder_eq]
  · have aside (title : Name) :
        ¬ [gamesName, name, nameFor title] <+: [gamesName, console, own] := by
      intro first
      obtain ⟨rfl, -⟩ : name = console ∧ nameFor title = own := by simpa using first
      exact multiDisc lays.text
    have same : after.isFile ((card.games.entry console.bytes).entry own.bytes) =
        before.isFile ((card.games.entry console.bytes).entry own.bytes) :=
      isFile_congr (lays.status?_eq (List.cons_ne_nil gamesName [console, own]) aside)
    simp only [WantsImage, if_neg multiDisc, same]

/-- Playlists are no images. -/
theorem contains_wantedImage (console own : Name) :
    after.contains (wantedImage card rules (gamePath console own)) =
      before.contains (wantedImage card rules (gamePath console own)) := by
  have aside (title : Name) : ¬ [gamesName, name, nameFor title] <+:
      [gamesName, console, imagesName, imageName rules console own] := by
    intro first
    obtain ⟨-, images⟩ : name = console ∧ nameFor title = imagesName := by simpa using first
    exact imagesName_ne_nameFor title images.symm
  rw [contains, contains, wantedImage_eq_descend,
    lays.status?_eq (List.cons_ne_nil _ _) aside]

theorem findings_eq (plain : PlainConfigs rules) :
    findings after card rules = findings before card rules := by
  obtain ⟨above, reached, folder⟩ := isFolder_iff.mp lays.games
  rw [lays.changesGames.findings_eq (fun _ => true) plain reached folder lays.wantsImage_iff
    fun console own => by simpa using lays.contains_wantedImage console own]
  simp only [funext keeping_true, List.map_id']

end LaysPlaylists

/-- On a card without links, with plain names for the console whose titles are folders and for the
launcher, generating playlists changes nothing about an audit: it comes to the same end, with the
same report or the same error, and tells the same on the way.  It does not matter whether playlists
are written or only named, nor whether that succeeds. -/
theorem report_generateBy (naming : Naming) (dryRun : Bool) (before : Volume) (card : Card)
    (rules : Rules) (free : CardLinkFree before card) (console : IsPlain rules.multiDiscConsole)
    (plain : PlainConfigs rules) :
    let after := (generateBy naming (card.console rules.multiDiscConsole) dryRun before).volume
    report after card rules = report before card rules ∧
      streamed after card rules = streamed before card rules ∧
      notices after card rules = notices before card rules := by
  intro after
  have same : findings after card rules = findings before card rules := by
    rcases generateBy_lays naming dryRun free console with same | ⟨home, name, lays⟩
    · exact congrArg (findings · card rules) same
    · exact lays.findings_eq plain
  simp only [report, streamed, notices, same, true_and]

/-- The name `PS`. -/
def playStation : Name := ⟨[0x50, 0x53], by decide⟩

/-- The name `PSX`. -/
def playStationConfig : Name := ⟨[0x50, 0x53, 0x58], by decide⟩

/-- A card with one title on one disc, without an image. -/
def discCard : Volume where
  entries := [([gamesName], .folder Node.folderMode),
    ([playStation, gamesName], .folder Node.folderMode),
    ([game, playStation, gamesName], .folder Node.folderMode),
    ([firstDisc, game, playStation, gamesName], .file Node.fileMode []),
    ([emuName], .folder Node.folderMode), ([playStationConfig, emuName], .folder Node.folderMode),
    ([configName, playStationConfig, emuName], .file Node.fileMode gameBoyConfig)]

/-- The playlist of the title is written, and the audit reports what it did before. -/
theorem report_discCard :
    let after := (generateBy .draft (Card.console ⟨.ofText "."⟩ "PS") false discCard).volume
    after.isFile ⟨Utf8.encode "Roms/PS/Game.m3u"⟩ = true ∧
      report after ⟨.ofText "."⟩ .standard = .ok ⟨[gamePath playStation game], [], 1⟩ := by
  have free : CardLinkFree discCard ⟨.ofText "."⟩ :=
    fun _ _ location _ => node?_ne_link (by decide) location
  have completed : report discCard ⟨.ofText "."⟩ .standard =
      .ok ⟨[gamePath playStation game], [], 1⟩ := by cbv
  obtain ⟨same, -⟩ := report_generateBy .draft false discCard ⟨.ofText "."⟩ .standard free
    ⟨by decide, by decide, by decide, by decide⟩ plainConfigs_standard
  exact ⟨by cbv, same.trans completed⟩

end Audit
end CardKeeper

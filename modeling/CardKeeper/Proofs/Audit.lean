import Mathlib
import CardKeeper.Audit
import CardKeeper.Proofs.Gather
import CardKeeper.Proofs.Path.Relative
import CardKeeper.Proofs.Utf8
import CardKeeper.Proofs.Volume.Sorted

/-!
# What audits report

An audit looks at the consoles in the order of their names, and at the entries of each in the order
of theirs.  A report therefore lists exactly the entries that lack an image, in the order of their
paths and each of them once: `report_exact`.  There is a report unless the folder of games or one of
the launcher's configurations is of no use: `exists_report_iff`.
-/

namespace CardKeeper
namespace Audit

open Volume

variable {volume : Volume} {card : Card} {rules : Rules} {folder : Path} {above : Location}
  {console : String} {name entry : Name}

/-! ## The entries of a folder -/

theorem entries_eq_ok_iff {paths : List Path} :
    entries volume folder = .ok paths ↔ ∃ above, volume.locate true folder = .ok above ∧
      volume.isFolderAt above = true ∧
        paths = ((volume.names above).mergeSort nameLe).map
          fun name => folder.entry name.bytes := by
  unfold entries sortedEntries
  cases listed : volume.list folder with
  | error fault =>
      constructor
      · intro found
        cases found
      · rintro ⟨above, reached, isFolder, -⟩
        cases listed.symm.trans (list_eq_ok_iff.mpr ⟨above, reached, isFolder, rfl⟩)
  | ok names =>
      obtain ⟨above, reached, isFolder, rfl⟩ := list_eq_ok_iff.mp listed
      simp only [Except.map, Except.mapError, Except.ok.injEq]
      constructor
      · rintro rfl
        exact ⟨above, reached, isFolder, rfl⟩
      · rintro ⟨place, placed, -, rfl⟩
        cases reached.symm.trans placed
        rfl

theorem exists_entries (isFolder : volume.isFolder folder = true) :
    ∃ paths, entries volume folder = .ok paths := by
  obtain ⟨above, reached, standing⟩ := isFolder_iff.mp isFolder
  exact ⟨_, entries_eq_ok_iff.mpr ⟨above, reached, standing, rfl⟩⟩

/-- The entries of a folder that pass a test come in order.  Every entry that passes is among them
if only what is there passes. -/
theorem exists_names_of_filter {test : Path → Bool} {paths : List Path}
    (filtered : ((entries volume folder).map fun paths => paths.filter test) = .ok paths)
    (present : ∀ entry : Name, test (folder.entry entry.bytes) = true →
      ∃ location, volume.locate true (folder.entry entry.bytes) = .ok location) :
    ∃ names, Ascending names ∧ paths = (names.map fun name => folder.entry name.bytes) ∧
      ∀ entry, entry ∈ names ↔ test (folder.entry entry.bytes) = true := by
  cases all : entries volume folder with
  | error error => simp [all, Except.map] at filtered
  | ok whole =>
      obtain ⟨above, reached, isFolder, rfl⟩ := entries_eq_ok_iff.mp all
      simp only [all, Except.map, Except.ok.injEq, List.filter_map] at filtered
      refine ⟨_, (ascending_mergeSort (nodup_names volume above)).filter _, filtered.symm, ?_⟩
      intro entry
      rw [List.mem_filter, List.mem_mergeSort]
      refine and_iff_right_of_imp fun passes => ?_
      obtain ⟨location, found⟩ := present entry passes
      exact mem_names_of_locate reached found

/-! ## Entries without an image -/

/-- An entry is the folder of a title that has no preview image. -/
def LacksTitle (volume : Volume) (folder : Path) (entry : Name) : Prop :=
  volume.isFolder (folder.entry entry.bytes) = true ∧
    entry.bytes ≠ Utf8.encode Card.imageFolder ∧
      volume.contains (Card.imagePath folder (titleStem entry.bytes)) = false

/-- An entry is a game with one of the extensions that has no preview image. -/
def LacksGame (volume : Volume) (folder : Path) (extensions : List String) (entry : Name) : Prop :=
  volume.isFile (folder.entry entry.bytes) = true ∧
    (∃ extension ∈ extensions, (folder.entry entry.bytes).lowerExtension? = some extension) ∧
      volume.contains (Card.imagePath folder (Path.splitName entry.bytes).1) = false

theorem reservedExtension_not_mem (launcher : Launcher) :
    Launcher.reservedExtension ∉ launcher.extensions := by
  simp [Launcher.extensions]

theorem exists_names_of_missingTitles {paths : List Path}
    (found : missingTitles volume folder = .ok paths) :
    ∃ names, Ascending names ∧ paths = (names.map fun name => folder.entry name.bytes) ∧
      ∀ entry, entry ∈ names ↔ LacksTitle volume folder entry := by
  obtain ⟨names, ascending, shape, members⟩ := exists_names_of_filter found fun entry passes => by
    simp only [isTitle, Bool.and_eq_true] at passes
    obtain ⟨location, reached, -⟩ := isFolder_iff.mp passes.1.1
    exact ⟨location, reached⟩
  refine ⟨names, ascending, shape, fun entry => (members entry).trans ?_⟩
  simp [isTitle, lacksImage, LacksTitle, and_assoc]

theorem exists_names_of_missingGames {launcher : Launcher} {paths : List Path}
    (found : missingGames volume folder launcher.extensions = .ok paths) :
    ∃ names, Ascending names ∧ paths = (names.map fun name => folder.entry name.bytes) ∧
      ∀ entry, entry ∈ names ↔ LacksGame volume folder launcher.extensions entry := by
  obtain ⟨names, ascending, shape, members⟩ := exists_names_of_filter found fun entry passes => by
    simp only [isGame, Bool.and_eq_true] at passes
    obtain ⟨location, -, -, reached, -⟩ := isFile_iff.mp passes.1.1
    exact ⟨location, reached⟩
  refine ⟨names, ascending, shape, fun entry => (members entry).trans ?_⟩
  have stem : (folder.entry entry.bytes).stem? = some (Path.splitName entry.bytes).1 := by
    simp [Path.stem?]
  have reserved := reservedExtension_not_mem launcher
  unfold LacksGame isGame
  rw [stem]
  cases (folder.entry entry.bytes).lowerExtension? with
  | none => simp
  | some own =>
      have differs (member : own ∈ launcher.extensions) : own ≠ Launcher.reservedExtension :=
        fun same => reserved (same ▸ member)
      simp only [lacksImage, Bool.and_eq_true, bne_iff_ne, ne_eq, List.contains_iff_mem,
        Bool.not_eq_true', Option.some.injEq]
      constructor
      · rintro ⟨⟨file, -, member⟩, absent⟩
        exact ⟨file, ⟨own, member, rfl⟩, absent⟩
      · rintro ⟨file, ⟨_, member, rfl⟩, absent⟩
        exact ⟨⟨file, differs member, member⟩, absent⟩

/-! ## Consoles -/

/-- The name of the folder of games. -/
def gamesName : Name :=
  ⟨Utf8.encode "Roms", by decide⟩

/-- The path of an entry of a console's folder as reports give it. -/
def gamePath (name entry : Name) : Path :=
  .ofSegments false [gamesName.bytes, name.bytes, entry.bytes]

theorem relative_entry (card : Card) (name entry : Name) :
    card.relative ((card.games.entry name.bytes).entry entry.bytes) = gamePath name entry :=
  Path.relativeTo_descend card.root (List.cons_ne_nil gamesName [name, entry])

/-- A folder of games whose name is a text, and which the rules do not leave out. -/
structure IsConsole (volume : Volume) (card : Card) (rules : Rules) (name : Name)
    (console : String) : Prop where
  /-- Its name spells the text. -/
  text : name.bytes = Utf8.encode console
  /-- It is a folder directly in the folder of games. -/
  folder : volume.isFolder (card.games.entry name.bytes) = true
  /-- It is not left out. -/
  kept : console ∉ rules.skip

/-- What the launcher knows about a console. -/
def configOf (volume : Volume) (card : Card) (rules : Rules) (console : String) :
    Except ConfigError (Option Launcher) :=
  Launcher.load? volume (card.launcherConfig (rules.configName console))

/-- An entry of a console's folder that should have a preview image and has none. -/
def LacksImage (volume : Volume) (card : Card) (rules : Rules) (name : Name) (console : String)
    (launcher : Launcher) (entry : Name) : Prop :=
  (console = rules.multiDiscConsole ∧ LacksTitle volume (card.games.entry name.bytes) entry) ∨
    (console ≠ rules.multiDiscConsole ∧
      LacksGame volume (card.games.entry name.bytes) launcher.extensions entry)

/-- The folders of games in order, each with the text that is its name. -/
def consoles (volume : Volume) (card : Card) (above : Location) : List (Name × String) :=
  ((volume.names above).mergeSort nameLe).filterMap fun name =>
    if volume.isFolder (card.games.entry name.bytes) then
      (Utf8.decode? name.bytes).map fun console => (name, console)
    else none

/-- What there is to find out about a folder of games. -/
def findingFor (volume : Volume) (card : Card) (rules : Rules) (console : Name × String) :
    Except AuditError Finding :=
  examine volume card rules (card.games.entry console.1.bytes) console.2

theorem pairwise_consoles (volume : Volume) (card : Card) (above : Location) :
    (consoles volume card above).Pairwise fun left right => left.1.bytes < right.1.bytes := by
  refine List.Pairwise.filterMap _ (fun left right less first isFirst second isSecond => ?_)
    (ascending_mergeSort (nodup_names volume above))
  simp only [Option.ite_none_right_eq_some, Option.map_eq_some_iff] at isFirst isSecond
  obtain ⟨-, -, -, rfl⟩ := isFirst
  obtain ⟨-, -, -, rfl⟩ := isSecond
  exact less

theorem mem_consoles (reached : volume.locate true card.games = .ok above) :
    (name, console) ∈ consoles volume card above ↔
      name.bytes = Utf8.encode console ∧
        volume.isFolder (card.games.entry name.bytes) = true := by
  simp only [consoles, List.mem_filterMap, List.mem_mergeSort, Option.ite_none_right_eq_some,
    Option.map_eq_some_iff, Utf8.decode?_eq_some_iff]
  constructor
  · rintro ⟨_, -, folder, _, text, same⟩
    cases same
    exact ⟨text, folder⟩
  · rintro ⟨text, folder⟩
    obtain ⟨location, found, -⟩ := isFolder_iff.mp folder
    exact ⟨name, mem_names_of_locate reached found, folder, console, text, rfl⟩

theorem filterMap_console? (volume : Volume) (card : Card) (names : List Name) :
    (names.map fun name => card.games.entry name.bytes).filterMap (console? volume) =
      (names.filterMap fun name =>
        if volume.isFolder (card.games.entry name.bytes) then
          (Utf8.decode? name.bytes).map fun console => (name, console)
        else none).map fun console => (card.games.entry console.1.bytes, console.2) := by
  rw [List.filterMap_map, List.map_filterMap]
  congr 1
  funext name
  simp only [Function.comp_apply, console?, Path.fileName?_entry, Option.bind_some]
  split
  · rw [Option.map_map]
    rfl
  · rfl

/-- An audit works on the folders of games in the order of their names. -/
theorem findings_eq_gather (reached : volume.locate true card.games = .ok above)
    (folder : volume.isFolderAt above = true) :
    findings volume card rules =
      gather (findingFor volume card rules) (consoles volume card above) := by
  have listed := entries_eq_ok_iff.mpr ⟨above, reached, folder, rfl⟩
  simp only [findings, listed, filterMap_console?, gather_map]
  rfl

/-- A report comes from what is found out about the folders of games. -/
theorem report_eq_ok_iff {result : AuditReport} :
    report volume card rules = .ok result ↔ ∃ above found,
      volume.locate true card.games = .ok above ∧ volume.isFolderAt above = true ∧
        (consoles volume card above).map (findingFor volume card rules) = found.map .ok ∧
          result = .ofFindings found := by
  have report_eq {found : List Finding} (ended : findings volume card rules = ⟨found, none⟩) :
      report volume card rules = .ok (.ofFindings found) := by
    simp only [report, ended]
  have items (above : Location) (reached : volume.locate true card.games = .ok above)
      (folder : volume.isFolderAt above = true) (found : List Finding) :
      findings volume card rules = ⟨found, none⟩ ↔
        (consoles volume card above).map (findingFor volume card rules) = found.map .ok := by
    rw [findings_eq_gather reached folder, gather_eq_iff]
  constructor
  · intro completed
    cases ended : findings volume card rules with
    | mk found failure =>
        cases failure with
        | some error => simp [report, ended] at completed
        | none =>
            rw [report_eq ended] at completed
            cases all : entries volume card.games with
            | error error => simp [findings, all] at ended
            | ok paths =>
                obtain ⟨above, reached, folder, -⟩ := entries_eq_ok_iff.mp all
                exact ⟨above, found, reached, folder, (items above reached folder found).mp ended,
                  (Except.ok.inj completed).symm⟩
  · rintro ⟨above, found, reached, folder, ended, rfl⟩
    exact report_eq ((items above reached folder found).mpr ended)

/-! ## What is found out about a console -/

theorem isSkipped_iff : rules.isSkipped console = true ↔ console ∈ rules.skip :=
  List.contains_iff_mem

/-- A console that is not left out is examined if the launcher has a configuration for it. -/
theorem examine_of_kept (kept : console ∉ rules.skip) :
    examine volume card rules folder console =
      match configOf volume card rules console with
      | .error error => .error (.config error)
      | .ok none => .ok (.unconfigured console (card.launcherConfig (rules.configName console)))
      | .ok (some launcher) =>
          (if rules.isMultiDisc console then missingTitles volume folder
            else missingGames volume folder launcher.extensions).map fun paths =>
              .examined console (paths.map card.relative) := by
  rw [examine, if_neg (mt isSkipped_iff.mp kept)]
  rfl

theorem examine_of_skipped (skipped : console ∈ rules.skip) :
    examine volume card rules folder console = .ok (.skipped console) := by
  rw [examine, if_pos (isSkipped_iff.mpr skipped)]

/-- What is missing in a folder of games comes in order. -/
theorem exists_names_of_missing {launcher : Launcher} {paths : List Path}
    (found : (if rules.isMultiDisc console then missingTitles volume (card.games.entry name.bytes)
      else missingGames volume (card.games.entry name.bytes) launcher.extensions) = .ok paths) :
    ∃ names, Ascending names ∧
      paths = (names.map fun entry => (card.games.entry name.bytes).entry entry.bytes) ∧
        ∀ entry, entry ∈ names ↔ LacksImage volume card rules name console launcher entry := by
  by_cases multiDisc : console = rules.multiDiscConsole
  · rw [if_pos (by simp [Rules.isMultiDisc, multiDisc])] at found
    obtain ⟨names, ascending, shape, members⟩ := exists_names_of_missingTitles found
    exact ⟨names, ascending, shape, by simp [members, LacksImage, multiDisc]⟩
  · rw [if_neg (by simp [Rules.isMultiDisc, Ne.symm multiDisc])] at found
    obtain ⟨names, ascending, shape, members⟩ := exists_names_of_missingGames found
    exact ⟨names, ascending, shape, by simp [members, LacksImage, multiDisc]⟩

/-- What can be found out about a console: the rules leave it out, the launcher does not know it,
or it is examined and its entries without an image come in order. -/
theorem findingFor_cases {finding : Finding}
    (found : findingFor volume card rules (name, console) = .ok finding) :
    (console ∈ rules.skip ∧ finding = .skipped console) ∨
      (console ∉ rules.skip ∧ configOf volume card rules console = .ok none ∧
        finding = .unconfigured console (card.launcherConfig (rules.configName console))) ∨
      (console ∉ rules.skip ∧ ∃ launcher names,
        configOf volume card rules console = .ok (some launcher) ∧ Ascending names ∧
          finding = .examined console (names.map (gamePath name)) ∧
            ∀ entry, entry ∈ names ↔
              LacksImage volume card rules name console launcher entry) := by
  unfold findingFor at found
  by_cases skipped : console ∈ rules.skip
  · rw [examine_of_skipped skipped] at found
    exact .inl ⟨skipped, (Except.ok.inj found).symm⟩
  · refine .inr ?_
    rw [examine_of_kept skipped] at found
    cases config : configOf volume card rules console with
    | error error => simp [config] at found
    | ok loaded =>
        cases loaded with
        | none =>
            rw [config] at found
            exact .inl ⟨skipped, rfl, (Except.ok.inj found).symm⟩
        | some launcher =>
            rw [config] at found
            cases missing : (if rules.isMultiDisc console
                then missingTitles volume (card.games.entry name.bytes)
                else missingGames volume (card.games.entry name.bytes) launcher.extensions) with
            | error error => simp [missing, Except.map] at found
            | ok paths =>
                obtain ⟨names, ascending, rfl, members⟩ := exists_names_of_missing missing
                simp only [missing, Except.map, Except.ok.injEq, List.map_map] at found
                refine .inr ⟨skipped, launcher, names, rfl, ascending, ?_, members⟩
                rw [← found]
                congr 1
                exact List.map_congr_left fun entry _ => relative_entry card name entry

/-- The finding about a console shows which of its entries lack an image, in order. -/
theorem missing_of_findingFor {finding : Finding}
    (found : findingFor volume card rules (name, console) = .ok finding) :
    ∃ names, Ascending names ∧ finding.missing = names.map (gamePath name) ∧
      ∀ entry, entry ∈ names ↔ console ∉ rules.skip ∧ ∃ launcher,
        configOf volume card rules console = .ok (some launcher) ∧
          LacksImage volume card rules name console launcher entry := by
  rcases findingFor_cases found with
    ⟨skipped, rfl⟩ | ⟨kept, config, rfl⟩ | ⟨kept, launcher, names, config, ascending, rfl, members⟩
  · exact ⟨[], .nil, rfl, by simp [skipped]⟩
  · exact ⟨[], .nil, rfl, by simp [config]⟩
  · exact ⟨names, ascending, rfl, by simp [members, kept, config]⟩

/-- The finding about a console shows whether the launcher has no configuration for it. -/
theorem unconfigured?_of_findingFor {finding : Finding} {other : String}
    (found : findingFor volume card rules (name, console) = .ok finding) :
    finding.unconfigured? = some other ↔ console = other ∧ console ∉ rules.skip ∧
      configOf volume card rules console = .ok none := by
  rcases findingFor_cases found with
    ⟨skipped, rfl⟩ | ⟨kept, config, rfl⟩ | ⟨kept, launcher, names, config, -, rfl, -⟩
  · simp [Finding.unconfigured?, skipped]
  · simp [Finding.unconfigured?, kept, config]
  · simp [Finding.unconfigured?, config]

/-- The console of a finding if it was examined. -/
def examined? : Finding → Option String
  | .examined console _ => some console
  | _ => none

/-- The finding about a console shows whether the launcher has a configuration for it. -/
theorem examined?_of_findingFor {finding : Finding} {other : String}
    (found : findingFor volume card rules (name, console) = .ok finding) :
    examined? finding = some other ↔ console = other ∧ console ∉ rules.skip ∧
      ∃ launcher, configOf volume card rules console = .ok (some launcher) := by
  rcases findingFor_cases found with
    ⟨skipped, rfl⟩ | ⟨kept, config, rfl⟩ | ⟨kept, launcher, names, config, -, rfl, -⟩
  · simp [examined?, skipped]
  · simp [examined?, config]
  · simp [examined?, kept, config]

theorem countP_isExamined (found : List Finding) :
    found.countP Finding.isExamined = (found.filterMap examined?).length := by
  rw [List.length_filterMap_eq_countP]
  refine List.countP_congr fun finding _ => ?_
  cases finding <;> simp [Finding.isExamined, examined?]

/-- All that can fail at a console is to use the launcher's configuration of it. -/
theorem exists_findingFor_iff (isFolder : volume.isFolder (card.games.entry name.bytes) = true) :
    (∃ finding, findingFor volume card rules (name, console) = .ok finding) ↔
      (console ∉ rules.skip → ∃ config, configOf volume card rules console = .ok config) := by
  by_cases skipped : console ∈ rules.skip
  · simp only [skipped, not_true_eq_false, false_implies, iff_true]
    exact ⟨_, examine_of_skipped skipped⟩
  · simp only [findingFor, examine_of_kept skipped, skipped, not_false_eq_true, true_implies]
    obtain ⟨paths, all⟩ := exists_entries isFolder
    cases configOf volume card rules console with
    | error error => simp
    | ok loaded =>
        cases loaded with
        | none => simp
        | some launcher =>
            simp only [missingTitles, missingGames, all, Except.map, Except.ok.injEq,
              exists_eq', iff_true]
            by_cases multiDisc : rules.isMultiDisc console = true <;> simp [multiDisc]

/-! ## Reports -/

/-- A path is that of an entry of a console's folder that should have a preview image and has
none. -/
def IsMissing (volume : Volume) (card : Card) (rules : Rules) (path : Path) : Prop :=
  ∃ name console launcher entry, IsConsole volume card rules name console ∧
    configOf volume card rules console = .ok (some launcher) ∧
      LacksImage volume card rules name console launcher entry ∧ path = gamePath name entry

/-- An audit comes to its end exactly if the games are in a folder and the launcher's configuration
of each console that is not left out can be used. -/
theorem exists_report_iff : (∃ result, report volume card rules = .ok result) ↔
    volume.isFolder card.games = true ∧ ∀ name console,
      IsConsole volume card rules name console →
        ∃ config, configOf volume card rules console = .ok config := by
  constructor
  · rintro ⟨result, completed⟩
    obtain ⟨above, found, reached, standing, ended, -⟩ := report_eq_ok_iff.mp completed
    refine ⟨isFolder_iff.mpr ⟨above, reached, standing⟩, fun name console isConsole => ?_⟩
    obtain ⟨finding, -, isFinding⟩ :=
      exists_result ended ((mem_consoles reached).mpr ⟨isConsole.text, isConsole.folder⟩)
    exact (exists_findingFor_iff isConsole.folder).mp ⟨finding, isFinding⟩ isConsole.kept
  · rintro ⟨games, usable⟩
    obtain ⟨above, reached, standing⟩ := isFolder_iff.mp games
    have all (console : Name × String) (listed : console ∈ consoles volume card above) :
        ∃ finding, findingFor volume card rules console = .ok finding := by
      obtain ⟨name, text⟩ := console
      obtain ⟨spelled, folder⟩ := (mem_consoles reached).mp listed
      exact (exists_findingFor_iff folder).mpr fun kept => usable name text ⟨spelled, folder, kept⟩
    obtain ⟨found, ended⟩ := exists_results all
    exact ⟨_, report_eq_ok_iff.mpr ⟨above, found, reached, standing, ended, rfl⟩⟩

/-- Names of findings come in the order of the consoles. -/
theorem pairwise_filterMap_findings (reached : volume.locate true card.games = .ok above)
    {found : List Finding}
    (ended : (consoles volume card above).map (findingFor volume card rules) = found.map .ok)
    {pick : Finding → Option String}
    (picks : ∀ name console finding other, findingFor volume card rules (name, console) =
      .ok finding → pick finding = some other → console = other) :
    (found.filterMap pick).Pairwise fun left right => Utf8.encode left < Utf8.encode right := by
  rw [List.pairwise_filterMap]
  have texts : (consoles volume card above).Pairwise fun left right =>
      Utf8.encode left.2 < Utf8.encode right.2 := by
    refine (pairwise_consoles volume card above).imp_of_mem
      fun {left right} isLeft isRight less => ?_
    rwa [((mem_consoles reached).mp isLeft).1, ((mem_consoles reached).mp isRight).1] at less
  refine pairwise_results ended texts fun left right first second isFirst isSecond less => ?_
  intro one isOne two isTwo
  rw [← picks left.1 left.2 first one isFirst isOne,
    ← picks right.1 right.2 second two isSecond isTwo]
  exact less

theorem mem_filterMap_findings (reached : volume.locate true card.games = .ok above)
    {found : List Finding}
    (ended : (consoles volume card above).map (findingFor volume card rules) = found.map .ok)
    {pick : Finding → Option String} {reason : String → Prop}
    (picks : ∀ name console finding other, findingFor volume card rules (name, console) =
      .ok finding → (pick finding = some other ↔ console = other ∧ console ∉ rules.skip ∧
        reason console)) :
    console ∈ found.filterMap pick ↔
      (∃ name, IsConsole volume card rules name console) ∧ reason console := by
  rw [List.mem_filterMap]
  constructor
  · rintro ⟨finding, member, picked⟩
    obtain ⟨⟨name, text⟩, listed, isFinding⟩ := (mem_results_iff ended).mp member
    obtain ⟨rfl, kept, because⟩ := (picks name text finding console isFinding).mp picked
    obtain ⟨spelled, folder⟩ := (mem_consoles reached).mp listed
    exact ⟨⟨name, spelled, folder, kept⟩, because⟩
  · rintro ⟨⟨name, spelled, folder, kept⟩, because⟩
    obtain ⟨finding, member, isFinding⟩ :=
      exists_result ended ((mem_consoles reached).mpr ⟨spelled, folder⟩)
    exact ⟨finding, member,
      (picks name console finding console isFinding).mpr ⟨rfl, kept, because⟩⟩

theorem pairwise_missing {found : List Finding}
    (ended : (consoles volume card above).map (findingFor volume card rules) = found.map .ok) :
    (found.flatMap Finding.missing).Pairwise Path.Precedes := by
  rw [List.pairwise_flatMap]
  constructor
  · intro finding member
    obtain ⟨⟨name, console⟩, -, isFinding⟩ := (mem_results_iff ended).mp member
    obtain ⟨names, ascending, shape, -⟩ := missing_of_findingFor isFinding
    rw [shape, List.pairwise_map]
    exact ascending.imp fun {left right} less =>
      Path.precedes_ofSegments [gamesName, name] [] [] less
  · refine pairwise_results ended (pairwise_consoles volume card above) ?_
    rintro ⟨left, leftText⟩ ⟨right, rightText⟩ first second isFirst isSecond less
    intro one isOne two isTwo
    obtain ⟨leftNames, -, leftShape, -⟩ := missing_of_findingFor isFirst
    obtain ⟨rightNames, -, rightShape, -⟩ := missing_of_findingFor isSecond
    rw [leftShape] at isOne
    rw [rightShape] at isTwo
    obtain ⟨leftEntry, -, rfl⟩ := List.mem_map.mp isOne
    obtain ⟨rightEntry, -, rfl⟩ := List.mem_map.mp isTwo
    exact Path.precedes_ofSegments [gamesName] [leftEntry] [rightEntry] less

theorem mem_missing_iff (reached : volume.locate true card.games = .ok above)
    {found : List Finding}
    (ended : (consoles volume card above).map (findingFor volume card rules) = found.map .ok)
    {path : Path} :
    path ∈ found.flatMap Finding.missing ↔ IsMissing volume card rules path := by
  rw [List.mem_flatMap]
  constructor
  · rintro ⟨finding, member, isIn⟩
    obtain ⟨⟨name, console⟩, listed, isFinding⟩ := (mem_results_iff ended).mp member
    obtain ⟨names, -, shape, members⟩ := missing_of_findingFor isFinding
    rw [shape] at isIn
    obtain ⟨entry, isEntry, rfl⟩ := List.mem_map.mp isIn
    obtain ⟨kept, launcher, config, lacks⟩ := (members entry).mp isEntry
    obtain ⟨spelled, folder⟩ := (mem_consoles reached).mp listed
    exact ⟨name, console, launcher, entry, ⟨spelled, folder, kept⟩, config, lacks, rfl⟩
  · rintro ⟨name, console, launcher, entry, isConsole, config, lacks, rfl⟩
    obtain ⟨finding, member, isFinding⟩ :=
      exists_result ended ((mem_consoles reached).mpr ⟨isConsole.text, isConsole.folder⟩)
    obtain ⟨names, -, shape, members⟩ := missing_of_findingFor isFinding
    refine ⟨finding, member, ?_⟩
    rw [shape]
    exact List.mem_map_of_mem ((members entry).mpr ⟨isConsole.kept, launcher, config, lacks⟩)

/-- A report is exact.  It lists, in the strictly ascending order of paths and so each of them once,
the entries that should have a preview image and have none; it names, in ascending order, the
consoles that the launcher has no configuration for; and it counts the others. -/
theorem report_exact (volume : Volume) (card : Card) (rules : Rules) (result : AuditReport)
    (completed : report volume card rules = .ok result) :
    result.missing.Pairwise Path.Precedes ∧ result.missing.Nodup ∧
      (∀ path, path ∈ result.missing ↔ IsMissing volume card rules path) ∧
      (result.unconfigured.Pairwise fun left right => Utf8.encode left < Utf8.encode right) ∧
      (∀ console, console ∈ result.unconfigured ↔
        (∃ name, IsConsole volume card rules name console) ∧
          configOf volume card rules console = .ok none) ∧
      ∃ checked : List String, checked.Nodup ∧ result.examined = checked.length ∧
        ∀ console, console ∈ checked ↔
          (∃ name, IsConsole volume card rules name console) ∧
            ∃ launcher, configOf volume card rules console = .ok (some launcher) := by
  obtain ⟨above, found, reached, -, ended, rfl⟩ := report_eq_ok_iff.mp completed
  have ascending := pairwise_missing ended
  refine ⟨ascending, ?_, fun path => mem_missing_iff reached ended, ?_, fun console => ?_,
    found.filterMap examined?, ?_, countP_isExamined found, fun console => ?_⟩
  · exact ascending.imp fun {left right} before (same : left = right) =>
      right.not_precedes_self (same ▸ before)
  · exact pairwise_filterMap_findings reached ended
      fun name console finding other isFinding picked =>
        ((unconfigured?_of_findingFor isFinding).mp picked).1
  · exact mem_filterMap_findings reached ended fun name console finding other isFinding =>
      unconfigured?_of_findingFor isFinding
  · have ordered := pairwise_filterMap_findings reached ended
      fun name console finding other isFinding picked =>
        ((examined?_of_findingFor isFinding).mp picked).1
    exact ordered.imp fun {left right} less (same : left = right) =>
      List.lt_irrefl _ (same ▸ less)
  · exact mem_filterMap_findings reached ended fun name console finding other isFinding =>
      examined?_of_findingFor isFinding

/-- The name `Emu`. -/
def emuName : Name := ⟨[0x45, 0x6D, 0x75], by decide⟩

/-- The name `GB`. -/
def gameBoy : Name := ⟨[0x47, 0x42], by decide⟩

/-- The name `FC`. -/
def famicom : Name := ⟨[0x46, 0x43], by decide⟩

/-- The name `config.json`. -/
def configName : Name :=
  ⟨[0x63, 0x6F, 0x6E, 0x66, 0x69, 0x67, 0x2E, 0x6A, 0x73, 0x6F, 0x6E], by decide⟩

/-- The name `a.gb`. -/
def gameFile : Name := ⟨[0x61, 0x2E, 0x67, 0x62], by decide⟩

/-- The configuration `["gb"]`. -/
def gameBoyConfig : Bytes := [0x5B, 0x22, 0x67, 0x62, 0x22, 0x5D]

/-- A card with one game without an image, and a console without a configuration. -/
def smallCard : Volume where
  entries := [([gamesName], .folder Node.folderMode),
    ([gameBoy, gamesName], .folder Node.folderMode),
    ([gameFile, gameBoy, gamesName], .file Node.fileMode []),
    ([famicom, gamesName], .folder Node.folderMode),
    ([emuName], .folder Node.folderMode), ([gameBoy, emuName], .folder Node.folderMode),
    ([configName, gameBoy, emuName], .file Node.fileMode gameBoyConfig)]

/-- The report on the small card, and what its one entry means. -/
theorem report_smallCard :
    report smallCard ⟨.ofText "."⟩ .standard = .ok ⟨[gamePath gameBoy gameFile], ["FC"], 1⟩ ∧
      IsMissing smallCard ⟨.ofText "."⟩ .standard (gamePath gameBoy gameFile) := by
  have completed : report smallCard ⟨.ofText "."⟩ .standard =
      .ok ⟨[gamePath gameBoy gameFile], ["FC"], 1⟩ := by cbv
  obtain ⟨-, -, missing, -⟩ := report_exact _ _ _ _ completed
  exact ⟨completed, (missing _).mp List.mem_cons_self⟩

end Audit
end CardKeeper

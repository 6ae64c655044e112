import CardKeeper.Proofs.Audit.Change
import CardKeeper.Proofs.Audit.Streamed

/-!
# Consoles that are left out

To leave more consoles out of an audit takes their entries out of its report, and nothing else:
`report_of_skip`.  What the folders and configurations of consoles hold that are left out does not
matter to an audit at all: `report_of_agree`.  Both are parts of `skipped_consoles`.
-/

namespace CardKeeper
namespace Audit

open Volume

variable {volume left right : Volume} {card : Card} {rules : Rules} {above home location : Location}
  {name : Name} {console : String} {names skip : List String}

/-! ## Leaving more consoles out -/

/-- The console that a finding is about. -/
def consoleOf : Finding → String
  | .skipped console => console
  | .unconfigured console _ => console
  | .examined console _ => console

/-- A finding, or that its console is left out if it has one of the names. -/
def leavingOut (names : List String) (finding : Finding) : Finding :=
  if consoleOf finding ∈ names then .skipped (consoleOf finding) else finding

/-- The console to which an entry belongs that reports give. -/
def ownerOf? (path : Path) : Option String :=
  match path.segments with
  | [_, console, _] => Utf8.decode? console
  | _ => none

theorem ownerOf?_gamePath (text : name.bytes = Utf8.encode console) (entry : Name) :
    ownerOf? (gamePath name entry) = some console := by
  have segments : (gamePath name entry).segments = [gamesName.bytes, name.bytes, entry.bytes] :=
    Path.segments_ofSegments (List.cons_ne_nil gamesName [name, entry])
  rw [ownerOf?, segments]
  exact Utf8.decode?_eq_some_iff.mpr text

/-- Whether an entry belongs to a console with none of the names. -/
def belongsElsewhere (names : List String) (path : Path) : Bool :=
  (ownerOf? path).all fun console => console ∉ names

theorem consoleOf_of_findingFor {finding : Finding}
    (found : findingFor volume card rules (name, console) = .ok finding) :
    consoleOf finding = console := by
  rcases findingFor_cases found with ⟨-, rfl⟩ | ⟨-, -, rfl⟩ | ⟨-, launcher, names, -, -, rfl, -⟩ <;>
    rfl

/-- What is found out about a console is the same, or that it is left out. -/
theorem findingFor_of_skip (skips : ∀ other, other ∈ skip ↔ other ∈ rules.skip ∨ other ∈ names)
    {finding : Finding} (found : findingFor volume card rules (name, console) = .ok finding) :
    findingFor volume card { rules with skip := skip } (name, console) =
      .ok (leavingOut names finding) := by
  have own := consoleOf_of_findingFor found
  by_cases listed : console ∈ names
  · rw [leavingOut, own, if_pos listed]
    exact examine_of_skipped ((skips console).mpr (.inr listed))
  · rw [leavingOut, own, if_neg listed, ← found]
    by_cases skipped : console ∈ rules.skip
    · rw [findingFor, findingFor, examine_of_skipped skipped,
        examine_of_skipped ((skips console).mpr (.inl skipped))]
    · exact findingFor_of_kept skipped fun member =>
        ((skips console).mp member).elim skipped listed

theorem missing_leavingOut {finding : Finding} (text : name.bytes = Utf8.encode console)
    (found : findingFor volume card rules (name, console) = .ok finding) :
    (leavingOut names finding).missing = finding.missing.filter (belongsElsewhere names) := by
  have own := consoleOf_of_findingFor found
  obtain ⟨entries, -, shape, -⟩ := missing_of_findingFor found
  have belongs : ∀ path ∈ finding.missing,
      belongsElsewhere names path = decide (console ∉ names) := by
    intro path member
    rw [shape] at member
    obtain ⟨entry, -, rfl⟩ := List.mem_map.mp member
    rw [belongsElsewhere, ownerOf?_gamePath text, Option.all_some]
  rw [List.filter_congr belongs, leavingOut, own]
  by_cases listed : console ∈ names
  · simp [listed, Finding.missing]
  · simp [listed]

theorem unconfigured?_leavingOut (finding : Finding) :
    (leavingOut names finding).unconfigured? =
      finding.unconfigured?.filter fun console => console ∉ names := by
  by_cases listed : consoleOf finding ∈ names
  · cases finding <;> simp_all [leavingOut, consoleOf, Finding.unconfigured?, Option.filter]
  · cases finding <;> simp_all [leavingOut, consoleOf, Finding.unconfigured?, Option.filter]

theorem examined?_leavingOut (finding : Finding) :
    examined? (leavingOut names finding) =
      (examined? finding).filter fun console => console ∉ names := by
  by_cases listed : consoleOf finding ∈ names
  · cases finding <;> simp_all [leavingOut, consoleOf, examined?, Option.filter]
  · cases finding <;> simp_all [leavingOut, consoleOf, examined?, Option.filter]

/-- The report of an audit that leaves more consoles out has the entries of the others, and counts
fewer. -/
theorem ofFindings_leavingOut
    (reached : volume.locate true card.games = .ok above) {found : List Finding}
    (ended : (consoles volume card above).map (findingFor volume card rules) = found.map .ok)
    (names : List String) :
    AuditReport.ofFindings (found.map (leavingOut names)) =
      ⟨(AuditReport.ofFindings found).missing.filter (belongsElsewhere names),
        (AuditReport.ofFindings found).unconfigured.filter fun console => console ∉ names,
        (AuditReport.ofFindings found).examined -
          (found.filterMap examined?).countP fun console => console ∈ names⟩ := by
  have missing : (found.map (leavingOut names)).flatMap Finding.missing =
      (found.flatMap Finding.missing).filter (belongsElsewhere names) := by
    rw [List.flatMap_map, List.filter_flatMap]
    refine List.flatMap_congr fun finding member => ?_
    obtain ⟨⟨name, console⟩, listed, isFinding⟩ := (mem_results_iff ended).mp member
    exact missing_leavingOut ((mem_consoles reached).mp listed).1 isFinding
  have unconfigured : (found.map (leavingOut names)).filterMap Finding.unconfigured? =
      (found.filterMap Finding.unconfigured?).filter fun console => console ∉ names := by
    rw [List.filterMap_map, List.filter_filterMap]
    exact List.filterMap_congr fun finding _ => unconfigured?_leavingOut finding
  have examined : (found.map (leavingOut names)).filterMap examined? =
      (found.filterMap examined?).filter fun console => console ∉ names := by
    rw [List.filterMap_map, List.filter_filterMap]
    exact List.filterMap_congr fun finding _ => examined?_leavingOut finding
  have count := List.length_eq_countP_add_countP (l := found.filterMap examined?)
    fun console => decide (console ∈ names)
  simp only [AuditReport.ofFindings, missing, unconfigured, countP_isExamined, examined,
    AuditReport.mk.injEq, true_and]
  rw [count, ← List.countP_eq_length_filter]
  simp

/-- The consoles that an audit examines. -/
structure Checked (volume : Volume) (card : Card) (rules : Rules) (checked : List String) :
    Prop where
  /-- They are listed once. -/
  nodup : checked.Nodup
  /-- They are those that are not left out and that the launcher has a configuration for. -/
  members : ∀ console, console ∈ checked ↔ (∃ name, IsConsole volume card rules name console) ∧
    ∃ launcher, configOf volume card rules console = .ok (some launcher)

theorem checked_examined (reached : volume.locate true card.games = .ok above)
    {found : List Finding}
    (ended : (consoles volume card above).map (findingFor volume card rules) = found.map .ok) :
    Checked volume card rules (found.filterMap examined?) where
  nodup := by
    have ordered := pairwise_filterMap_findings reached ended
      fun name console finding other isFinding picked =>
        ((examined?_of_findingFor isFinding).mp picked).1
    exact ordered.imp fun {left right} less (same : left = right) =>
      List.lt_irrefl _ (same ▸ less)
  members console := mem_filterMap_findings reached ended
    fun name console finding other isFinding => examined?_of_findingFor isFinding

/-- To leave more consoles out of an audit takes their entries out of its report. -/
theorem report_of_skip (skips : ∀ other, other ∈ skip ↔ other ∈ rules.skip ∨ other ∈ names)
    {result : AuditReport} (completed : report volume card rules = .ok result) :
    ∃ checked, Checked volume card rules checked ∧ result.examined = checked.length ∧
      report volume card { rules with skip := skip } =
        .ok ⟨result.missing.filter (belongsElsewhere names),
          result.unconfigured.filter fun console => console ∉ names,
          result.examined - checked.countP fun console => console ∈ names⟩ := by
  obtain ⟨above, found, reached, folder, ended, rfl⟩ := report_eq_ok_iff.mp completed
  refine ⟨found.filterMap examined?, checked_examined reached ended, countP_isExamined found, ?_⟩
  rw [← ofFindings_leavingOut reached ended]
  refine report_eq_ok_iff.mpr ⟨above, _, reached, folder, ?_, rfl⟩
  have again (item : Name × String) (listed : item ∈ consoles volume card above) :
      findingFor volume card { rules with skip := skip } item =
        (findingFor volume card rules item).map (leavingOut names) := by
    obtain ⟨finding, -, isFinding⟩ := exists_result ended listed
    rw [isFinding, findingFor_of_skip skips isFinding]
    rfl
  rw [List.map_congr_left again, ← Function.comp_def, ← List.map_map, ended, List.map_map,
    List.map_map]
  rfl

/-! ## What consoles hold that are left out -/

/-- A location is in the folder of games of a console that is left out, or where the launcher keeps
its configuration. -/
def OfSkipped (rules : Rules) (home location : Location) : Prop :=
  ∃ console ∈ rules.skip, ∃ name : Name,
    (name.bytes = Utf8.encode console ∧ name :: gamesName :: home <:+ location) ∨
      (name.bytes = Utf8.encode (rules.configName console) ∧ name :: emuName :: home <:+ location)

/-- A path that comes upon what belongs to consoles that are left out starts with the names of a
folder of theirs. -/
theorem prefix_of_ofSkipped {path : List Name} (passed : location ∈ route home path)
    (skipped : OfSkipped rules home location) : ∃ console ∈ rules.skip, ∃ name : Name,
      (name.bytes = Utf8.encode console ∧ [gamesName, name] <+: path) ∨
        (name.bytes = Utf8.encode (rules.configName console) ∧ [emuName, name] <+: path) := by
  obtain ⟨console, left, name, ⟨text, more, rfl⟩ | ⟨text, more, rfl⟩⟩ := skipped
  · have onward : more ++ [name, gamesName] ++ home ∈ route home path := by simpa using passed
    have start : [gamesName, name] ++ more.reverse <+: path := by
      simpa using prefix_of_mem_route onward
    exact ⟨console, left, name, .inl ⟨text, (List.prefix_append _ _).trans start⟩⟩
  · have onward : more ++ [name, emuName] ++ home ∈ route home path := by simpa using passed
    have start : [emuName, name] ++ more.reverse <+: path := by
      simpa using prefix_of_mem_route onward
    exact ⟨console, left, name, .inr ⟨text, (List.prefix_append _ _).trans start⟩⟩

/-- Two volumes with the same card, but for what belongs to consoles that are left out. -/
structure AgreeOnKept (left right : Volume) (card : Card) (rules : Rules) (home : Location) :
    Prop where
  /-- The path of the card leads to the location. -/
  opens : left.Opens card.root home
  /-- It does so in both volumes. -/
  opensToo : right.Opens card.root home
  /-- No link stands in the card. -/
  free : left.LinkFree home
  /-- What does not belong to consoles that are left out is the same. -/
  agree : ∀ location, right.node? location = left.node? location ∨ OfSkipped rules home location
  /-- The launcher keeps the configurations of the other consoles elsewhere. -/
  unshared : ∀ name console, IsConsole left card rules name console → ∀ skipped ∈ rules.skip,
    rules.configName console ≠ rules.configName skipped

namespace AgreeOnKept

variable (same : AgreeOnKept left right card rules home)

include same

/-- A path in the card leads to the same in both volumes if it does not come upon what belongs to
consoles that are left out. -/
theorem status?_eq {path : List Name} (some : path ≠ [])
    (apart : ∀ location ∈ route home path, ¬ OfSkipped rules home location) :
    right.status? (card.root.descend path) = left.status? (card.root.descend path) :=
  status?_descend_congr same.opensToo same.opens same.free some fun location passed =>
    (same.agree location).resolve_right (apart location passed)

theorem agree_games : right.node? (gamesName :: home) = left.node? (gamesName :: home) := by
  refine (same.agree _).resolve_right fun skipped => ?_
  have passed : gamesName :: home ∈ route home [gamesName] := List.mem_cons_self
  obtain ⟨console, -, name, ⟨-, start⟩ | ⟨-, start⟩⟩ := prefix_of_ofSkipped passed skipped
  · simp at start
  · simp at start

theorem locate_games : right.locate true card.games = left.locate true card.games := by
  have below : ∀ location ∈ route home [gamesName],
      right.node? location = left.node? location := by
    intro location passed
    obtain rfl : location = gamesName :: home := List.mem_singleton.mp passed
    exact same.agree_games
  exact locate_descend_congr same.opensToo same.opens same.free (List.cons_ne_nil _ _) rfl below

/-- A path to a console that is not left out leads to the same in both volumes. -/
theorem status?_of_kept (text : name.bytes = Utf8.encode console) (kept : console ∉ rules.skip)
    (below : List Name) :
    right.status? (card.root.descend (gamesName :: name :: below)) =
      left.status? (card.root.descend (gamesName :: name :: below)) := by
  refine same.status?_eq (List.cons_ne_nil _ _) fun location passed skipped => ?_
  obtain ⟨other, left, folder, ⟨spelled, start⟩ | ⟨-, start⟩⟩ := prefix_of_ofSkipped passed skipped
  · obtain rfl : folder = name := by simpa using start
    exact kept (Utf8.encode_injective (spelled.symm.trans text) ▸ left)
  · have tops : emuName = gamesName := (List.cons_prefix_cons.mp start).1
    exact absurd tops (by decide)

theorem isConsole_iff :
    IsConsole right card rules name console ↔ IsConsole left card rules name console := by
  have folders (text : name.bytes = Utf8.encode console) (kept : console ∉ rules.skip) :
      right.isFolder (card.games.entry name.bytes) = left.isFolder (card.games.entry name.bytes) :=
    isFolder_congr (same.status?_of_kept text kept [])
  constructor
  · rintro ⟨text, folder, kept⟩
    exact ⟨text, folders text kept ▸ folder, kept⟩
  · rintro ⟨text, folder, kept⟩
    exact ⟨text, (folders text kept).trans folder, kept⟩

theorem configOf_eq (plain : PlainConfigs rules)
    (isConsole : IsConsole left card rules name console) :
    configOf right card rules console = configOf left card rules console := by
  refine configOf_congr plain isConsole.text fun launcherName spelled => ?_
  refine same.status?_eq (List.cons_ne_nil _ _) fun location passed skipped => ?_
  obtain ⟨other, left, folder, ⟨-, start⟩ | ⟨text, start⟩⟩ := prefix_of_ofSkipped passed skipped
  · have tops : gamesName = emuName := (List.cons_prefix_cons.mp start).1
    exact absurd tops (by decide)
  · obtain rfl : folder = launcherName := by simpa using start
    exact same.unshared name console isConsole other left
      (Utf8.encode_injective (spelled.symm.trans text))

/-- A console that is not left out is found to have the same. -/
theorem findingFor_eq (plain : PlainConfigs rules)
    (isConsole : IsConsole left card rules name console) :
    findingFor right card rules (name, console) = findingFor left card rules (name, console) := by
  have inside (entry : Name) (below : List Name) :
      right.status? (card.root.descend (gamesName :: name :: entry :: below)) =
        left.status? (card.root.descend (gamesName :: name :: entry :: below)) :=
    same.status?_of_kept isConsole.text isConsole.kept (entry :: below)
  have wants (launcher : Launcher) (entry : Name) :
      WantsImage right card rules name launcher entry ↔
        WantsImage left card rules name launcher entry := by
    have folder : right.isFolder ((card.games.entry name.bytes).entry entry.bytes) =
        left.isFolder ((card.games.entry name.bytes).entry entry.bytes) :=
      isFolder_congr (inside entry [])
    have file : right.isFile ((card.games.entry name.bytes).entry entry.bytes) =
        left.isFile ((card.games.entry name.bytes).entry entry.bytes) :=
      isFile_congr (inside entry [])
    simp only [WantsImage, folder, file]
  have images (entry : Name) : right.contains (wantedImage card rules (gamePath name entry)) =
      left.contains (wantedImage card rules (gamePath name entry)) := by
    rw [contains, contains, wantedImage_eq_descend, inside imagesName]
  have lacks (launcher : Launcher) (entry : Name) :
      LacksImage right card rules name console launcher entry ↔
        LacksImage left card rules name console launcher entry ∧ true = true := by
    rw [lacksImage_iff isConsole.text, lacksImage_iff isConsole.text, wants, images]
    simp
  have again : findingFor right card rules (name, console) =
      (findingFor left card rules (name, console)).map (Finding.keeping fun _ => true) :=
    findingFor_keeping isConsole.folder (same.isConsole_iff.mpr isConsole).folder
      (fun _ => same.configOf_eq plain isConsole) fun _ launcher _ entry => lacks launcher entry
  rw [again]
  cases findingFor left card rules (name, console) with
  | error error => rfl
  | ok finding => exact congrArg Except.ok (keeping_true finding)

/-- The folder of games is where it is in the other volume, if it is anywhere. -/
theorem isFolderAt_games (reached : left.locate true card.games = .ok above) :
    right.isFolderAt above = left.isFolderAt above := by
  have accepted := (locate_eq_ok_iff.mp reached).1
  obtain ⟨links, walked⟩ := same.opens.locate_descend (List.cons_ne_nil gamesName []) accepted
  obtain rfl : above = gamesName :: home := eq_of_walk same.free (walked.symm.trans reached)
  rw [isFolderAt, isFolderAt, same.agree_games]

/-- The folder of games can be listed in both volumes, or in neither for the same reason. -/
theorem list_games {fault : Fault} (unlisted : left.list card.games = .error fault) :
    right.list card.games = .error fault := by
  unfold list at unlisted ⊢
  rw [same.locate_games]
  cases reached : left.locate true card.games with
  | error cause =>
      rw [reached] at unlisted
      exact unlisted
  | ok above =>
      rw [reached] at unlisted
      simp only [Except.bind, same.isFolderAt_games reached] at unlisted ⊢
      split at unlisted
      · cases unlisted
      · next closed => rw [if_neg closed, unlisted]

/-- An audit does the same work in both volumes. -/
theorem gather_eq (plain : PlainConfigs rules) (reached : left.locate true card.games = .ok above) :
    gather (findingFor right card rules) (scanned right card rules above) =
      gather (findingFor left card rules) (scanned left card rules above) := by
  have scan : Scan left card rules (scanned left card rules above) := scan_scanned reached
  have scans : scanned right card rules above = scanned left card rules above :=
    (scan_scanned (same.locate_games.trans reached)).eq_of_isConsole_iff scan
      fun name console => same.isConsole_iff
  rw [scans]
  exact gather_congr fun item member =>
    same.findingFor_eq plain ((scan.members item.1 item.2).mp member)

end AgreeOnKept

theorem findings_of_unlisted {fault : Fault} (unlisted : volume.list card.games = .error fault) :
    findings volume card rules = ⟨[], some (.unlisted card.games fault)⟩ := by
  simp only [findings, entries, sortedEntries, unlisted, Except.map, Except.mapError]

/-- What the folders and configurations of consoles hold that are left out does not matter. -/
theorem report_of_agree (same : AgreeOnKept left right card rules home)
    (plain : PlainConfigs rules) :
    report right card rules = report left card rules ∧
      streamed right card rules = streamed left card rules := by
  cases listed : left.list card.games with
  | error fault =>
      simp only [report, streamed, findings_of_unlisted listed,
        findings_of_unlisted (same.list_games listed), and_self]
  | ok names =>
      obtain ⟨above, reached, folder, -⟩ := list_eq_ok_iff.mp listed
      obtain ⟨told, reported⟩ := report_eq_scanned rules reached folder
      obtain ⟨toldToo, reportedToo⟩ := report_eq_scanned rules (same.locate_games.trans reached)
        ((same.isFolderAt_games reached).trans folder)
      rw [reported, reportedToo, told, toldToo, same.gather_eq plain reached]
      exact ⟨rfl, rfl⟩

/-! ## Both sides of leaving consoles out -/

/-- Consoles that are left out have no influence on an audit.  To leave more of them out of an audit
that comes to its end takes exactly their entries out of its report, in which the others keep their
order, and it counts that many consoles less.  And on two cards without links, whose root leads to
the same folder, and which agree on everything but the folders of games of consoles that are left
out and the launcher's configurations of them, an audit comes to the same end and tells the same
entries, as long as these configurations belong to no other console. -/
theorem skipped_consoles (card : Card) (rules : Rules) :
    (∀ volume names skip result,
      (∀ other, other ∈ skip ↔ other ∈ rules.skip ∨ other ∈ names) →
        report volume card rules = .ok result →
          ∃ checked, Checked volume card rules checked ∧ result.examined = checked.length ∧
            report volume card { rules with skip := skip } =
              .ok ⟨result.missing.filter (belongsElsewhere names),
                result.unconfigured.filter fun console => console ∉ names,
                result.examined - checked.countP fun console => console ∈ names⟩) ∧
      ∀ left right home, AgreeOnKept left right card rules home → PlainConfigs rules →
        report right card rules = report left card rules ∧
          streamed right card rules = streamed left card rules :=
  ⟨fun _ _ _ _ skips completed => report_of_skip skips completed,
    fun _ _ _ same plain => report_of_agree same plain⟩

theorem configName_standard (console : String) :
    Rules.standard.configName console = if console = "PS" then "PSX" else console := by
  have entries : Rules.standard.aliases.entries = [("PS", "PSX")] := by cbv
  by_cases aliased : console = "PS"
  · simp [Rules.configName, Aliases.find?, entries, aliased]
  · simp [Rules.configName, Aliases.find?, entries, aliased, Ne.symm aliased]

/-- No other console has the configuration of one that the standard rules leave out. -/
theorem configName_standard_ne {skipped : String} (kept : console ∉ Rules.standard.skip)
    (left : skipped ∈ Rules.standard.skip) :
    Rules.standard.configName console ≠ Rules.standard.configName skipped := by
  have plain : skipped ≠ "PS" ∧ skipped ≠ "PSX" := by
    simp only [Rules.standard, List.mem_cons, List.not_mem_nil, or_false] at left
    rcases left with rfl | rfl | rfl <;> decide
  rw [configName_standard, configName_standard, if_neg plain.1]
  split
  · exact Ne.symm plain.2
  · rintro rfl
    exact kept left

/-- The name `DOS`. -/
def dosName : Name := ⟨[0x44, 0x4F, 0x53], by decide⟩

/-- The name `sub`. -/
def subName : Name := ⟨[0x73, 0x75, 0x62], by decide⟩

/-- The small card with a console that is left out. -/
def dosCard : Volume where
  entries := smallCard.entries ++ [([dosName, gamesName], .folder Node.folderMode)]

/-- The same with a folder in that console's folder. -/
def subCard : Volume where
  entries := dosCard.entries ++ [([subName, dosName, gamesName], .folder Node.folderMode)]

/-- The same as `dosCard` with a broken configuration of the console. -/
def strayCard : Volume where
  entries := dosCard.entries ++ [([dosName, emuName], .folder Node.folderMode),
    ([configName, dosName, emuName], .file Node.fileMode [0x5B])]

/-- Entries that belong to consoles that are left out can be added. -/
theorem agree_of_append {more : List (Location × Node)}
    (entries : right.entries = left.entries ++ more)
    (belong : ∀ entry ∈ more, OfSkipped rules home entry.1) (location : Location) :
    right.node? location = left.node? location ∨ OfSkipped rules home location := by
  cases location with
  | nil => exact .inl rfl
  | cons name above =>
      simp only [node?, entries, find?_append]
      cases find? (name :: above) left.entries with
      | some node => exact .inl rfl
      | none =>
          cases added : find? (name :: above) more with
          | none => exact .inl rfl
          | some node => exact .inr (belong _ (mem_of_find? added))

theorem skipped_dos : "DOS" ∈ Rules.standard.skip := by decide

/-- The audit of the small card that also leaves out the console that has a game, and the audit of
a card with a broken configuration that does not matter. -/
theorem skipped_consoles_smallCard :
    (∃ result, report smallCard ⟨.ofText "."⟩
        { Rules.standard with skip := "GB" :: Rules.standard.skip } = .ok result ∧
      result.missing = [] ∧ result.unconfigured = ["FC"]) ∧
    report strayCard ⟨.ofText "."⟩ .standard =
      .ok ⟨[gamePath gameBoy gameFile], ["FC"], 1⟩ := by
  have completed : report smallCard ⟨.ofText "."⟩ .standard =
      .ok ⟨[gamePath gameBoy gameFile], ["FC"], 1⟩ := by cbv
  have same : AgreeOnKept dosCard strayCard ⟨.ofText "."⟩ .standard [] := {
    opens := by cbv
    opensToo := by cbv
    free := fun location _ => node?_ne_link (by decide) location
    agree := agree_of_append rfl fun entry member => by
      have inside : [dosName, emuName] <:+ entry.1 := by
        simp only [List.mem_cons, List.not_mem_nil, or_false] at member
        rcases member with rfl | rfl
        · exact List.suffix_rfl
        · exact List.suffix_cons configName _
      exact ⟨"DOS", skipped_dos, dosName, .inr ⟨by cbv, inside⟩⟩
    unshared := fun _ _ isConsole _ left => configName_standard_ne isConsole.kept left }
  obtain ⟨checked, -, -, fewer⟩ := (skipped_consoles ⟨.ofText "."⟩ .standard).1 smallCard ["GB"]
    ("GB" :: Rules.standard.skip) _ (fun other => by simp [or_comm]) completed
  have unmoved := ((skipped_consoles ⟨.ofText "."⟩ .standard).2 dosCard strayCard [] same
    plainConfigs_standard).1
  have dropped : [gamePath gameBoy gameFile].filter (belongsElsewhere ["GB"]) = [] := by cbv
  exact ⟨⟨_, fewer, dropped, by simp⟩, unmoved.trans (by cbv)⟩

/-- A card whose root is spelled by way of a folder of a console that is left out. -/
def detour : Card :=
  ⟨.ofText "Roms/DOS/sub/../../.."⟩

/-- A folder in the folder of a console that is left out matters to an audit if the path of the card
goes through it. -/
theorem report_differs_detour :
    subCard.LinkFree [] ∧ dosCard.LinkFree [] ∧ PlainConfigs .standard ∧
      (∀ location, subCard.node? location = dosCard.node? location ∨
        OfSkipped .standard [] location) ∧
      (∀ console ∉ Rules.standard.skip, ∀ skipped ∈ Rules.standard.skip,
        Rules.standard.configName console ≠ Rules.standard.configName skipped) ∧
      report subCard detour .standard = .ok ⟨[gamePath gameBoy gameFile], ["FC"], 1⟩ ∧
      report dosCard detour .standard ≠ report subCard detour .standard := by
  have found : report subCard detour .standard =
      .ok ⟨[gamePath gameBoy gameFile], ["FC"], 1⟩ := by cbv
  have broken : (report dosCard detour .standard).isOk = false := by cbv
  refine ⟨fun location _ => node?_ne_link (by decide) location,
    fun location _ => node?_ne_link (by decide) location, plainConfigs_standard,
    agree_of_append rfl fun entry member => ?_,
    fun _ kept _ left => configName_standard_ne kept left, found, fun same => ?_⟩
  · rw [List.mem_singleton.mp member]
    exact ⟨"DOS", skipped_dos, dosName, .inl ⟨by decide, List.suffix_cons subName _⟩⟩
  · rw [same, found] at broken
    cases broken

end Audit
end CardKeeper

import Mathlib
import CardKeeper.Program
import CardKeeper.Proofs.Activity
import CardKeeper.Proofs.Audit.Streamed
import CardKeeper.Proofs.Path.Extension

/-!
# What the program writes

Results and shown events share the standard output.  Of the events that can come about while images
are looked for, only the warning about the settings file is important enough to be shown without
`--verbose`, and it comes before everything else.  So the output is that warning, if there is one,
and then the entries without an image: `output_missingImgs`.
-/

namespace CardKeeper

/-- No event among some notices is more important than the details of the work. -/
def IsSubdued (notices : List Notice) : Prop :=
  ∀ event, .event event ∈ notices → event.level = .debug

namespace Audit

open Volume

variable {volume : Volume} {card : Card} {rules : Rules}

theorem isSubdued_notices : IsSubdued (notices volume card rules) := by
  intro event member
  obtain ⟨finding, -, told⟩ := List.mem_flatMap.mp member
  rcases List.mem_append.mp told with happened | line
  · obtain ⟨other, among, same⟩ := List.mem_map.mp happened
    cases same
    cases finding with
    | skipped console =>
        cases List.mem_singleton.mp among
        rfl
    | unconfigured console config =>
        cases List.mem_singleton.mp among
        rfl
    | examined console missing => cases among
  · obtain ⟨path, -, other⟩ := List.mem_map.mp line
    cases other

/-- No folder of games and no entry of one has a line break in its name. -/
def FitsLines (volume : Volume) (card : Card) : Prop :=
  ∀ names, volume.list card.games = .ok names → ∀ name ∈ names, Utf8.lineFeed ∉ name.bytes ∧
    ∀ inner, volume.list (card.games.entry name.bytes) = .ok inner →
      ∀ entry ∈ inner, Utf8.lineFeed ∉ entry.bytes

theorem lineFeed_not_mem_of_streamed (fits : FitsLines volume card) {path : Path}
    (member : path ∈ streamed volume card rules) : Utf8.lineFeed ∉ path.bytes := by
  obtain ⟨names, name, inner, entry, listed, named, inside, among, rfl⟩ := of_mem_streamed member
  obtain ⟨first, rest⟩ := fits names listed name named
  have second := rest inner inside entry among
  have fixed : Utf8.lineFeed ∉ gamesName.bytes := by decide
  have separator : Utf8.lineFeed ≠ Path.slash := by decide
  simp [gamePath, Path.ofSegments, List.intercalate, first, second, fixed, separator]

end Audit

namespace Program

variable {environment : Environment} {settings : Settings} {arguments : List String}
  {folder : Option Path} {quiet : Bool} {volume : Volume} {notices : List Notice}
  {time : Option String}

theorem output_append (filter : LogFilter) (left right : List Notice) :
    output filter time (left ++ right) = output filter time left ++ output filter time right := by
  rw [output, List.map_append, String.join_append]
  rfl

/-- Without `--verbose` the details of the work are not shown. -/
theorem shows_of_debug (quiet : Bool) {event : Event} (detail : event.level = .debug) :
    (LogFilter.ofFlags quiet false).shows event = false := by
  cases quiet <;> simp [LogFilter.shows, LogFilter.ofFlags, LogFilter.choose, LogFilter.covers,
    detail, Level.rank]

/-- Warnings are always shown. -/
theorem shows_of_warn (quiet : Bool) {event : Event} (warning : event.level = .warn) :
    (LogFilter.ofFlags quiet false).shows event = true := by
  cases quiet <;> simp [LogFilter.shows, LogFilter.ofFlags, LogFilter.choose, LogFilter.covers,
    warning, Level.rank]

theorem output_of_shown {filter : LogFilter} {event : Event} (time : Option String)
    (shown : filter.shows event = true) :
    output filter time [.event event] = Text.plain (asLine (event.line time)) := by
  rw [output, List.map_singleton, String.join_cons, String.join_nil, String.append_empty]
  exact if_pos shown

/-- Of details only the lines between them are written. -/
theorem output_of_isSubdued (time : Option String) (subdued : IsSubdued notices) :
    output (LogFilter.ofFlags quiet false) time notices =
      String.join ((linesOf notices).map asLine) := by
  induction notices with
  | nil => rfl
  | cons notice rest ih =>
      have later := ih fun event member => subdued event (List.mem_cons_of_mem _ member)
      rw [output] at later ⊢
      rw [List.map_cons, String.join_cons, later]
      cases notice with
      | event event =>
          have hidden := shows_of_debug quiet (subdued event List.mem_cons_self)
          simp [hidden, linesOf]
      | line text => simp [linesOf]
      | complaint text => simp [linesOf]

/-- The notices of a search for images: details, and the entries without an image as lines. -/
theorem missingImgs_notices (environment : Environment) (settings : Settings)
    (folder : Option Path) (volume : Volume) :
    let notices := (missingImgs environment settings folder volume).notices
    let card : Card := ⟨settings.cardFolder folder environment.current⟩
    IsSubdued notices ∧
      linesOf notices = (Audit.streamed volume card settings.layout).map Path.display := by
  intro notices card
  have parts : ∃ last : List Notice, notices =
      .event (.checking card.root) :: (Audit.notices volume card settings.layout ++ last) ∧
        IsSubdued last ∧ linesOf last = [] := by
    simp only [notices, missingImgs, bind, Activity.andThen, Activity.tell, Activity.look,
      Activity.announce, Activity.demand, List.nil_append]
    cases Audit.report volume card settings.layout with
    | error error => exact ⟨[], by simp [Except.mapError, card], by simp [IsSubdued], rfl⟩
    | ok report =>
        refine ⟨.event (.checked report.examined report.missing.length) ::
          if report.unconfigured.isEmpty then []
          else [.event (.unconfiguredAll report.unconfigured)], ?_⟩
        cases unconfigured : report.unconfigured.isEmpty with
        | true =>
            simp [Except.mapError, unconfigured, pure, Activity.done, card, IsSubdued, Event.level,
              linesOf]
        | false =>
            simp [Except.mapError, unconfigured, pure, Activity.done, Activity.andThen,
              Activity.tell, card, IsSubdued, Event.level, linesOf]
  obtain ⟨last, whole, subdued, silent⟩ := parts
  rw [whole]
  constructor
  · intro event member
    rcases List.mem_cons.mp member with first | rest
    · cases first
      rfl
    · rcases List.mem_append.mp rest with told | ended
      · exact Audit.isSubdued_notices event told
      · exact subdued event ended
  · have first : linesOf [.event (.checking card.root)] = [] := rfl
    rw [← List.singleton_append, linesOf_append, linesOf_append, first, Audit.linesOf_notices, silent,
      List.append_nil, List.nil_append]

/-- What is written about the settings file: a warning with a diagnosis if it is a text that holds no
settings. -/
def settingsWarning (diagnosis : String → String) (file : Path) (volume : Volume) : String :=
  match volume.readText file with
  | .error _ => ""
  | .ok text =>
      match Settings.parse? text with
      | .ok _ => ""
      | .error _ => Text.plain ("Ignoring " ++ file.display ++ ": " ++ diagnosis text ++ "\n")

/-- Without `--verbose` the warning about the settings file is shown. -/
theorem output_load (quiet : Bool) (diagnosis : String → String) (file : Path) (volume : Volume) :
    output (LogFilter.ofFlags quiet false) none (Settings.load file volume diagnosis).2 =
      settingsWarning diagnosis file volume := by
  unfold Settings.load settingsWarning
  cases volume.readText file with
  | error fault => rfl
  | ok text =>
      dsimp only
      cases Settings.parse? text with
      | ok settings => rfl
      | error problem =>
          dsimp only
          exact output_of_shown none (shows_of_warn quiet rfl)

theorem splitOn_join_lines {lines : List String} (plain : ∀ line ∈ lines, '\n' ∉ line.toList) :
    (String.join (lines.map asLine)).toList.splitOn '\n' = lines.map String.toList ++ [[]] := by
  have joined : (String.join (lines.map asLine)).toList =
      ['\n'].intercalate (lines.map String.toList ++ [[]]) := by
    rw [Path.intercalate_concat, List.append_nil, String.toList_join, List.flatMap_map,
      List.flatMap_map]
    simp only [asLine, String.toList_append]
    rfl
  rw [joined, List.splitOn_intercalate]
  · intro line member
    rcases List.mem_append.mp member with inside | last
    · obtain ⟨text, given, rfl⟩ := List.mem_map.mp inside
      exact plain text given
    · rw [List.mem_singleton.mp last]
      exact List.not_mem_nil
  · simp

/-- A search for images writes the warning and then a line for each entry. -/
theorem output_of_read (environment : Environment) (volume : Volume)
    (read : Command.read arguments = .ok ⟨quiet, false, .missingImgs folder⟩)
    (unset : environment.log = none) :
    let settings := (Settings.load environment.settingsFile volume environment.diagnosis).1
    let card : Card := ⟨settings.cardFolder folder environment.current⟩
    (run environment arguments volume).output =
      settingsWarning environment.diagnosis environment.settingsFile volume ++
        String.join
          (((Audit.streamed volume card settings.layout).map Path.display).map asLine) := by
  intro settings card
  obtain ⟨subdued, told⟩ := missingImgs_notices environment settings folder volume
  have split : (run environment arguments volume).output =
      output (LogFilter.ofFlags quiet false) none
        ((Settings.load environment.settingsFile volume environment.diagnosis).2 ++
          (missingImgs environment settings folder volume).notices) := by
    simp only [run, read, unset, runInvocation, bind, Activity.andThen, Activity.look,
      Activity.announce, runCommand, List.nil_append]
    rfl
  rw [split, output_append, output_load, output_of_isSubdued none subdued, told]

/-- Without `--verbose` and directives for the log, the output of a search for images is the warning
about the settings file, if there is one, and then one line for each entry that the audit tells to
be missing, whether the audit comes to its end or not. -/
theorem output_missingImgs (environment : Environment) (arguments : List String)
    (volume : Volume) (quiet : Bool) (folder : Option Path)
    (read : Command.read arguments = .ok ⟨quiet, false, .missingImgs folder⟩)
    (unset : environment.log = none) :
    let settings := (Settings.load environment.settingsFile volume environment.diagnosis).1
    let card : Card := ⟨settings.cardFolder folder environment.current⟩
    let lines := (Audit.streamed volume card settings.layout).map Path.display
    let data := String.join (lines.map fun line => line ++ "\n")
    (run environment arguments volume).output =
        settingsWarning environment.diagnosis environment.settingsFile volume ++ data ∧
      (Audit.FitsLines volume card →
        data.toList.splitOn '\n' = lines.map String.toList ++ [[]]) := by
  intro settings card lines data
  refine ⟨output_of_read environment volume read unset, fun fits => ?_⟩
  refine splitOn_join_lines fun line member broken => ?_
  obtain ⟨path, streamed, rfl⟩ := List.mem_map.mp member
  exact Audit.lineFeed_not_mem_of_streamed fits streamed (Utf8.lineFeed_mem_of_mem_display broken)

/-- The small card has no line break in a name. -/
theorem fitsLines_smallCard : Audit.FitsLines Audit.smallCard ⟨.ofText "."⟩ := by
  have games : Audit.smallCard.list (Card.games ⟨.ofText "."⟩) =
      .ok [Audit.gameBoy, Audit.famicom] := by cbv
  have first : Audit.smallCard.list ((Card.games ⟨.ofText "."⟩).entry Audit.gameBoy.bytes) =
      .ok [Audit.gameFile] := by cbv
  have second : Audit.smallCard.list ((Card.games ⟨.ofText "."⟩).entry Audit.famicom.bytes) =
      .ok [] := by cbv
  intro names listed name member
  cases listed.symm.trans games
  rcases List.mem_pair.mp member with rfl | rfl
  · refine ⟨by decide, fun inner inside entry among => ?_⟩
    cases inside.symm.trans first
    cases List.mem_singleton.mp among
    decide
  · refine ⟨by decide, fun inner inside entry among => ?_⟩
    cases inside.symm.trans second
    cases among

/-- The surroundings of a program whose settings are looked up in the top folder. -/
def surroundings (diagnosis : String → String) : Environment where
  home := none
  account := none
  configuration := some ⟨[Path.slash]⟩
  temporary := ⟨[Path.slash]⟩
  current := .ofText "."
  log := none
  programs := ⟨[], fun _ _ volume => (.error .notFound, volume)⟩
  time := ""
  diagnosis := diagnosis

theorem standardCard (diagnosis : String → String) :
    Audit.streamed volume ⟨Settings.standard.cardFolder none (surroundings diagnosis).current⟩
      Settings.standard.layout = Audit.streamed volume ⟨.ofText "."⟩ .standard :=
  rfl

/-- Without a settings file the output for the small card is its one entry without an image, in a
line of its own. -/
theorem output_smallCard :
    Command.read ["missing-imgs"] = .ok ⟨false, false, .missingImgs none⟩ ∧
      (surroundings id).log = none ∧ Audit.FitsLines Audit.smallCard ⟨.ofText "."⟩ ∧
      (run (surroundings id) ["missing-imgs"] Audit.smallCard).output = "Roms/GB/a.gb\n" ∧
      "Roms/GB/a.gb\n".toList.splitOn '\n' = ["Roms/GB/a.gb".toList, []] := by
  have read : Command.read ["missing-imgs"] = .ok ⟨false, false, .missingImgs none⟩ := by cbv
  have loaded : (Settings.load (surroundings id).settingsFile Audit.smallCard
      (surroundings id).diagnosis).1 = .standard := by cbv
  have silent : settingsWarning (surroundings id).diagnosis (surroundings id).settingsFile
      Audit.smallCard = "" := by cbv
  have streamed : Audit.streamed Audit.smallCard ⟨.ofText "."⟩ .standard =
      [Audit.gamePath Audit.gameBoy Audit.gameFile] := by cbv
  have shown : (Audit.gamePath Audit.gameBoy Audit.gameFile).display = "Roms/GB/a.gb" := by cbv
  have exact := output_missingImgs (surroundings id) _ Audit.smallCard false none read rfl
  simp only [loaded, standardCard, streamed, silent, List.map_cons, List.map_nil, shown] at exact
  exact ⟨read, rfl, fitsLines_smallCard, exact.1, exact.2 fitsLines_smallCard⟩

/-- The name `miyoo-junk`. -/
def appName : Name :=
  ⟨[0x6D, 0x69, 0x79, 0x6F, 0x6F, 0x2D, 0x6A, 0x75, 0x6E, 0x6B], by decide⟩

/-- The name `settings.toml`. -/
def settingsName : Name :=
  ⟨[0x73, 0x65, 0x74, 0x74, 0x69, 0x6E, 0x67, 0x73, 0x2E, 0x74, 0x6F, 0x6D, 0x6C], by decide⟩

/-- A card without games, and a settings file that holds a single word. -/
def wordCard : Volume where
  entries := [([Audit.gamesName], .folder Node.folderMode), ([appName], .folder Node.folderMode),
    ([settingsName, appName], .file Node.fileMode [0x78])]

/-- A settings file that holds no settings is told of where only results are expected, whatever the
diagnosis is. -/
theorem output_wordCard :
    Command.read ["missing-imgs"] = .ok ⟨false, false, .missingImgs none⟩ ∧
      Audit.FitsLines wordCard ⟨.ofText "."⟩ ∧
      ∀ diagnosis : String → String,
        let environment := surroundings diagnosis
        environment.log = none ∧
          Audit.streamed wordCard ⟨.ofText "."⟩
            (Settings.load environment.settingsFile wordCard environment.diagnosis).1.layout = [] ∧
          (run environment ["missing-imgs"] wordCard).output =
            "Ignoring /miyoo-junk/settings.toml: " ++ Text.plain (diagnosis "x" ++ "\n") := by
  have read : Command.read ["missing-imgs"] = .ok ⟨false, false, .missingImgs none⟩ := by cbv
  have games : wordCard.list (Card.games ⟨.ofText "."⟩) = .ok [] := by cbv
  have streamed : Audit.streamed wordCard ⟨.ofText "."⟩ .standard = [] := by cbv
  have wrong : Settings.parse? "x" = .error .malformed := by cbv
  have visible : "Ignoring /miyoo-junk/settings.toml: ".toList.all Text.isVisible = true := by
    decide +kernel
  refine ⟨read, fun names listed name member => ?_, fun diagnosis => ?_⟩
  · cases listed.symm.trans games
    cases member
  have text : wordCard.readText (surroundings diagnosis).settingsFile = .ok "x" := by cbv
  have shown : (surroundings diagnosis).settingsFile.display = "/miyoo-junk/settings.toml" := by
    cbv
  have loaded : (Settings.load (surroundings diagnosis).settingsFile wordCard
      (surroundings diagnosis).diagnosis).1 = .standard := by
    simp only [Settings.load, text, wrong]
  have warning : settingsWarning (surroundings diagnosis).diagnosis
      (surroundings diagnosis).settingsFile wordCard =
        "Ignoring /miyoo-junk/settings.toml: " ++ Text.plain (diagnosis "x" ++ "\n") := by
    rw [← Text.plain_append_of_visible (List.all_eq_true.mp visible)]
    simp only [settingsWarning, text, wrong, shown, String.append_assoc]
    rfl
  have written := output_of_read (surroundings diagnosis) wordCard read rfl
  simp only [loaded, warning, standardCard, streamed, List.map_nil, String.join_nil,
    String.append_empty] at written
  refine ⟨rfl, ?_, written⟩
  rw [loaded]
  exact streamed

end Program
end CardKeeper

import CardKeeper.Proofs.Audit
import CardKeeper.Proofs.Volume.Descent

/-!
# Audits before and after a change

Files laid over sites leave the folders as they were.  If they are not laid directly in the folder
of games either, an audit comes upon the same consoles, and what it finds differs only in the
entries that lack an image: `findings_keeping`.  On a card without links these depend on what stands
at a few locations below the card's top folder.
-/

namespace CardKeeper

/-- A finding with only some of its entries. -/
def Finding.keeping (keep : Path → Bool) : Finding → Finding
  | .examined console missing => .examined console (missing.filter keep)
  | other => other

/-- A report with only some of its entries. -/
def AuditReport.keeping (keep : Path → Bool) (report : AuditReport) : AuditReport :=
  { report with missing := report.missing.filter keep }

namespace Audit

open Volume

variable {volume before after : Volume} {card : Card} {rules : Rules} {above home : Location}
  {console : String} {name entry : Name} {launcher : Launcher} {keep : Path → Bool}

/-! ## Findings with fewer entries -/

theorem ofFindings_keeping (keep : Path → Bool) (found : List Finding) :
    AuditReport.ofFindings (found.map (Finding.keeping keep)) =
      (AuditReport.ofFindings found).keeping keep := by
  have missing (finding : Finding) :
      (finding.keeping keep).missing = finding.missing.filter keep := by
    cases finding <;> rfl
  have unconfigured (finding : Finding) :
      (finding.keeping keep).unconfigured? = finding.unconfigured? := by
    cases finding <;> rfl
  have examined (finding : Finding) : (finding.keeping keep).isExamined = finding.isExamined := by
    cases finding <;> rfl
  simp only [AuditReport.ofFindings, AuditReport.keeping, List.flatMap_map, List.filterMap_map,
    List.countP_map, List.filter_flatMap, Function.comp_def, missing, unconfigured, examined]

theorem keeping_true (finding : Finding) : finding.keeping (fun _ => true) = finding := by
  cases finding <;> simp [Finding.keeping]

/-- What is found out about a console differs only in the entries that lack an image. -/
theorem findingFor_keeping (folder : before.isFolder (card.games.entry name.bytes) = true)
    (still : after.isFolder (card.games.entry name.bytes) = true)
    (config : console ∉ rules.skip →
      configOf after card rules console = configOf before card rules console)
    (lacks : console ∉ rules.skip → ∀ launcher,
      configOf before card rules console = .ok (some launcher) → ∀ entry,
        LacksImage after card rules name console launcher entry ↔
          LacksImage before card rules name console launcher entry ∧
            keep (gamePath name entry) = true) :
    findingFor after card rules (name, console) =
      (findingFor before card rules (name, console)).map (Finding.keeping keep) := by
  by_cases skipped : console ∈ rules.skip
  · rw [findingFor, findingFor, examine_of_skipped skipped, examine_of_skipped skipped]
    rfl
  · have config := config skipped
    cases loaded : configOf before card rules console with
    | error cause =>
        rw [findingFor, findingFor, examine_of_kept skipped, examine_of_kept skipped, config,
          loaded]
        rfl
    | ok known =>
        have found : ∃ finding, findingFor before card rules (name, console) = .ok finding :=
          (exists_findingFor_iff folder).mpr fun _ => ⟨known, loaded⟩
        have again : ∃ finding, findingFor after card rules (name, console) = .ok finding :=
          (exists_findingFor_iff still).mpr fun _ => ⟨known, config.trans loaded⟩
        obtain ⟨earlier, found⟩ := found
        obtain ⟨later, again⟩ := again
        rw [found, again]
        rcases findingFor_cases found with
          ⟨left, -⟩ | ⟨-, unknown, rfl⟩ | ⟨-, launcher, names, set, ascending, rfl, members⟩
        · exact absurd left skipped
        · rcases findingFor_cases again with
            ⟨left, -⟩ | ⟨-, -, rfl⟩ | ⟨-, launcher, -, set, -⟩
          · exact absurd left skipped
          · rfl
          · cases set.symm.trans (config.trans unknown)
        · rcases findingFor_cases again with
            ⟨left, -⟩ | ⟨-, unknown, -⟩ | ⟨-, other, namesAfter, setAfter, stillAscending, rfl, stay⟩
          · exact absurd left skipped
          · cases unknown.symm.trans (config.trans set)
          · cases setAfter.symm.trans (config.trans set)
            have fewer : namesAfter = names.filter fun entry => keep (gamePath name entry) := by
              refine stillAscending.eq_of_mem_iff (ascending.filter _) fun entry => ?_
              rw [stay, lacks skipped launcher set, List.mem_filter, members]
            rw [fewer, Except.map, Finding.keeping, List.filter_map]
            rfl

/-! ## Audits with fewer entries -/

/-- The consoles are the same if the folder of games has the same names and folders. -/
theorem consoles_eq (overlays : after.Overlays before)
    (names : ∀ name, (after.node? (name :: above)).isSome = (before.node? (name :: above)).isSome) :
    consoles after card above = consoles before card above := by
  have same : (after.names above).mergeSort nameLe = (before.names above).mergeSort nameLe := by
    refine (ascending_mergeSort (nodup_names after above)).eq_of_mem_iff
      (ascending_mergeSort (nodup_names before above)) fun name => ?_
    rw [List.mem_mergeSort, List.mem_mergeSort, mem_names, mem_names, names]
  simp only [consoles, same, overlays.isFolder_eq]

/-- What an audit finds differs only in the entries that lack an image, if files were laid over
sites, but not in the folder of games, and the configurations are the same. -/
theorem findings_keeping (overlays : after.Overlays before)
    (reached : before.locate true card.games = .ok above) (folder : before.isFolderAt above = true)
    (names : ∀ name, (after.node? (name :: above)).isSome = (before.node? (name :: above)).isSome)
    (config : ∀ name console, IsConsole before card rules name console →
      configOf after card rules console = configOf before card rules console)
    (lacks : ∀ name console launcher, IsConsole before card rules name console →
      configOf before card rules console = .ok (some launcher) → ∀ entry,
        LacksImage after card rules name console launcher entry ↔
          LacksImage before card rules name console launcher entry ∧
            keep (gamePath name entry) = true) :
    findings after card rules =
      ⟨(findings before card rules).results.map (Finding.keeping keep),
        (findings before card rules).failure⟩ := by
  obtain ⟨still, opened⟩ := overlays.locate_folder_iff.mpr ⟨reached, folder⟩
  rw [findings_eq_gather still opened, findings_eq_gather reached folder,
    consoles_eq overlays names]
  refine gather_of_map fun item member => ?_
  obtain ⟨text, isFolder⟩ := (mem_consoles reached).mp member
  refine findingFor_keeping isFolder (by rw [overlays.isFolder_eq, isFolder])
    (fun kept => config _ _ ⟨text, isFolder, kept⟩)
    fun kept launcher => lacks _ _ launcher ⟨text, isFolder, kept⟩

/-- A report keeps some of its entries if what the audit finds does. -/
theorem report_of_keeping
    (same : findings after card rules = ⟨(findings before card rules).results.map
      (Finding.keeping keep), (findings before card rules).failure⟩) :
    report after card rules = (report before card rules).map (AuditReport.keeping keep) := by
  simp only [report, same]
  cases (findings before card rules).failure with
  | none => exact congrArg Except.ok (ofFindings_keeping keep _)
  | some error => rfl

/-! ## Images and configurations on a card -/

/-- No link stands in the card, wherever its top folder is. -/
def CardLinkFree (volume : Volume) (card : Card) : Prop :=
  ∀ home, volume.Opens card.root home → volume.LinkFree home

theorem CardLinkFree.overlay (free : CardLinkFree before card) (overlays : after.Overlays before) :
    CardLinkFree after card :=
  fun home opens => (free home (overlays.opens_iff.mp opens)).overlay overlays

/-- A text that can stand between two slashes, and stands for an entry there. -/
def IsPlain (text : String) : Prop :=
  text ≠ "" ∧ text ≠ "." ∧ text ≠ ".." ∧ Path.slash ∉ Utf8.encode text

theorem isName_of_isPlain {text : String} (plain : IsPlain text) (nul : 0 ∉ Utf8.encode text) :
    isName (Utf8.encode text) = true := by
  obtain ⟨some, ne_dot, ne_up, slash⟩ := plain
  have dots : Utf8.encode "." = [Path.dot] ∧ Utf8.encode ".." = [Path.dot, Path.dot] := by decide
  have nothing : Utf8.encode text ≠ [] := fun same => some (Utf8.encode_injective same)
  have dot : Utf8.encode text ≠ [Path.dot] := fun same =>
    ne_dot (Utf8.encode_injective (same.trans dots.1.symm))
  have up : Utf8.encode text ≠ [Path.dot, Path.dot] := fun same =>
    ne_up (Utf8.encode_injective (same.trans dots.2.symm))
  simp [isName, nothing, dot, up, slash, nul]

/-- The launcher's names for consoles are plain. -/
def PlainConfigs (rules : Rules) : Prop :=
  ∀ entry ∈ rules.aliases.entries, IsPlain entry.2

theorem plainConfigs_standard : PlainConfigs .standard := by
  have entries : Rules.standard.aliases.entries = [("PS", "PSX")] := by cbv
  intro entry member
  rw [entries, List.mem_singleton] at member
  rw [member]
  exact ⟨by decide, by decide, by decide, by decide⟩

/-- The stem of the image for an entry of a console's folder. -/
def stemOf (rules : Rules) (console entry : Bytes) : Bytes :=
  if console = Utf8.encode rules.multiDiscConsole then titleStem entry
  else (Path.splitName entry).1

/-- The image that an audit looks for, for an entry as reports give it. -/
def wantedImage (card : Card) (rules : Rules) (path : Path) : Path :=
  match path.segments with
  | [_, console, entry] => Card.imagePath (card.games.entry console) (stemOf rules console entry)
  | _ => path

theorem wantedImage_gamePath (card : Card) (rules : Rules) (name entry : Name) :
    wantedImage card rules (gamePath name entry) =
      Card.imagePath (card.games.entry name.bytes) (stemOf rules name.bytes entry.bytes) := by
  have segments : (gamePath name entry).segments = [gamesName.bytes, name.bytes, entry.bytes] :=
    Path.segments_ofSegments (List.cons_ne_nil gamesName [name, entry])
  rw [wantedImage, segments]

/-- An entry of a console's folder should have a preview image. -/
def WantsImage (volume : Volume) (card : Card) (rules : Rules) (name : Name) (launcher : Launcher)
    (entry : Name) : Prop :=
  if name.bytes = Utf8.encode rules.multiDiscConsole then
    volume.isFolder ((card.games.entry name.bytes).entry entry.bytes) = true ∧
      entry.bytes ≠ Utf8.encode Card.imageFolder
  else
    volume.isFile ((card.games.entry name.bytes).entry entry.bytes) = true ∧
      ∃ extension ∈ launcher.extensions,
        ((card.games.entry name.bytes).entry entry.bytes).lowerExtension? = some extension

theorem lacksImage_iff (text : name.bytes = Utf8.encode console) :
    LacksImage volume card rules name console launcher entry ↔
      WantsImage volume card rules name launcher entry ∧
        volume.contains (wantedImage card rules (gamePath name entry)) = false := by
  rw [wantedImage_gamePath]
  by_cases multiDisc : console = rules.multiDiscConsole
  · have same : name.bytes = Utf8.encode rules.multiDiscConsole := multiDisc ▸ text
    simp only [LacksImage, LacksTitle, WantsImage, stemOf, multiDisc, if_pos same, true_and, ne_eq,
      not_true_eq_false, false_and, or_false, and_assoc]
  · have differs : name.bytes ≠ Utf8.encode rules.multiDiscConsole :=
      fun same => multiDisc (Utf8.encode_injective (text.symm.trans same))
    simp only [LacksImage, LacksGame, WantsImage, stemOf, multiDisc, if_neg differs, false_and,
      ne_eq, not_false_eq_true, true_and, false_or, and_assoc]

/-- The name of the folder of images. -/
def imagesName : Name :=
  ⟨Utf8.encode Card.imageFolder, by decide⟩

theorem mem_of_mem_stemOf {console entry : Bytes} {byte : UInt8}
    (member : byte ∈ stemOf rules console entry) : byte ∈ entry := by
  unfold stemOf at member
  split at member
  · unfold titleStem at member
    split at member
    · next text decoded =>
        rw [Utf8.decode?_eq_some_iff.mp decoded]
        exact (Card.encode_unhide_suffix text).mem member
    · exact member
  · unfold Path.splitName at member
    simp only at member
    split at member
    · exact member
    · exact List.mem_of_mem_take member

/-- The name of the image for an entry of a console's folder. -/
def imageName (rules : Rules) (name entry : Name) : Name where
  bytes := stemOf rules name.bytes entry.bytes ++ Utf8.encode ("." ++ Card.imageExtension)
  proper := isName_append (fun member => entry.slash_not_mem (mem_of_mem_stemOf member))
    (fun member => entry.nul_not_mem (mem_of_mem_stemOf member)) (by decide) (by decide)

theorem wantedImage_eq_descend (card : Card) (rules : Rules) (name entry : Name) :
    wantedImage card rules (gamePath name entry) =
      card.root.descend [gamesName, name, imagesName, imageName rules name entry] :=
  wantedImage_gamePath card rules name entry

theorem load?_congr {path : Path} (same : after.status? path = before.status? path) :
    Launcher.load? after path = Launcher.load? before path := by
  simp only [Launcher.load?, readText, Volume.read, same]

/-- The launcher has a plain name for every console. -/
theorem isPlain_configName (plain : PlainConfigs rules) (text : name.bytes = Utf8.encode console) :
    IsPlain (rules.configName console) := by
  unfold Rules.configName Aliases.find?
  cases found : rules.aliases.entries.find? fun entry => entry.1 == console with
  | some entry => exact plain entry (List.mem_of_find?_eq_some found)
  | none =>
      refine ⟨?_, ?_, ?_, text ▸ name.slash_not_mem⟩
      · rintro rfl
        exact name.ne_nil text
      · rintro rfl
        exact name.ne_dot text
      · rintro rfl
        exact name.ne_up text

/-- What the launcher knows about a console depends on what its configuration's path leads to. -/
theorem configOf_congr (plain : PlainConfigs rules) (text : name.bytes = Utf8.encode console)
    (same : ∀ launcherName : Name, launcherName.bytes = Utf8.encode (rules.configName console) →
      after.status? (card.root.descend [emuName, launcherName, configName]) =
        before.status? (card.root.descend [emuName, launcherName, configName])) :
    configOf after card rules console = configOf before card rules console := by
  refine load?_congr ?_
  by_cases nul : 0 ∈ Utf8.encode (rules.configName console)
  · have inside : 0 ∈ (card.launcherConfig (rules.configName console)).bytes :=
      (prefix_entry _ configName.slash_not_mem).mem (Path.mem_bytes_entry _ nul)
    have refused : refusal? (card.launcherConfig (rules.configName console)) =
        .some .nulInPath := by
      simp [refusal?, inside]
    rw [status?, status?, locate, locate, refused]
    rfl
  · exact same ⟨_, isName_of_isPlain (isPlain_configName plain text) nul⟩ rfl

/-! ## Changes below the folder of games -/

/-- Files were laid over sites inside the folders of consoles, on a card without links. -/
structure ChangesGames (before after : Volume) (card : Card) (home : Location) : Prop where
  /-- Only files were laid over sites. -/
  overlays : after.Overlays before
  /-- The card's top folder is at the location. -/
  opens : before.Opens card.root home
  /-- No link stands in the card. -/
  free : before.LinkFree home
  /-- Nothing else changed than what is inside the folders of consoles. -/
  frame : ∀ location, after.node? location = before.node? location ∨
    ∃ entry name, entry :: name :: gamesName :: home <:+ location

namespace ChangesGames

variable (change : ChangesGames before after card home)

include change

/-- The folder of games is directly in the top folder. -/
theorem eq_of_locate (reached : before.locate true card.games = .ok above)
    (folder : before.isFolderAt above = true) : above = gamesName :: home := by
  have opened : before.Opens (card.root.descend [gamesName]) above := opens_of_locate reached folder
  exact change.opens.eq_of_descend change.free opened

/-- A path to something with another name in the top folder leads where it did. -/
theorem status?_beside (beside : Name) (differs : beside ≠ gamesName) (names : List Name) :
    after.status? (card.root.descend (beside :: names)) =
      before.status? (card.root.descend (beside :: names)) := by
  refine status?_descend_congr (change.overlays.opens_iff.mpr change.opens) change.opens change.free
    (List.cons_ne_nil _ _) fun location passed => ?_
  refine (change.frame location).resolve_right ?_
  rintro ⟨entry, name, below, rfl⟩
  have start : gamesName :: (below ++ [entry, name]).reverse <+: beside :: names := by
    have onward : below ++ [entry, name, gamesName] ++ home ∈ route home (beside :: names) := by
      simpa using passed
    simpa using prefix_of_mem_route onward
  exact differs (List.cons_prefix_cons.mp start).1.symm

theorem configOf_eq (plain : PlainConfigs rules) (text : name.bytes = Utf8.encode console) :
    configOf after card rules console = configOf before card rules console :=
  configOf_congr plain text fun launcherName _ =>
    change.status?_beside emuName (by decide) [launcherName, configName]

/-- What an audit finds differs only in the entries that lack an image.  An entry is kept unless
its image is new. -/
theorem findings_eq (keep : Path → Bool) (plain : PlainConfigs rules)
    (reached : before.locate true card.games = .ok above) (folder : before.isFolderAt above = true)
    (wants : ∀ name entry launcher, WantsImage after card rules name launcher entry ↔
      WantsImage before card rules name launcher entry)
    (images : ∀ name entry, after.contains (wantedImage card rules (gamePath name entry)) =
      (before.contains (wantedImage card rules (gamePath name entry)) ||
        !keep (gamePath name entry))) :
    findings after card rules =
      ⟨(findings before card rules).results.map (Finding.keeping keep),
        (findings before card rules).failure⟩ := by
  obtain rfl := change.eq_of_locate reached folder
  refine findings_keeping change.overlays reached folder (fun name => ?_)
    (fun name console isConsole => change.configOf_eq plain isConsole.text)
    fun name console launcher isConsole _ entry => ?_
  · rcases change.frame (name :: gamesName :: home) with same | ⟨entry, other, inside⟩
    · rw [same]
    · have short := inside.length_le
      simp only [List.length_cons] at short
      omega
  · rw [lacksImage_iff isConsole.text, lacksImage_iff isConsole.text, wants, images, and_assoc]
    simp

end ChangesGames
end Audit
end CardKeeper

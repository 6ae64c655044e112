import CardKeeper.Proofs.Activity
import CardKeeper.Proofs.Audit

/-!
# What an audit has told when it fails

An audit fails at the first console that cannot be examined.  By then it has told exactly what the
audit reports that leaves this console and all later ones out: `report_error_streams`.  Consoles
that are left out give a finding too, but one that tells of nothing missing, so it is enough to look
at those that are not.
-/

namespace CardKeeper
namespace Audit

open Volume

variable {volume : Volume} {card : Card} {rules : Rules} {above : Location} {name : Name}
  {console : String} {error : AuditError}

/-! ## The consoles that count -/

/-- A list of the folders of games that are not left out, in the order of their names. -/
structure Scan (volume : Volume) (card : Card) (rules : Rules) (list : List (Name × String)) :
    Prop where
  /-- The names ascend. -/
  ordered : list.Pairwise fun left right => left.1.bytes < right.1.bytes
  /-- They are those of all the consoles. -/
  members : ∀ name console, (name, console) ∈ list ↔ IsConsole volume card rules name console

/-- The consoles that are not left out, in the order of their names. -/
def scanned (volume : Volume) (card : Card) (rules : Rules) (above : Location) :
    List (Name × String) :=
  (consoles volume card above).filter fun console => !rules.isSkipped console.2

theorem scan_scanned (reached : volume.locate true card.games = .ok above) :
    Scan volume card rules (scanned volume card rules above) where
  ordered := (pairwise_consoles volume card above).filter _
  members name console := by
    rw [scanned, List.mem_filter, mem_consoles reached]
    simp only [Bool.not_eq_true', ← Bool.not_eq_true, isSkipped_iff]
    exact ⟨fun ⟨⟨text, folder⟩, kept⟩ => ⟨text, folder, kept⟩,
      fun ⟨text, folder, kept⟩ => ⟨⟨text, folder⟩, kept⟩⟩

/-- Scans with the same consoles are the same, also of different cards. -/
theorem Scan.eq_of_isConsole_iff {other : Volume} {otherCard : Card} {otherRules : Rules}
    {list otherList : List (Name × String)} (scan : Scan volume card rules list)
    (otherScan : Scan other otherCard otherRules otherList)
    (same : ∀ name console, IsConsole volume card rules name console ↔
      IsConsole other otherCard otherRules name console) : list = otherList := by
  have apart {left right : Name × String} (less : left.1.bytes < right.1.bytes) : left ≠ right :=
    fun equal => List.lt_irrefl _ (equal ▸ less)
  refine List.Perm.eq_of_pairwise (fun first second _ _ before after => ?_) scan.ordered
    otherScan.ordered ?_
  · exact absurd (List.lt_trans before after) (List.lt_irrefl _)
  · refine (List.perm_ext_iff_of_nodup (scan.ordered.imp apart)
      (otherScan.ordered.imp apart)).mpr fun item => ?_
    rw [scan.members, otherScan.members, same]

/-- Whether a finding is about a console that is not left out. -/
def counts : Finding → Bool
  | .skipped _ => false
  | _ => true

theorem counts_of_findingFor {finding : Finding} (kept : console ∉ rules.skip)
    (found : findingFor volume card rules (name, console) = .ok finding) :
    counts finding = true := by
  rcases findingFor_cases found with ⟨skipped, -⟩ | ⟨-, -, rfl⟩ | ⟨-, launcher, names, -, -, rfl, -⟩
  · exact absurd skipped kept
  · rfl
  · rfl

/-- A report shows nothing of consoles that are left out. -/
theorem ofFindings_filter_counts (found : List Finding) :
    AuditReport.ofFindings (found.filter counts) = .ofFindings found := by
  induction found with
  | nil => rfl
  | cons finding rest ih =>
      obtain ⟨missing, unconfigured, examined⟩ := AuditReport.mk.inj ih
      cases finding <;>
        simp [AuditReport.ofFindings, counts, Finding.missing, Finding.unconfigured?,
          Finding.isExamined, List.filter_cons, List.filterMap_cons, List.countP_cons, missing,
          unconfigured, examined]

/-- Only consoles that are not left out can fail, and only their findings count. -/
theorem gather_scanned (volume : Volume) (card : Card) (rules : Rules) (above : Location) :
    gather (findingFor volume card rules) (scanned volume card rules above) =
      ⟨(gather (findingFor volume card rules) (consoles volume card above)).results.filter counts,
        (gather (findingFor volume card rules) (consoles volume card above)).failure⟩ := by
  refine gather_filter (fun item left => ?_) (fun item finding kept found => ?_) _
  · have skipped : item.2 ∈ rules.skip := isSkipped_iff.mp (by simpa using left)
    exact ⟨_, examine_of_skipped skipped, rfl⟩
  · have notSkipped : item.2 ∉ rules.skip := mt isSkipped_iff.mpr (by simpa using kept)
    exact counts_of_findingFor notSkipped found

/-- An audit is the work on the consoles that are not left out. -/
theorem report_eq_scanned (rules : Rules) (reached : volume.locate true card.games = .ok above)
    (folder : volume.isFolderAt above = true) :
    let work := gather (findingFor volume card rules) (scanned volume card rules above)
    streamed volume card rules = work.results.flatMap Finding.missing ∧
      report volume card rules =
        match work.failure with
        | some error => .error error
        | none => .ok (.ofFindings work.results) := by
  have shown := ofFindings_filter_counts
    (gather (findingFor volume card rules) (consoles volume card above)).results
  intro work
  have same : work = _ := gather_scanned volume card rules above
  rw [same, streamed, report, findings_eq_gather reached folder, shown]
  exact ⟨congrArg AuditReport.missing shown.symm, rfl⟩

theorem report_eq (rules : Rules) (reached : volume.locate true card.games = .ok above)
    (folder : volume.isFolderAt above = true) :
    let work := gather (findingFor volume card rules) (scanned volume card rules above)
    streamed volume card rules = work.results.flatMap Finding.missing ∧
      (∀ error, report volume card rules = .error error ↔ work.failure = some error) ∧
      (work.failure = none → ∃ result, report volume card rules = .ok result ∧
        result.missing = work.results.flatMap Finding.missing) := by
  obtain ⟨told, reported⟩ := report_eq_scanned rules reached folder
  refine ⟨told, ?_⟩
  rw [reported]
  cases (gather (findingFor volume card rules) (scanned volume card rules above)).failure with
  | none => exact ⟨by simp, fun _ => ⟨_, rfl, rfl⟩⟩
  | some cause => simp

/-! ## What is told -/

/-- What is told to be missing is an entry of a console's folder, as seen from the card. -/
theorem of_mem_streamed {path : Path} (member : path ∈ streamed volume card rules) :
    ∃ names name inner entry, volume.list card.games = .ok names ∧ name ∈ names ∧
      volume.list (card.games.entry name.bytes) = .ok inner ∧ entry ∈ inner ∧
        path = gamePath name entry := by
  obtain ⟨finding, found, missing⟩ := List.mem_flatMap.mp member
  cases listed : entries volume card.games with
  | error error => simp [findings, listed] at found
  | ok paths =>
      obtain ⟨above, reached, folder, -⟩ := entries_eq_ok_iff.mp listed
      rw [findings_eq_gather reached folder] at found
      obtain ⟨⟨name, console⟩, among, worked⟩ := of_mem_gather found
      obtain ⟨names, -, whole, members⟩ := missing_of_findingFor worked
      rw [whole] at missing
      obtain ⟨entry, inside, rfl⟩ := List.mem_map.mp missing
      obtain ⟨-, isFolder⟩ := (mem_consoles reached).mp among
      obtain ⟨place, standing, opened⟩ := isFolder_iff.mp isFolder
      have there : ∃ location, volume.locate true
          ((card.games.entry name.bytes).entry entry.bytes) = .ok location := by
        obtain ⟨-, launcher, -, ⟨-, title⟩ | ⟨-, game⟩⟩ := (members entry).mp inside
        · obtain ⟨location, led, -⟩ := isFolder_iff.mp title.1
          exact ⟨location, led⟩
        · obtain ⟨location, -, -, led, -⟩ := isFile_iff.mp game.1
          exact ⟨location, led⟩
      obtain ⟨location, led⟩ := there
      exact ⟨_, name, _, entry, list_eq_ok_iff.mpr ⟨above, reached, folder, rfl⟩,
        mem_names_of_locate reached standing, list_eq_ok_iff.mpr ⟨place, standing, opened, rfl⟩,
        mem_names_of_locate standing led, rfl⟩

/-- A report lists what has been told. -/
theorem missing_eq_streamed {result : AuditReport}
    (reported : report volume card rules = .ok result) :
    result.missing = streamed volume card rules := by
  simp only [report] at reported
  split at reported
  · cases reported
  · cases reported
    rfl

/-- The lines among the notices of an audit are the entries that it tells to be missing. -/
theorem linesOf_notices :
    linesOf (notices volume card rules) = (streamed volume card rules).map Path.display := by
  unfold notices streamed
  induction (findings volume card rules).results with
  | nil => rfl
  | cons finding rest ih =>
      rw [List.flatMap_cons, List.flatMap_cons, linesOf_append, List.map_append, ih,
        Finding.notices, linesOf_append, linesOf_events, linesOf_lines, List.nil_append]

/-! ## What can fail -/

/-- A console cannot be examined: the launcher's configuration of it is of no use, or there is one
but the console's folder cannot be listed. -/
def Fails (volume : Volume) (card : Card) (rules : Rules) (name : Name) (console : String)
    (error : AuditError) : Prop :=
  (∃ cause, configOf volume card rules console = .error cause ∧ error = .config cause) ∨
    ∃ launcher fault, configOf volume card rules console = .ok (some launcher) ∧
      volume.list (card.games.entry name.bytes) = .error fault ∧
        error = .unlisted (card.games.entry name.bytes) fault

theorem entries_eq_error_iff {folder : Path} : entries volume folder = .error error ↔
    ∃ fault, volume.list folder = .error fault ∧ error = .unlisted folder fault := by
  unfold entries sortedEntries
  cases volume.list folder <;> simp [Except.map, Except.mapError, eq_comm]

theorem findingFor_eq_error_iff {item : Name × String} (kept : item.2 ∉ rules.skip) :
    findingFor volume card rules item = .error error ↔
      Fails volume card rules item.1 item.2 error := by
  unfold findingFor Fails
  rw [examine_of_kept kept]
  cases configOf volume card rules item.2 with
  | error cause => simp [eq_comm]
  | ok loaded =>
      cases loaded with
      | none => simp
      | some launcher =>
          simp only [← entries_eq_error_iff, missingTitles, missingGames, reduceCtorEq, false_and,
            exists_false, Except.ok.injEq, Option.some.injEq, exists_eq_left', false_or,
            exists_and_left]
          cases entries volume (card.games.entry item.1.bytes) <;>
            cases rules.isMultiDisc item.2 <;> simp [Except.map]

/-- A console is the first in a scan that cannot be examined. -/
structure FailsFirst (volume : Volume) (card : Card) (rules : Rules)
    (earlier : List (Name × String)) (name : Name) (console : String) (error : AuditError) :
    Prop where
  /-- It cannot be examined. -/
  fails : Fails volume card rules name console error
  /-- Those before it can. -/
  before : ∀ other ∈ earlier, ∀ cause, ¬ Fails volume card rules other.1 other.2 cause

/-- Work on consoles fails at the first one that cannot be examined. -/
theorem failure_eq_some_iff_failsFirst {list : List (Name × String)}
    (kept : ∀ item ∈ list, item.2 ∉ rules.skip) :
    (gather (findingFor volume card rules) list).failure = some error ↔
      ∃ earlier name console later, list = earlier ++ (name, console) :: later ∧
        FailsFirst volume card rules earlier name console error := by
  rw [failure_eq_some_iff]
  constructor
  · rintro ⟨earlier, item, later, rfl, before, failed⟩
    refine ⟨earlier, item.1, item.2, later, rfl, ?_, fun other member cause fails => ?_⟩
    · exact (findingFor_eq_error_iff (kept item (by simp))).mp failed
    · exact before other member cause
        ((findingFor_eq_error_iff (kept other (by simp [member]))).mpr fails)
  · rintro ⟨earlier, name, console, later, rfl, fails, before⟩
    refine ⟨earlier, (name, console), later, rfl, fun other member cause failed => ?_, ?_⟩
    · exact before other member cause
        ((findingFor_eq_error_iff (kept other (by simp [member]))).mp failed)
    · exact (findingFor_eq_error_iff (kept (name, console) (by simp))).mpr fails

/-! ## Leaving more consoles out -/

theorem findingFor_of_kept {item : Name × String} {skip : List String}
    (kept : item.2 ∉ rules.skip) (stillKept : item.2 ∉ skip) :
    findingFor volume card { rules with skip := skip } item =
      findingFor volume card rules item := by
  rw [findingFor, findingFor, examine_of_kept kept, examine_of_kept stillKept]
  rfl

/-- The consoles of a scan have different names. -/
theorem Scan.texts_apart {earlier later : List (Name × String)}
    (scan : Scan volume card rules (earlier ++ later)) {item : Name × String}
    (member : item ∈ earlier) : item.2 ∉ later.map Prod.snd := by
  intro again
  obtain ⟨other, isLater, same⟩ := List.mem_map.mp again
  have less := (List.pairwise_append.mp scan.ordered).2.2 item member other isLater
  have text := (scan.members item.1 item.2).mp (List.mem_append_left _ member)
  have otherText := (scan.members other.1 other.2).mp (List.mem_append_right _ isLater)
  rw [text.text, otherText.text, same] at less
  exact List.lt_irrefl _ less

/-- With the consoles from some point on left out too, those before it are looked at. -/
theorem scanned_of_skip (reached : volume.locate true card.games = .ok above)
    {earlier later : List (Name × String)} {skip : List String}
    (split : scanned volume card rules above = earlier ++ later)
    (skips : ∀ other, other ∈ skip ↔ other ∈ rules.skip ∨ other ∈ later.map Prod.snd) :
    scanned volume card { rules with skip := skip } above = earlier := by
  have scan : Scan volume card rules (earlier ++ later) := split ▸ scan_scanned reached
  have fewer : scanned volume card { rules with skip := skip } above =
      (scanned volume card rules above).filter fun item => item.2 ∉ later.map Prod.snd := by
    rw [scanned, scanned, List.filter_filter]
    refine List.filter_congr fun item _ => ?_
    have skips := skips item.2
    simp only [Rules.isSkipped, List.contains_eq_mem, skips, Bool.decide_or, Bool.not_or,
      decide_not, Bool.and_comm]
  rw [fewer, split, List.filter_append]
  have all : earlier.filter (fun item => item.2 ∉ later.map Prod.snd) = earlier :=
    List.filter_eq_self.mpr fun item member => decide_eq_true (scan.texts_apart member)
  have none : later.filter (fun item => item.2 ∉ later.map Prod.snd) = [] :=
    List.filter_eq_nil_iff.mpr fun item member => by
      simpa using List.mem_map_of_mem (f := Prod.snd) member
  rw [all, none, List.append_nil]

/-- An audit that can list the games fails exactly if one of the consoles that are not left out
cannot be examined, and the first such console in the order of their names gives the error.  What
has been told to be missing by then is exactly, and in this order, what the audit reports that
leaves this console and all later ones out as well; that audit does not fail.  The lines among the
notices of the audit that fails are these entries. -/
theorem report_error_streams (volume : Volume) (card : Card) (rules : Rules) (names : List Name)
    (listed : volume.list card.games = .ok names) :
    ∃ scan, Scan volume card rules scan ∧
      (∀ error, report volume card rules = .error error ↔
        ∃ earlier name console later, scan = earlier ++ (name, console) :: later ∧
          FailsFirst volume card rules earlier name console error) ∧
      ∀ earlier name console later error skip, scan = earlier ++ (name, console) :: later →
        FailsFirst volume card rules earlier name console error →
          (∀ other, other ∈ skip ↔
            other ∈ rules.skip ∨ other ∈ ((name, console) :: later).map Prod.snd) →
            ∃ result, report volume card { rules with skip := skip } = .ok result ∧
              result.missing = streamed volume card rules ∧
              linesOf (notices volume card rules) = result.missing.map Path.display := by
  obtain ⟨above, reached, folder, -⟩ := list_eq_ok_iff.mp listed
  have scan : Scan volume card rules (scanned volume card rules above) := scan_scanned reached
  have kept : ∀ item ∈ scanned volume card rules above, item.2 ∉ rules.skip :=
    fun item member => ((scan.members item.1 item.2).mp member).kept
  refine ⟨_, scan, fun error => ?_, ?_⟩
  · rw [(report_eq rules reached folder).2.1]
    exact failure_eq_some_iff_failsFirst kept
  · intro earlier name console later error skip split first skips
    have among : ∀ item ∈ earlier, item ∈ scanned volume card rules above :=
      fun item member => split ▸ List.mem_append_left _ member
    obtain ⟨results, done⟩ := exists_results_iff.mpr fun item member cause failed =>
      first.before item member cause
        ((findingFor_eq_error_iff (kept item (among item member))).mp failed)
    -- The first run comes to the failing console with the results for those before it.
    have failing : findingFor volume card rules (name, console) = .error error :=
      (findingFor_eq_error_iff (kept (name, console) (by simp [split]))).mpr first.fails
    have work := gather_eq_failed_iff.mpr ⟨earlier, _, later, split, done, failing⟩
    -- The second run has the same results and no other consoles.
    have again : gather (findingFor volume card { rules with skip := skip })
        (scanned volume card { rules with skip := skip } above) = ⟨results, none⟩ := by
      rw [scanned_of_skip reached split skips, gather_eq_iff, ← done]
      refine List.map_congr_left fun item member => findingFor_of_kept
        (kept item (among item member)) ?_
      rw [skips, not_or]
      exact ⟨kept item (among item member), (split ▸ scan).texts_apart member⟩
    obtain ⟨-, -, reports⟩ := report_eq { rules with skip := skip } reached folder
    obtain ⟨result, reported, missing⟩ := reports (by rw [again])
    have same : result.missing = streamed volume card rules := by
      rw [missing, again, (report_eq rules reached folder).1, work]
    exact ⟨result, reported, same, by rw [linesOf_notices, same]⟩

/-- The name `MD`. -/
def megaDrive : Name := ⟨[0x4D, 0x44], by decide⟩

/-- The small card with one more console, whose configuration breaks off. -/
def brokenCard : Volume where
  entries := smallCard.entries ++ [([megaDrive, gamesName], .folder Node.folderMode),
    ([megaDrive, emuName], .folder Node.folderMode),
    ([configName, megaDrive, emuName], .file Node.fileMode [0x5B])]

/-- The audit of the broken card fails and has told of the one game without an image, which is what
an audit reports that leaves more consoles out. -/
theorem streamed_brokenCard :
    (∃ names, brokenCard.list (Card.games ⟨.ofText "."⟩) = .ok names) ∧
      (∃ error, report brokenCard ⟨.ofText "."⟩ .standard = .error error) ∧
      streamed brokenCard ⟨.ofText "."⟩ .standard = [gamePath gameBoy gameFile] ∧
      (∃ skip result, report brokenCard ⟨.ofText "."⟩ { Rules.standard with skip := skip } =
        .ok result ∧ result.missing = [gamePath gameBoy gameFile]) ∧
      linesOf (notices brokenCard ⟨.ofText "."⟩ .standard) = ["Roms/GB/a.gb"] := by
  have listed : brokenCard.list (Card.games ⟨.ofText "."⟩) =
      .ok [gameBoy, famicom, megaDrive] := by cbv
  have told : streamed brokenCard ⟨.ofText "."⟩ .standard = [gamePath gameBoy gameFile] := by cbv
  have broken : (report brokenCard ⟨.ofText "."⟩ .standard).isOk = false := by cbv
  cases failed : report brokenCard ⟨.ofText "."⟩ .standard with
  | ok result => simp [failed, Except.isOk, Except.toBool] at broken
  | error error =>
      obtain ⟨scan, -, fails, streams⟩ := report_error_streams _ _ _ _ listed
      obtain ⟨earlier, name, console, later, split, first⟩ := (fails error).mp failed
      obtain ⟨result, reported, missing, lines⟩ := streams earlier name console later error
        (Rules.standard.skip ++ ((name, console) :: later).map Prod.snd) split first
        fun other => List.mem_append
      have shown : (gamePath gameBoy gameFile).display = "Roms/GB/a.gb" := by cbv
      refine ⟨⟨_, listed⟩, ⟨error, rfl⟩, told, ⟨_, result, reported, missing.trans told⟩, ?_⟩
      rw [lines, missing, told, List.map_singleton, shown]

end Audit
end CardKeeper

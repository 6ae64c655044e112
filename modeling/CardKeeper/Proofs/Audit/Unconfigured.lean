import CardKeeper.Proofs.Audit

/-!
# Consoles without a configuration

The launcher has no configuration for a console exactly if nothing is found at the path of its file:
`load?_eq_none_iff`.  A path leads nowhere in other ways, too.  Whatever keeps the way to the file
from being followed is the fault that the path of the file ends in, and a file that stands where a
folder is expected is such a fault of its own.  An audit passes over the one kind of absence and
ends with an error at every other: `unconfigured_exact`.
-/

namespace CardKeeper

namespace Volume

variable {volume : Volume} {folder inner : Path} {location : Location} {fault : Fault}
  {follow : Bool} {links : Nat} {here : Location} {front rest : List Bytes}

/-! ## Ways that cannot be followed -/

/-- What keeps a way from ending in a folder keeps everything behind it from being reached. -/
theorem walk_append_blocked (some : rest ≠ [])
    (blocked : volume.walk true links here (front ++ [[]]) = .error fault) :
    volume.walk follow links here (front ++ rest) = .error fault := by
  cases walked : volume.walk true links here front with
  | error other =>
      rw [walk_append_error (List.cons_ne_nil _ _) walked] at blocked
      rw [walk_append_error some walked, blocked]
  | ok there =>
      obtain ⟨left, -, same⟩ := walk_append walked
      rw [same true [[]] (List.cons_ne_nil _ _)] at blocked
      cases opened : volume.isFolderAt there with
      | true =>
          have led : volume.walk true links here (front ++ [[]]) = .ok there :=
            walk_concat_filler.mpr ⟨walked, opened⟩
          rw [same true [[]] (List.cons_ne_nil _ _), blocked] at led
          cases led
      | false =>
          obtain ⟨segment, more, rfl⟩ := List.exists_cons_of_ne_nil some
          rw [walk_cons, turn_outside opened] at blocked
          rw [same follow _ some, walk_cons, turn_outside opened]
          exact blocked

theorem locate_join_of_blocked (relative : inner.isAbsolute = false)
    (accepted : refusal? (folder.join inner) = none)
    (blocked : volume.walk true linkLimit (start folder volume.current) (folder.prior ++ [[]]) =
      .error fault) : volume.locate follow (folder.join inner) = .error fault := by
  have same : start (folder.join inner) volume.current = start folder volume.current := by
    simp [start, Path.isAbsolute_join folder relative]
  rw [locate_of_not_refused accepted, same, Path.segments_join folder relative]
  refine walk_append_blocked ?_ blocked
  simp [Path.segments, List.splitOn_ne_nil]

/-- A path leads to what the path of a folder leads to if that cannot be followed. -/
theorem locate_join_of_error (some : folder.bytes ≠ []) (relative : inner.isAbsolute = false)
    (accepted : refusal? (folder.join inner) = none)
    (failed : volume.locate true folder = .error fault) :
    volume.locate follow (folder.join inner) = .error fault := by
  refine locate_join_of_blocked relative accepted ?_
  have followed : refusal? folder = none :=
    refusal?_of_prefix (prefix_join folder relative) some accepted
  rw [locate_of_not_refused followed] at failed
  rcases Path.segments_eq_prior folder with same | more
  · rw [same] at failed
    exact walk_append_error (List.cons_ne_nil _ _) failed
  · rwa [more] at failed

/-- Nothing is reached through what is no folder. -/
theorem locate_join_of_closed (relative : inner.isAbsolute = false)
    (accepted : refusal? (folder.join inner) = none)
    (reached : volume.locate true folder = .ok location)
    (closed : volume.isFolderAt location = false) :
    volume.locate follow (folder.join inner) = .error .notDirectory := by
  refine locate_join_of_blocked relative accepted ?_
  obtain ⟨-, walked⟩ := locate_eq_ok_iff.mp reached
  rcases Path.segments_eq_prior folder with same | more
  · rw [same] at walked
    obtain ⟨left, -, onward⟩ := walk_append walked
    rw [onward true [[]] (List.cons_ne_nil _ _), walk_cons, turn_outside closed]
  · rw [more] at walked
    rw [(walk_concat_filler.mp walked).2] at closed
    cases closed

theorem status?_of_locate_error {path : Path} (failed : volume.locate true path = .error fault) :
    volume.status? path = .error fault := by
  simp [status?, failed, Except.bind]

end Volume

namespace Launcher

open Volume

variable {volume : Volume} {path : Path} {fault : Fault}

/-- A path that leads nowhere cannot be read either. -/
theorem readText_of_status? (failed : volume.status? path = .error fault) :
    volume.readText path = .error fault := by
  simp [readText, Volume.read, failed, Except.bind]

theorem readText_ne_notFound {node : Node} (found : volume.status? path = .ok node) :
    volume.readText path ≠ .error .notFound := by
  simp only [readText, Volume.read, found, Except.bind]
  cases node with
  | folder mode => simp
  | link target => simp
  | file mode content => cases decoded : Utf8.decode? content <;> simp [decoded]

/-- There is no configuration exactly where nothing is found. -/
theorem load?_eq_none_iff :
    load? volume path = .ok none ↔ volume.status? path = .error .notFound := by
  cases found : volume.status? path with
  | error fault =>
      rw [load?, readText_of_status? found]
      cases fault <;> simp
  | ok node =>
      have differs := readText_ne_notFound found
      rw [load?]
      cases reading : volume.readText path with
      | error fault =>
          rw [reading] at differs
          cases fault <;> simp at differs ⊢
      | ok text =>
          dsimp only
          cases Launcher.ofJson? text <;> simp

/-- Every other way not to be there is an error. -/
theorem load?_of_fault (failed : volume.status? path = .error fault) (other : fault ≠ .notFound) :
    load? volume path = .error (.unreadable path fault) := by
  rw [load?, readText_of_status? failed]
  cases fault with
  | notFound => exact absurd rfl other
  | _ => rfl

end Launcher

namespace Audit

open Volume

variable {volume : Volume} {card : Card} {rules : Rules}

/-- The folder in which the launcher keeps all configurations. -/
def launcherFolder (card : Card) : Path :=
  card.root.child "Emu"

theorem launcherConfig_eq (card : Card) (name : String) :
    card.launcherConfig name = ((launcherFolder card).child name).entry configName.bytes :=
  rfl

/-- The path of a configuration ends in what its way ends in. -/
structure FollowsWay (volume : Volume) (card : Card) (name : String) : Prop where
  /-- A fault of the launcher's folder, or of the one of the configuration, is the fault. -/
  faulty : ∀ folder ∈ [launcherFolder card, (launcherFolder card).child name], ∀ fault,
    volume.locate true folder = .error fault →
      volume.status? (card.launcherConfig name) = .error fault
  /-- Something else in the place of a folder is a fault of its own. -/
  closed : ∀ folder ∈ [launcherFolder card, (launcherFolder card).child name], ∀ location,
    volume.locate true folder = .ok location → volume.isFolderAt location = false →
      volume.status? (card.launcherConfig name) = .error .notDirectory
  /-- In a folder without the file nothing is found. -/
  absent : ∀ location, volume.locate true ((launcherFolder card).child name) = .ok location →
    volume.isFolderAt location = true → volume.node? (configName :: location) = none →
      volume.status? (card.launcherConfig name) = .error .notFound

/-- A path that is not refused for its text ends in what its way ends in. -/
theorem followsWay {name : String} (relative : (Path.ofText name).isAbsolute = false)
    (accepted : refusal? (card.launcherConfig name) = none) : FollowsWay volume card name := by
  have plain : (Path.ofText "config.json").isAbsolute = false := by decide
  have top : (launcherFolder card).bytes ≠ [] := bytes_entry_ne_nil card.root emuName
  have below : ((launcherFolder card).child name).bytes ≠ [] := fun nothing =>
    top (List.prefix_nil.mp (nothing ▸ prefix_join _ relative))
  have passed : refusal? ((launcherFolder card).child name) = none :=
    refusal?_of_prefix (prefix_join _ plain) below accepted
  have inner (fault : Fault)
      (failed : volume.locate true ((launcherFolder card).child name) = .error fault) :
      volume.status? (card.launcherConfig name) = .error fault :=
    status?_of_locate_error (locate_join_of_error below plain accepted failed)
  constructor
  case faulty =>
    intro folder member fault failed
    rcases List.mem_pair.mp member with rfl | rfl
    · exact inner fault (locate_join_of_error top relative passed failed)
    · exact inner fault failed
  case closed =>
    intro folder member location reached closed
    rcases List.mem_pair.mp member with rfl | rfl
    · exact inner _ (locate_join_of_closed relative passed reached closed)
    · exact status?_of_locate_error (locate_join_of_closed plain accepted reached closed)
  case absent =>
    intro location reached opened nothing
    rw [launcherConfig_eq] at accepted ⊢
    exact (entryAt_entry accepted (by decide) reached opened).status?_none nothing

/-- What is found out about a console whose configuration leads nowhere. -/
theorem findingFor_of_fault {name : Name} {console : String} {fault : Fault}
    (kept : console ∉ rules.skip)
    (failed : volume.status? (card.launcherConfig (rules.configName console)) = .error fault) :
    findingFor volume card rules (name, console) =
      if fault = .notFound then
        .ok (.unconfigured console (card.launcherConfig (rules.configName console)))
      else
        .error (.config
          (.unreadable (card.launcherConfig (rules.configName console)) fault)) := by
  rw [findingFor, examine_of_kept kept, configOf]
  by_cases absent : fault = .notFound
  · subst absent
    rw [Launcher.load?_eq_none_iff.mpr failed, if_pos rfl]
  · rw [Launcher.load?_of_fault failed absent, if_neg absent]

/-- An audit comes to its end exactly if nothing is found at the path of each configuration that
cannot be used. -/
theorem exists_report_iff_status : (∃ result, report volume card rules = .ok result) ↔
    volume.isFolder card.games = true ∧ ∀ name console, IsConsole volume card rules name console →
      volume.status? (card.launcherConfig (rules.configName console)) = .error .notFound ∨
        ∃ launcher, configOf volume card rules console = .ok (some launcher) := by
  have usable (console : String) : (∃ config, configOf volume card rules console = .ok config) ↔
      volume.status? (card.launcherConfig (rules.configName console)) = .error .notFound ∨
        ∃ launcher, configOf volume card rules console = .ok (some launcher) := by
    rw [← Launcher.load?_eq_none_iff]
    constructor
    · rintro ⟨none | launcher, loaded⟩
      · exact .inl loaded
      · exact .inr ⟨launcher, loaded⟩
    · rintro (none | ⟨launcher, loaded⟩)
      · exact ⟨_, none⟩
      · exact ⟨_, loaded⟩
  simp only [exists_report_iff, usable]

/-- The launcher has no configuration exactly where nothing is found, and then the audit passes over
the console.  Every other fault of the path ends the audit, a file in the place of a folder
included: then the path ends in a fault of its own. -/
theorem unconfigured_exact (volume : Volume) (card : Card) (rules : Rules) :
    let config console := card.launcherConfig (rules.configName console)
    (∀ path, Launcher.load? volume path = .ok none ↔ volume.status? path = .error .notFound) ∧
    (∀ name console fault, IsConsole volume card rules name console →
      volume.status? (config console) = .error fault →
        findingFor volume card rules (name, console) =
            (if fault = .notFound then .ok (.unconfigured console (config console))
              else .error (.config (.unreadable (config console) fault))) ∧
          (fault ≠ .notFound → ∃ error, report volume card rules = .error error)) ∧
    ((∃ result, report volume card rules = .ok result) ↔ volume.isFolder card.games = true ∧
      ∀ name console, IsConsole volume card rules name console →
        volume.status? (config console) = .error .notFound ∨
          ∃ launcher, configOf volume card rules console = .ok (some launcher)) ∧
    (∀ result, report volume card rules = .ok result → ∀ console,
      console ∈ result.unconfigured ↔ (∃ name, IsConsole volume card rules name console) ∧
        volume.status? (config console) = .error .notFound) ∧
    ∀ console, (Path.ofText (rules.configName console)).isAbsolute = false →
      refusal? (config console) = none → FollowsWay volume card (rules.configName console) := by
  intro config
  refine ⟨fun path => Launcher.load?_eq_none_iff, fun name console fault isConsole failed => ?_,
    exists_report_iff_status, fun result completed console => ?_,
    fun console relative accepted => followsWay relative accepted⟩
  · refine ⟨findingFor_of_fault isConsole.kept failed, fun other => ?_⟩
    cases ended : report volume card rules with
    | error error => exact ⟨error, rfl⟩
    | ok result =>
        obtain ⟨-, all⟩ := exists_report_iff_status.mp ⟨result, ended⟩
        rcases all name console isConsole with absent | ⟨launcher, loaded⟩
        · rw [failed] at absent
          exact absurd (Except.error.inj absent) other
        · rw [configOf, Launcher.load?_of_fault failed other] at loaded
          cases loaded
  · obtain ⟨above, found, reached, -, ended, rfl⟩ := report_eq_ok_iff.mp completed
    rw [← Launcher.load?_eq_none_iff]
    exact mem_filterMap_findings reached ended fun name console finding other isFinding =>
      unconfigured?_of_findingFor isFinding

/-- On the small card the folder for one configuration is absent, and the audit passes over the
console. -/
theorem unconfigured_smallCard :
    report smallCard ⟨.ofText "."⟩ .standard = .ok ⟨[gamePath gameBoy gameFile], ["FC"], 1⟩ ∧
      smallCard.locate true ((launcherFolder ⟨.ofText "."⟩).child "FC") = .error .notFound ∧
      smallCard.status? (Card.launcherConfig ⟨.ofText "."⟩ "FC") = .error .notFound ∧
      IsConsole smallCard ⟨.ofText "."⟩ .standard famicom "FC" ∧
      findingFor smallCard ⟨.ofText "."⟩ .standard (famicom, "FC") =
        .ok (.unconfigured "FC" (Card.launcherConfig ⟨.ofText "."⟩ "FC")) := by
  have completed : report smallCard ⟨.ofText "."⟩ .standard =
      .ok ⟨[gamePath gameBoy gameFile], ["FC"], 1⟩ := by cbv
  have absent : smallCard.locate true ((launcherFolder ⟨.ofText "."⟩).child "FC") =
      .error .notFound := by cbv
  have named : Rules.standard.configName "FC" = "FC" := by cbv
  have accepted : refusal? (Card.launcherConfig ⟨.ofText "."⟩ "FC") = none := by cbv
  have isConsole : IsConsole smallCard ⟨.ofText "."⟩ .standard famicom "FC" :=
    ⟨by decide, by cbv, by decide⟩
  obtain ⟨-, finds, -, listed, ways⟩ := unconfigured_exact smallCard ⟨.ofText "."⟩ .standard
  obtain ⟨-, status⟩ := (listed _ completed "FC").mp List.mem_cons_self
  have found := (finds famicom "FC" .notFound isConsole status).1
  have way := ways "FC" (named ▸ by decide) (named ▸ accepted)
  simp only [named, if_true] at found
  rw [named] at way
  exact ⟨completed, absent, way.faulty _ (by simp) _ absent, isConsole, found⟩

/-- A card on which a file stands where the launcher's folder of a console is expected. -/
def blockedCard : Volume where
  entries := [([gamesName], .folder Node.folderMode),
    ([gameBoy, gamesName], .folder Node.folderMode),
    ([gameFile, gameBoy, gamesName], .file Node.fileMode []),
    ([emuName], .folder Node.folderMode), ([gameBoy, emuName], .file Node.fileMode [])]

/-- There is no configuration on that card, and the audit ends with an error. -/
theorem report_blockedCard :
    IsConsole blockedCard ⟨.ofText "."⟩ .standard gameBoy "GB" ∧
      blockedCard.contains (Card.launcherConfig ⟨.ofText "."⟩ "GB") = false ∧
      Launcher.load? blockedCard (Card.launcherConfig ⟨.ofText "."⟩ "GB") ≠ .ok none ∧
      report blockedCard ⟨.ofText "."⟩ .standard = .error (.config
        (.unreadable (Card.launcherConfig ⟨.ofText "."⟩ "GB") .notDirectory)) := by
  have loaded : Launcher.load? blockedCard (Card.launcherConfig ⟨.ofText "."⟩ "GB") =
      .error (.unreadable (Card.launcherConfig ⟨.ofText "."⟩ "GB") .notDirectory) := by cbv
  refine ⟨⟨by decide, by cbv, by decide⟩, by cbv, ?_, by cbv⟩
  rw [loaded]
  intro none
  cases none

end Audit
end CardKeeper

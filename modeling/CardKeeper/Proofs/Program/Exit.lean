import CardKeeper.Proofs.Command.Reader
import CardKeeper.Proofs.Path.Extension
import CardKeeper.Proofs.Playlist.Generate
import CardKeeper.Proofs.Thumbnail.Batch

/-!
# How the program ends

The exit code is all that a script learns about a run.  For every command line it is described here
together with what becomes of the volume: `run_ends`.  Each command has a lemma of its own, on its
activity alone, since the program adds nothing to these but the notices about the settings file.

What a request for a thumbnail finds is what the requests before it left.  So the requests of a
batch are described in turn, `AllPublished`, and the number of failures is zero exactly if all of
them are published, by induction on the batch.
-/

namespace CardKeeper

open Volume Publish

/-- An exit code that tells whether something holds. -/
def Tells (exit : Nat) (property : Prop) : Prop :=
  (property → exit = 0) ∧ (¬ property → exit = 1)

theorem tells_of_decided {exit : Nat} {property : Prop} (decided : Bool)
    (code : exit = if decided then 0 else 1) (correct : decided = true ↔ property) :
    Tells exit property := by
  rw [← correct]
  cases decided with
  | true => exact ⟨fun _ => code, fun denied => absurd rfl denied⟩
  | false => exact ⟨fun claimed => absurd claimed Bool.false_ne_true, fun _ => code⟩

theorem Tells.ne_two {exit : Nat} {property : Prop} (tells : Tells exit property) : exit ≠ 2 := by
  by_cases holds : property
  · rw [tells.1 holds]
    decide
  · rw [tells.2 holds]
    decide

/-! ## Requests -/

namespace ThumbnailRequest

variable {tools : ImageTools} {temporary : Path} {volume : Volume} {request : ThumbnailRequest}

/-- Both tools succeed, the second on what the first has left, and what is then in the staging file
is published at the output. -/
def IsPublished (tools : ImageTools) (temporary : Path) (volume : Volume)
    (request : ThumbnailRequest) : Prop :=
  ∃ name folder, spareName .staging temporary request.output volume = .ok (name, folder) ∧
    let staging := (volume.absolute temporary).entry name.bytes
    let staged := volume.put (name :: folder) (.file stagingMode [])
    let resized := tools.resize request.source staging request.crop? .thumbnail staged
    let optimized := tools.optimize staging request.options resized.volume
    resized.result = .ok () ∧ optimized.result = .ok () ∧
      ∃ content, optimized.volume.read staging = .ok content ∧
        (publish request.output content optimized.volume).result = .ok ()

theorem isOk_generate_iff_isPublished :
    (request.generate tools temporary volume).result.isOk = true ↔
      request.IsPublished tools temporary volume := by
  rw [isOk_iff, IsPublished]
  cases found : spareName .staging temporary request.output volume with
  | error fault => simp [generate_of_fault found]
  | ok draft =>
      obtain ⟨name, folder⟩ := draft
      simp only [generate_of_room found, Activity.cleaningUp, process_eq_ok_iff, Except.ok.injEq,
        Prod.mk.injEq]
      constructor
      · rintro ⟨path, -, done⟩
        exact ⟨name, folder, ⟨rfl, rfl⟩, done⟩
      · rintro ⟨_, _, ⟨rfl, rfl⟩, done⟩
        exact ⟨_, rfl, done⟩

/-- What requests leave when they are made one after the other. -/
def afterAll (tools : ImageTools) (temporary : Path) (requests : List ThumbnailRequest)
    (volume : Volume) : Volume :=
  requests.foldl (fun found request => (request.generate tools temporary found).volume) volume

/-- Each request is published on what the ones before it left. -/
def AllPublished (tools : ImageTools) (temporary : Path) :
    List ThumbnailRequest → Volume → Prop
  | [], _ => True
  | request :: rest, volume =>
      request.IsPublished tools temporary volume ∧
        AllPublished tools temporary rest (request.generate tools temporary volume).volume

/-- An output is given that cannot be used: for several sources, or where it or the source is not
the path of a PNG file. -/
def Misused (output : Option Path) (sources : List Path) : Prop :=
  ∃ goal, output = some goal ∧ (1 < sources.length ∨
    (∃ source ∈ sources, ¬ source.EndsIn (Utf8.encode "png")) ∨ ¬ goal.EndsIn (Utf8.encode "png"))

theorem isPng_iff {path : Path} : isPng path = true ↔ path.EndsIn (Utf8.encode "png") := by
  have plain : Path.dot ∉ Utf8.encode "png" := by decide
  rw [isPng, beq_iff_eq, Card.imageExtension, Path.extension?_eq_some_iff]
  exact and_iff_left plain

end ThumbnailRequest

namespace Program

open ThumbnailRequest

variable {environment : Environment} {settings : Settings} {output : Option Path}
  {fast pico8 : Bool} {sources : List Path} {arguments : List String} {volume : Volume}
  {invocation : Invocation}

/-- The requests that are asked for, unless the output is misused. -/
theorem requests_of_accepted (accepted : ¬ Misused output sources) :
    requests output fast pico8 sources = .ok (sources.map fun source =>
      ⟨source, output.getD (source.withExtension Card.imageExtension), fast, pico8⟩) := by
  cases output with
  | none => exact requests_none
  | some goal =>
      have fits : ¬ (1 < sources.length ∨ _) := fun wrong => accepted ⟨goal, rfl, wrong⟩
      simp only [not_or, not_exists, not_and, not_not, ← isPng_iff] at fits
      obtain ⟨few, sourcesFit, goalFits⟩ := fits
      match sources with
      | [] => rfl
      | [source] =>
          have sourceFits := sourcesFit source List.mem_cons_self
          simp [requests, make?, sourceFits, goalFits, Except.mapError, bind, Except.bind, pure,
            Except.pure]
      | _ :: _ :: _ => exact absurd (by simp) few

/-- A misused output is a matter of usage. -/
theorem requests_of_misused (given : sources ≠ []) (misused : Misused output sources) :
    ∃ text, requests output fast pico8 sources = .error (.usage text) := by
  obtain ⟨goal, rfl, wrong⟩ := misused
  simp only [← isPng_iff] at wrong
  match sources with
  | [] => exact absurd rfl given
  | [source] =>
      by_cases sourceFits : isPng source
      · have goalFits : ¬ isPng goal := by simpa [sourceFits] using wrong
        refine ⟨(RequestError.outputNotPng goal).text, ?_⟩
        simp [requests, make?, sourceFits, goalFits, Except.mapError, CommandError.ofThumbnail]
      · refine ⟨(RequestError.sourceNotPng source).text, ?_⟩
        simp [requests, make?, sourceFits, Except.mapError, CommandError.ofThumbnail]
  | _ :: _ :: _ => exact ⟨_, by simp [requests]; rfl⟩

theorem makeThumbnails_ends (tools : ImageTools) (temporary : Path)
    (requests : List ThumbnailRequest) (volume : Volume) :
    let made := makeThumbnails tools temporary requests volume
    made.volume = afterAll tools temporary requests volume ∧
      ∃ failed, made.result = .ok failed ∧
        (failed = 0 ↔ AllPublished tools temporary requests volume) := by
  induction requests generalizing volume with
  | nil => exact ⟨rfl, 0, rfl, by simp [AllPublished]⟩
  | cons request rest ih =>
      obtain ⟨left, ended⟩ := makeThumbnails_cons tools temporary request rest volume
      obtain ⟨after, more, counted, correct⟩ :=
        ih (request.generate tools temporary volume).volume
      refine ⟨left.trans after, _, ended.trans (congrArg _ counted), ?_⟩
      rw [AllPublished, ← correct, ← isOk_generate_iff_isPublished, failsAlone]
      cases (request.generate tools temporary volume).result.isOk <;> simp

/-- The settings file decides about the settings and nothing else. -/
theorem run_of_read (environment : Environment) (volume : Volume)
    (read : Command.read arguments = .ok invocation) :
    let settings := (Settings.load environment.settingsFile volume environment.diagnosis).1
    let outcome := runCommand environment settings invocation.command volume
    (run environment arguments volume).exit = exitCode outcome.result ∧
      (run environment arguments volume).volume = outcome.volume := by
  simp only [run, read, runInvocation, bind, Activity.andThen, Activity.look, Activity.announce,
    and_self]

theorem missingImgs_ends (environment : Environment) (settings : Settings) (folder : Option Path)
    (volume : Volume) :
    let outcome := missingImgs environment settings folder volume
    let card : Card := ⟨settings.cardFolder folder environment.current⟩
    Tells (exitCode outcome.result) (∃ report,
        Audit.report volume card settings.layout = .ok report ∧ report.missing = []) ∧
      outcome.volume = volume := by
  intro outcome card
  cases ended : Audit.report volume card settings.layout with
  | error error =>
      have failed : outcome.result = .error (.failed error.message) ∧ outcome.volume = volume := by
        simp only [outcome, missingImgs, bind, Activity.andThen, Activity.tell, Activity.look,
          Activity.announce, Activity.demand, card, ended, Except.mapError, and_self]
      exact ⟨tells_of_decided false (by rw [failed.1]; rfl) (by simp), failed.2⟩
  | ok report =>
      have done : outcome.result = .ok (if report.hasMissing then 1 else 0) ∧
          outcome.volume = volume := by
        simp only [outcome, missingImgs, bind, Activity.andThen, Activity.tell, Activity.look,
          Activity.announce, Activity.demand, card, ended, Except.mapError]
        cases report.unconfigured.isEmpty <;> exact ⟨rfl, rfl⟩
      refine ⟨tells_of_decided (!report.hasMissing) ?_ (by simp [AuditReport.hasMissing]), done.2⟩
      rw [done.1]
      cases report.hasMissing <;> rfl

/-- The playlists are what matters to `m3u`. -/
theorem m3u_ends (environment : Environment) (settings : Settings) (folder : Option Path)
    (dryRun : Bool) (volume : Volume) :
    let outcome := m3u environment settings folder dryRun volume
    let card : Card := ⟨settings.cardFolder folder environment.current⟩
    let generated :=
      Playlist.generate (card.console settings.layout.multiDiscConsole) dryRun volume
    Tells (exitCode outcome.result) (∃ report, generated.result = .ok report) ∧
      outcome.volume = generated.volume := by
  intro outcome card generated
  have same : outcome.volume = generated.volume ∧
      exitCode outcome.result = if generated.result.isOk then 0 else 1 := by
    cases dryRun with
    | false =>
        simp only [outcome, generated, m3u, bind, Bool.false_eq_true, if_false, Activity.andThen,
          Activity.orElse, card]
        cases (Playlist.generate _ _ volume).result <;> exact ⟨rfl, rfl⟩
    | true =>
        simp only [outcome, generated, m3u, bind, if_true, Activity.andThen, Activity.orElse,
          Activity.tell, card]
        cases (Playlist.generate _ _ volume).result <;> exact ⟨rfl, rfl⟩
  exact ⟨tells_of_decided _ same.2 isOk_iff, same.1⟩

/-- Requests that cannot be made end the command before a tool is looked at. -/
theorem runCommand_of_refused {error : CommandError}
    (refused : requests output fast pico8 sources = .error error) :
    runCommand environment settings (.thumbnail output fast pico8 sources) volume =
      ⟨[], volume, .error error⟩ := by
  simp only [runCommand, bind, Activity.andThen, Activity.demand, refused]

/-- Requests that can be made are made. -/
theorem thumbnails_ends (environment : Environment) (settings : Settings) (fast pico8 : Bool)
    (volume : Volume) (accepted : ¬ Misused output sources) :
    let outcome :=
      runCommand environment settings (.thumbnail output fast pico8 sources) volume
    let tools := environment.programs.imageTools settings.magick settings.imgoptim
    let requests : List ThumbnailRequest := sources.map fun source =>
      ⟨source, output.getD (source.withExtension Card.imageExtension), fast, pico8⟩
    Tells (exitCode outcome.result)
        (AllPublished tools environment.temporary requests volume) ∧
      outcome.volume = afterAll tools environment.temporary requests volume := by
  intro outcome tools requests
  obtain ⟨left, failed, counted, correct⟩ :=
    makeThumbnails_ends tools environment.temporary requests volume
  obtain ⟨same, code⟩ := makeAll_of_count counted
  have made : outcome = makeAll tools environment.temporary requests volume := by
    simp only [outcome, runCommand, bind, Activity.andThen, Activity.demand,
      requests_of_accepted accepted, List.nil_append]
    rfl
  rw [made, same, left]
  refine ⟨tells_of_decided (failed == 0) ?_ (beq_iff_eq.trans correct), rfl⟩
  simpa only [beq_iff_eq] using code

/-- For every command line: how the program ends, and what becomes of the volume. -/
theorem run_ends (environment : Environment) (arguments : List String) (volume : Volume) :
    let outcome := run environment arguments volume
    let settings := (Settings.load environment.settingsFile volume environment.diagnosis).1
    match Command.read arguments with
    | .error .help => outcome.exit = 0 ∧ outcome.volume = volume
    | .error (.usage _) => outcome.exit = 2 ∧ outcome.volume = volume
    | .ok invocation =>
        match invocation.command with
        | .missingImgs folder =>
            let card : Card := ⟨settings.cardFolder folder environment.current⟩
            Tells outcome.exit (∃ report,
                Audit.report volume card settings.layout = .ok report ∧ report.missing = []) ∧
              outcome.volume = volume
        | .m3u folder dryRun =>
            let card : Card := ⟨settings.cardFolder folder environment.current⟩
            let generated :=
              Playlist.generate (card.console settings.layout.multiDiscConsole) dryRun volume
            Tells outcome.exit (∃ report, generated.result = .ok report) ∧
              outcome.volume = generated.volume ∧ (dryRun = true → outcome.volume = volume)
        | .thumbnail output fast pico8 sources =>
            let tools := environment.programs.imageTools settings.magick settings.imgoptim
            let requests : List ThumbnailRequest := sources.map fun source =>
              ⟨source, output.getD (source.withExtension "png"), fast, pico8⟩
            (outcome.exit = 2 ↔ Misused output sources) ∧
            (Misused output sources → outcome.volume = volume ∧
              ∀ programs, run { environment with programs } arguments volume = outcome) ∧
            (¬ Misused output sources →
              Tells outcome.exit (AllPublished tools environment.temporary requests volume) ∧
                outcome.volume = afterAll tools environment.temporary requests volume)
        | .configShow | .configPath => outcome.exit = 0 ∧ outcome.volume = volume := by
  intro outcome settings
  cases read : Command.read arguments with
  | error stop =>
      cases stop with
      | help => simp only [outcome, run, read, and_self]
      | usage error => simp only [outcome, run, read, and_self]
  | ok invocation =>
      have complete := Command.isComplete_of_read read
      obtain ⟨exit, left⟩ := run_of_read environment volume read
      obtain ⟨quiet, verbose, command⟩ := invocation
      cases command with
      | missingImgs folder =>
          obtain ⟨tells, same⟩ := missingImgs_ends environment settings folder volume
          exact ⟨exit ▸ tells, left.trans same⟩
      | m3u folder dryRun =>
          obtain ⟨tells, same⟩ := m3u_ends environment settings folder dryRun volume
          refine ⟨exit ▸ tells, left.trans same, fun dry => ?_⟩
          subst dry
          exact left.trans (same.trans (Playlist.volume_generateBy_dryRun _ _ _))
      | thumbnail output fast pico8 sources =>
          by_cases misused : Misused output sources
          · obtain ⟨text, refused⟩ := requests_of_misused complete misused
            rw [runCommand_of_refused refused] at exit left
            refine ⟨⟨fun _ => misused, fun _ => exit⟩, fun _ => ⟨left, fun programs => ?_⟩,
              fun accepted => absurd misused accepted⟩
            simp only [outcome, run, read, runInvocation, bind, Activity.andThen, Activity.look,
              Activity.announce, runCommand_of_refused refused]
            rfl
          · obtain ⟨tells, same⟩ := thumbnails_ends environment settings fast pico8 volume misused
            rw [← exit] at tells
            exact ⟨⟨fun two => absurd two tells.ne_two, fun wrong => absurd wrong misused⟩,
              fun wrong => absurd wrong misused, fun _ => ⟨tells, left.trans same⟩⟩
      | configShow => exact ⟨exit, left⟩
      | configPath => exact ⟨exit, left⟩

end Program
end CardKeeper

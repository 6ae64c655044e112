import CardKeeper.Audit
import CardKeeper.Command.Reader
import CardKeeper.Log
import CardKeeper.Playlist
import CardKeeper.Settings
import CardKeeper.Thumbnail

/-!
# The program

From arguments to output: a command line is read, the settings are loaded, and the command runs.
Lines of output and shown events go to the standard output in the order in which they come about,
complaints to the standard error.  Events and usage errors are written as plain text.
-/

namespace CardKeeper

/-- What the program finds around it. -/
structure Environment where
  /-- The home folder that the user has set. -/
  home : Option Path
  /-- The home folder of the user's account. -/
  account : Option Path
  /-- The folder for configuration files. -/
  configuration : Option Path
  /-- The folder for temporary files. -/
  temporary : Path
  /-- The folder in which relative paths start, as an absolute path. -/
  current : Path
  /-- Directives for the log. -/
  log : Option String
  /-- The outside programs. -/
  programs : Programs
  /-- The time that stands in the log. -/
  time : String
  /-- What a reader of TOML says about a text that does not hold settings. -/
  diagnosis : String → String := Settings.brief
  /-- What is shown to arguments that ask for help. -/
  help : List String → String := fun _ => ""

namespace Environment

/-- The path of the settings file. -/
def settingsFile (environment : Environment) : Path :=
  Settings.path environment.home environment.account environment.configuration

end Environment

/-- Why a command does not succeed. -/
inductive CommandError where
  /-- Its arguments do not go together. -/
  | usage (text : String)
  /-- It failed. -/
  | failed (text : String)
  deriving DecidableEq

/-- An error of a thumbnail as one of its command.  Only what is wrong with a request is a matter of
usage. -/
def CommandError.ofThumbnail : ThumbnailError → CommandError
  | .request error => .usage error.text
  | error => .failed error.message

/-- How the program ends. -/
structure ProgramOutcome where
  /-- The exit code. -/
  exit : Nat
  /-- The standard output. -/
  output : String
  /-- The standard error. -/
  complaints : String
  /-- What is left behind. -/
  volume : Volume

namespace Program

/-- List the games without a preview image.  The exit code tells whether there are any. -/
def missingImgs (environment : Environment) (settings : Settings) (folder : Option Path) :
    Activity CommandError Nat := do
  let card : Card := ⟨settings.cardFolder folder environment.current⟩
  .tell (.checking card.root)
  .announce (← .look fun volume => Audit.notices volume card settings.layout)
  let report ← .demand fun volume =>
    (Audit.report volume card settings.layout).mapError fun error => .failed error.message
  .tell (.checked report.examined report.missing.length)
  if !report.unconfigured.isEmpty then .tell (.unconfiguredAll report.unconfigured)
  return if report.hasMissing then 1 else 0

/-- Write the playlists of the console whose titles are folders of discs. -/
def m3u (environment : Environment) (settings : Settings) (folder : Option Path)
    (dryRun : Bool) : Activity CommandError Nat := do
  let card : Card := ⟨settings.cardFolder folder environment.current⟩
  let root := card.console settings.layout.multiDiscConsole
  if dryRun then .tell .dryRun
  let report ← (Playlist.generate root dryRun).orElse fun error => .failed error.message
  .tell (.playlistsDone root report.written.length report.unchanged)
  return 0

/-- The requests for thumbnails.  An output may be given for a single source only. -/
def requests (output : Option Path) (fast pico8 : Bool) (sources : List Path) :
    Except CommandError (List ThumbnailRequest) :=
  if output.isSome && 1 < sources.length then
    .error (.usage "--output can only be used with a single source image")
  else
    sources.mapM fun source =>
      (ThumbnailRequest.make? source output fast pico8).mapError fun error =>
        .ofThumbnail (.request error)

/-- Make a thumbnail and say so. -/
def makeThumbnail (tools : ImageTools) (temporary : Path) (request : ThumbnailRequest) :
    Activity ThumbnailError Unit := do
  let output ← request.generate tools temporary
  .tell (.made request.source output)

/-- Make thumbnails one after the other, past those that fail, and count these. -/
def makeThumbnails (tools : ImageTools) (temporary : Path) :
    List ThumbnailRequest → Activity CommandError Nat
  | [] => .done 0
  | request :: rest => do
      let made ← (makeThumbnail tools temporary request).attempt
      let failed ←
        match made with
        | .ok _ => pure 0
        | .error error => do
            .announce [.complaint ("✘ " ++ request.source.display ++ ": " ++ error.message)]
            pure 1
      let more ← makeThumbnails tools temporary rest
      return failed + more

/-- Make the requested thumbnails.  A single failure is told as the program's own. -/
def makeAll (tools : ImageTools) (temporary : Path) (requests : List ThumbnailRequest) :
    Activity CommandError Nat :=
  match requests with
  | [request] => do
      (makeThumbnail tools temporary request).orElse .ofThumbnail
      return 0
  | requests => do
      let failed ← makeThumbnails tools temporary requests
      if failed = 0 then return 0
      else
        .fail (.failed
          (toString failed ++ " of " ++ toString requests.length ++ " thumbnails failed"))

/-- Make the requested thumbnails with the tools that are set. -/
def thumbnails (environment : Environment) (settings : Settings)
    (requests : List ThumbnailRequest) : Activity CommandError Nat :=
  makeAll (environment.programs.imageTools settings.magick settings.imgoptim)
    environment.temporary requests

/-- Show the settings and where they are. -/
def configShow (environment : Environment) (settings : Settings) :
    Activity CommandError Nat := do
  let file := environment.settingsFile
  .tell (.settingsFile file (← .look fun volume => volume.contains file))
  .tell .gap
  .tell (.settingsText (String.ofList (Text.trimEnd settings.text.toList)))
  return 0

/-- Run a command with settings. -/
def runCommand (environment : Environment) (settings : Settings) :
    Command → Activity CommandError Nat
  | .missingImgs folder => missingImgs environment settings folder
  | .m3u folder dryRun => m3u environment settings folder dryRun
  | .thumbnail output fast pico8 sources => do
      let requests ← .demand fun _ => requests output fast pico8 sources
      thumbnails environment settings requests
  | .configShow => configShow environment settings
  | .configPath => do
      .announce [.line environment.settingsFile.display]
      return 0

/-- Load the settings and run a command. -/
def runInvocation (environment : Environment) (invocation : Invocation) :
    Activity CommandError Nat := do
  let (settings, notices) ← .look fun volume =>
    Settings.load environment.settingsFile volume environment.diagnosis
  .announce notices
  runCommand environment settings invocation.command

/-- A text as a line. -/
def asLine (text : String) : String :=
  text ++ "\n"

/-- What notices write to the standard output.  Each event is plain text by itself, with its end of
line, while other lines stand as they are. -/
def output (filter : LogFilter) (time : Option String) (notices : List Notice) : String :=
  String.join <| notices.map fun notice =>
    match notice with
    | .event event => if filter.shows event then Text.plain (asLine (event.line time)) else ""
    | .line text => asLine text
    | .complaint _ => ""

/-- What notices write to the standard error. -/
def complaints (notices : List Notice) : String :=
  String.join <| notices.map fun notice =>
    match notice with
    | .complaint text => asLine text
    | _ => ""

/-- The exit code for the end of a command. -/
def exitCode : Except CommandError Nat → Nat
  | .ok exit => exit
  | .error (.failed _) => 1
  | .error (.usage _) => 2

/-- What is written to the standard error about the end of a command. -/
def lastWords : Except CommandError Nat → String
  | .ok _ => ""
  | .error (.failed text) => asLine ("error: " ++ text)
  | .error (.usage text) => (UsageError.rejected text).report

/-- Run the program. -/
def run (environment : Environment) (arguments : List String) (volume : Volume) :
    ProgramOutcome :=
  match Command.read arguments with
  | .error .help => ⟨0, environment.help arguments, "", volume⟩
  | .error (.usage error) => ⟨2, "", error.report, volume⟩
  | .ok invocation =>
      let flags := LogFilter.ofFlags invocation.quiet invocation.verbose
      let (filter, warnings) :=
        match environment.log with
        | some list => flags.extend list
        | none => (flags, [])
      let outcome := runInvocation environment invocation volume
      let time := if invocation.verbose then some environment.time else none
      { exit := exitCode outcome.result
        output := output filter time outcome.notices
        complaints := String.join (warnings.map asLine) ++ complaints outcome.notices ++
          lastWords outcome.result
        volume := outcome.volume }

end Program
end CardKeeper

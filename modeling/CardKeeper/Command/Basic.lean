import CardKeeper.Path
import CardKeeper.Text.ControlSequence

/-!
# Commands

What the program can be asked to do, and what can be wrong with the way it is asked.
-/

namespace CardKeeper

/-- What the program is asked to do. -/
inductive Command where
  /-- List games without a preview image. -/
  | missingImgs (folder : Option Path)
  /-- Write playlists. -/
  | m3u (folder : Option Path) (dryRun : Bool)
  /-- Make thumbnails. -/
  | thumbnail (output : Option Path) (fast pico8 : Bool) (sources : List Path)
  /-- Show the settings. -/
  | configShow
  /-- Show where the settings are. -/
  | configPath
  deriving DecidableEq

/-- A command with the flags that decide how much is told about it. -/
structure Invocation where
  /-- Only warnings and errors are told. -/
  quiet : Bool
  /-- Everything is told, with times, levels and sources. -/
  verbose : Bool
  /-- The command. -/
  command : Command
  deriving DecidableEq

/-- Something that is written with dashes. -/
inductive Switch where
  /-- `--quiet`. -/
  | quiet
  /-- `--verbose`. -/
  | verbose
  /-- `--dry-run`. -/
  | dryRun
  /-- `--output`, which has a value. -/
  | output
  /-- `--fast`. -/
  | fast
  /-- `--pico8`. -/
  | pico8
  /-- `--help`. -/
  | help
  deriving DecidableEq

namespace Switch

/-- The long name of a switch. -/
def long : Switch → String
  | .quiet => "quiet"
  | .verbose => "verbose"
  | .dryRun => "dry-run"
  | .output => "output"
  | .fast => "fast"
  | .pico8 => "pico8"
  | .help => "help"

/-- The letter of a switch, if it has one. -/
def letter? : Switch → Option Char
  | .verbose => some 'v'
  | .dryRun => some 'n'
  | .output => some 'o'
  | .help => some 'h'
  | _ => none

/-- Whether a switch has a value. -/
def takesValue : Switch → Bool
  | .output => true
  | _ => false

/-- A switch as it is shown. -/
def shown (switch : Switch) : String :=
  "--" ++ switch.long ++ if switch.takesValue then " <OUTPUT>" else ""

end Switch

/-- A word of the command line that names a command or a group of commands. -/
inductive Scope where
  /-- The program itself. -/
  | program
  /-- `missing-imgs`. -/
  | missingImgs
  /-- `m3u`. -/
  | m3u
  /-- `thumbnail`. -/
  | thumbnail
  /-- `config`, a group. -/
  | config
  /-- `config show`. -/
  | configShow
  /-- `config path`. -/
  | configPath
  deriving DecidableEq

namespace Scope

/-- The words that may follow in a group, with what they name. -/
def members : Scope → List (String × Scope)
  | .program =>
      [("missing-imgs", .missingImgs), ("m3u", .m3u), ("thumbnail", .thumbnail),
        ("config", .config)]
  | .config => [("show", .configShow), ("path", .configPath)]
  | _ => []

/-- Whether a word has to follow. -/
def isGroup (scope : Scope) : Bool :=
  !scope.members.isEmpty

/-- What a word names in a group. -/
def member? (scope : Scope) (word : String) : Option Scope :=
  (scope.members.find? fun entry => entry.1 == word).map (·.2)

/-- The switches that may be written after a word. -/
def switches : Scope → List Switch
  | .m3u => [.dryRun, .quiet, .verbose, .help]
  | .thumbnail => [.output, .fast, .pico8, .quiet, .verbose, .help]
  | _ => [.quiet, .verbose, .help]

/-- The words that lead to a group. -/
def title : Scope → String
  | .config => "miyoo-junk config"
  | _ => "miyoo-junk"

/-- What a group is for. -/
def about : Scope → String
  | .config => "Inspect the settings file"
  | _ => "Maintenance tools for a Miyoo Mini SD card"

/-- How the values of a command are shown. -/
def valueName : Scope → String
  | .thumbnail => "<PATHS>..."
  | _ => "[SDCARD_DIR]"

/-- Whether one more value may be written after some. -/
def takesValueAfter (scope : Scope) (count : Nat) : Bool :=
  match scope with
  | .missingImgs | .m3u => count = 0
  | .thumbnail => true
  | _ => false

end Scope

/-- What is wrong with a command line. -/
inductive UsageError where
  /-- An argument has no place. -/
  | unexpected (argument : String)
  /-- A word names no command. -/
  | unknownCommand (word : String)
  /-- A value is missing or empty. -/
  | valueMissing (name : String)
  /-- A switch without a value has one. -/
  | valueUnexpected (value : String) (switch : Switch)
  /-- A switch is written twice. -/
  | repeated (switch : Switch)
  /-- Two switches exclude each other. -/
  | conflict (first second : Switch)
  /-- No source is given. -/
  | sourcesMissing
  /-- A group of commands has flags but no command. -/
  | commandMissing (group : Scope)
  /-- Nothing follows a group of commands. -/
  | nothing (group : Scope)
  /-- The arguments of a command do not go together. -/
  | rejected (text : String)
  deriving DecidableEq

/-- What the report of an error starts with.  An argument is shown as plain text. -/
def UsageError.headline : UsageError → String
  | .unexpected argument => "error: unexpected argument '" ++ Text.plain argument ++ "' found"
  | .unknownCommand word => "error: unrecognized subcommand '" ++ Text.plain word ++ "'"
  | .valueMissing name => "error: a value is required for '" ++ name ++ "' but none was supplied"
  | .valueUnexpected value switch =>
      "error: unexpected value '" ++ Text.plain value ++ "' for '" ++ switch.shown ++
        "' found; no more were expected"
  | .repeated switch =>
      "error: the argument '" ++ switch.shown ++ "' cannot be used multiple times"
  | .conflict first second =>
      "error: the argument '" ++ first.shown ++ "' cannot be used with '" ++ second.shown ++ "'"
  | .sourcesMissing => "error: the following required arguments were not provided:"
  | .commandMissing group =>
      "error: '" ++ group.title ++ "' requires a subcommand but one was not provided"
  | .nothing group => group.about
  | .rejected text => "error: " ++ text

/-- How the program is used. -/
def usageLine : String := "Usage: miyoo-junk [OPTIONS] <COMMAND>"

/-- The report of an error.  A rejection names paths as they are, so that a control sequence in one
goes on until the line on usage. -/
def UsageError.report (error : UsageError) : String :=
  let hint := "For more information, try '--help'.\n"
  match error with
  | .rejected _ => Text.plain (error.headline ++ "\n\n") ++ usageLine ++ "\n\n" ++ hint
  | _ => error.headline ++ "\n\n" ++ hint

end CardKeeper

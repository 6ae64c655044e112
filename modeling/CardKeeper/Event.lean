import CardKeeper.Path
import CardKeeper.Picture
import CardKeeper.Text.Quoted

/-!
# Events

What the program has to tell while it works.  An event has a level, which decides whether it is
shown, a source, which names the part of the program that tells it, and a text.
-/

namespace CardKeeper

/-- How much an event matters. -/
inductive Level where
  /-- Something failed. -/
  | error
  /-- Something is not as it should be. -/
  | warn
  /-- What the program does. -/
  | info
  /-- How the program does it. -/
  | debug
  /-- Everything. -/
  | trace
  deriving DecidableEq

namespace Level

/-- The rank of a level; less important levels rank higher. -/
def rank : Level → Nat
  | .error => 1
  | .warn => 2
  | .info => 3
  | .debug => 4
  | .trace => 5

/-- The name of a level. -/
def name : Level → String
  | .error => "ERROR"
  | .warn => "WARN"
  | .info => "INFO"
  | .debug => "DEBUG"
  | .trace => "TRACE"

end Level

/-- Something that happened. -/
inductive Event where
  /-- A console is left out of the audit. -/
  | skipping (console : String)
  /-- The launcher has no configuration for a console. -/
  | unconfigured (console : String) (config : Path)
  /-- A title has no discs. -/
  | noDiscs (title : Path)
  /-- A playlist is about to be written. -/
  | writing (playlist : Path)
  /-- A playlist would be written. -/
  | wouldWrite (playlist : Path)
  /-- A file was published. -/
  | published (file : Path) (size : Nat)
  /-- A picture is about to be resized. -/
  | resizing (source : Path) (size : Size) (crop : Option Crop)
  /-- A tool is about to run. -/
  | running (program : String) (arguments : List Bytes)
  /-- The settings file is not used. -/
  | ignoring (settings : Path) (reason : String)
  /-- An audit starts. -/
  | checking (root : Path)
  /-- An audit is done. -/
  | checked (consoles missing : Nat)
  /-- These consoles have no configuration. -/
  | unconfiguredAll (consoles : List String)
  /-- Nothing will be written. -/
  | dryRun
  /-- Playlists are done. -/
  | playlistsDone (root : Path) (written unchanged : Nat)
  /-- A thumbnail was made. -/
  | made (source output : Path)
  /-- Where the settings are. -/
  | settingsFile (file : Path) (present : Bool)
  /-- An empty line. -/
  | gap
  /-- The settings in force. -/
  | settingsText (text : String)
  deriving DecidableEq

namespace Event

/-- How much an event matters. -/
def level : Event → Level
  | .ignoring _ _ => .warn
  | .writing _ | .wouldWrite _ | .dryRun | .made _ _ | .settingsFile _ _ | .gap
  | .settingsText _ => .info
  | _ => .debug

/-- The part of the program that tells an event. -/
def source : Event → String
  | .skipping _ | .unconfigured _ _ => "miyoo_junk_lib::audit"
  | .noDiscs _ | .writing _ | .wouldWrite _ => "miyoo_junk_lib::playlist"
  | .published _ _ => "miyoo_junk_lib::publish"
  | .resizing _ _ _ => "miyoo_junk_lib::thumbnail"
  | .running _ _ => "miyoo_junk_lib::tools"
  | .ignoring _ _ => "miyoo_junk_lib::settings"
  | .checking _ | .checked _ _ | .unconfiguredAll _ => "miyoo_junk::commands::missing_imgs"
  | .dryRun | .playlistsDone _ _ _ => "miyoo_junk::commands::m3u"
  | .made _ _ => "miyoo_junk::commands::thumbnail"
  | .settingsFile _ _ | .gap | .settingsText _ => "miyoo_junk::commands::config"

/-- The words for an event. -/
def text : Event → String
  | .skipping console => "Skipping " ++ console
  | .unconfigured console config => "No config for " ++ console ++ " at " ++ config.display
  | .noDiscs title => "No disc files in " ++ title.display
  | .writing playlist => "Writing " ++ playlist.display
  | .wouldWrite playlist => "Would write " ++ playlist.display
  | .published file size => "Published " ++ file.display ++ " (" ++ toString size ++ " bytes)"
  | .resizing source size crop =>
      "Resizing " ++ source.display ++ " to " ++ size.text ++
        match crop with
        | some crop => " (crop " ++ crop.text ++ ")"
        | none => ""
  | .running program arguments =>
      "Running " ++ program ++ " " ++ Text.quotedList arguments
  | .ignoring settings reason => "Ignoring " ++ settings.display ++ ": " ++ reason
  | .checking root => "Checking preview images in " ++ root.display
  | .checked consoles missing =>
      toString consoles ++ " consoles checked, " ++ toString missing ++ " missing"
  | .unconfiguredAll consoles => "No config for: " ++ ", ".intercalate consoles
  | .dryRun => "Dry run: no files will be modified"
  | .playlistsDone root written unchanged =>
      root.display ++ ": " ++ toString written ++ " written, " ++ toString unchanged ++ " unchanged"
  | .made source output => "✔ " ++ source.display ++ " → " ++ output.display
  | .settingsFile file present =>
      "Settings file: " ++ file.display ++
        if present then " (exists)" else " (not found, using defaults)"
  | .gap => ""
  | .settingsText text => text

end Event

/-- Something the program tells the outside. -/
inductive Notice where
  /-- An event, which the log may show. -/
  | event (event : Event)
  /-- A line of the program's output. -/
  | line (text : String)
  /-- A complaint. -/
  | complaint (text : String)
  deriving DecidableEq

end CardKeeper

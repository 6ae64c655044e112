import CardKeeper.Card
import CardKeeper.Event
import CardKeeper.Gather
import CardKeeper.Launcher
import CardKeeper.Rules
import CardKeeper.Volume.Walk

/-!
# Missing preview images

An audit looks at the consoles of a card in the order of their names and gives a finding for each,
until the first one that cannot be examined.  What has been found missing by then is told even so.
-/

namespace CardKeeper

/-- Why the launcher's configuration of a console cannot be used. -/
inductive ConfigError where
  /-- The file is there but cannot be read. -/
  | unreadable (path : Path) (fault : Fault)
  /-- The file does not hold a configuration. -/
  | malformed (path : Path) (error : Json.Error)
  deriving DecidableEq

/-- The words for an error. -/
def ConfigError.message : ConfigError → String
  | .unreadable path fault => "I/O error reading " ++ path.display ++ ": " ++ fault.message
  | .malformed path error => "Malformed config " ++ path.display ++ ": " ++ error.message

/-- The configuration in the file at a path.  Where nothing is, there is none. -/
def Launcher.load? (volume : Volume) (path : Path) : Except ConfigError (Option Launcher) :=
  match volume.readText path with
  | .error .notFound => .ok none
  | .error fault => .error (.unreadable path fault)
  | .ok text =>
      match Launcher.ofJson? text with
      | .ok launcher => .ok (some launcher)
      | .error error => .error (.malformed path error)

/-- Why an audit ends early. -/
inductive AuditError where
  /-- A folder cannot be listed. -/
  | unlisted (folder : Path) (fault : Fault)
  /-- The configuration of a console cannot be used. -/
  | config (error : ConfigError)
  deriving DecidableEq

/-- The words for an error. -/
def AuditError.message : AuditError → String
  | .unlisted folder fault => "Cannot read " ++ folder.display ++ ": " ++ fault.message
  | .config error => error.message

/-- What an audit finds out about a console. -/
inductive Finding where
  /-- The rules leave the console out. -/
  | skipped (console : String)
  /-- The launcher has no configuration for it. -/
  | unconfigured (console : String) (config : Path)
  /-- It was examined, and these of its entries have no preview image. -/
  | examined (console : String) (missing : List Path)
  deriving DecidableEq

namespace Audit

/-- The entries of a folder in the order of their names. -/
def entries (volume : Volume) (folder : Path) : Except AuditError (List Path) :=
  (volume.sortedEntries folder).mapError (.unlisted folder)

/-- Whether a file is a game for a console that accepts these extensions. -/
def isGame (volume : Volume) (extensions : List String) (path : Path) : Bool :=
  volume.isFile path &&
    match path.lowerExtension? with
    | some own => own != Launcher.reservedExtension && extensions.contains own
    | none => false

/-- Whether a path is the folder of a title. -/
def isTitle (volume : Volume) (path : Path) : Bool :=
  volume.isFolder path && path.fileName? != some (Utf8.encode Card.imageFolder)

/-- The name under which the image of a title is kept: without the dot that hides the title, if the
name is text. -/
def titleStem (name : Bytes) : Bytes :=
  match Utf8.decode? name with
  | some text => Utf8.encode (Card.unhide text)
  | none => name

/-- Whether a folder of games has no preview image for a stem. -/
def lacksImage (volume : Volume) (folder : Path) (stem : Option Bytes) : Bool :=
  match stem with
  | some stem => !volume.contains (Card.imagePath folder stem)
  | none => false

/-- The games in a folder that have no preview image. -/
def missingGames (volume : Volume) (folder : Path) (extensions : List String) :
    Except AuditError (List Path) :=
  (entries volume folder).map fun paths => paths.filter fun path =>
    isGame volume extensions path && lacksImage volume folder path.stem?

/-- The titles in a folder that have no preview image. -/
def missingTitles (volume : Volume) (folder : Path) : Except AuditError (List Path) :=
  (entries volume folder).map fun paths => paths.filter fun path =>
    isTitle volume path && lacksImage volume folder (path.fileName?.map titleStem)

/-- The console whose folder is at a path, if its name is text. -/
def console? (volume : Volume) (path : Path) : Option (Path × String) :=
  if volume.isFolder path then
    (path.fileName?.bind Utf8.decode?).map fun console => (path, console)
  else none

/-- What there is to find out about a console. -/
def examine (volume : Volume) (card : Card) (rules : Rules) (folder : Path) (console : String) :
    Except AuditError Finding :=
  if rules.isSkipped console then .ok (.skipped console)
  else
    let config := card.launcherConfig (rules.configName console)
    match Launcher.load? volume config with
    | .error error => .error (.config error)
    | .ok none => .ok (.unconfigured console config)
    | .ok (some launcher) =>
        let missing :=
          if rules.isMultiDisc console then missingTitles volume folder
          else missingGames volume folder launcher.extensions
        missing.map fun paths => .examined console (paths.map card.relative)

/-- The findings of an audit up to its first error. -/
def findings (volume : Volume) (card : Card) (rules : Rules) : Gathered AuditError Finding :=
  match entries volume card.games with
  | .error error => ⟨[], some error⟩
  | .ok paths =>
      gather (fun (folder, console) => examine volume card rules folder console)
        (paths.filterMap (console? volume))

end Audit

namespace Finding

/-- The entries that a finding shows to have no preview image. -/
def missing : Finding → List Path
  | .examined _ paths => paths
  | _ => []

/-- The console of a finding if the launcher has no configuration for it. -/
def unconfigured? : Finding → Option String
  | .unconfigured console _ => some console
  | _ => none

/-- Whether the console was examined. -/
def isExamined : Finding → Bool
  | .examined _ _ => true
  | _ => false

/-- The events that come with a finding. -/
def events : Finding → List Event
  | .skipped console => [.skipping console]
  | .unconfigured console config => [.unconfigured console config]
  | .examined _ _ => []

/-- What is told about a finding as soon as it is made: its events, and a line for each entry that it
shows to have no preview image. -/
def notices (finding : Finding) : List Notice :=
  finding.events.map .event ++ finding.missing.map fun path => .line path.display

end Finding

/-- The result of an audit that came to its end. -/
structure AuditReport where
  /-- The entries without a preview image, as seen from the card's top folder. -/
  missing : List Path
  /-- The consoles without a configuration. -/
  unconfigured : List String
  /-- The number of consoles that were examined. -/
  examined : Nat
  deriving DecidableEq

namespace AuditReport

/-- The report of some findings. -/
def ofFindings (findings : List Finding) : AuditReport where
  missing := findings.flatMap Finding.missing
  unconfigured := findings.filterMap Finding.unconfigured?
  examined := findings.countP Finding.isExamined

/-- Whether an entry is missing its preview image. -/
def hasMissing (report : AuditReport) : Bool :=
  !report.missing.isEmpty

end AuditReport

namespace Audit

/-- The entries that an audit tells to be missing, also when it ends early. -/
def streamed (volume : Volume) (card : Card) (rules : Rules) : List Path :=
  (findings volume card rules).results.flatMap Finding.missing

/-- The report of an audit, or the error that ends it. -/
def report (volume : Volume) (card : Card) (rules : Rules) : Except AuditError AuditReport :=
  let found := findings volume card rules
  match found.failure with
  | some error => .error error
  | none => .ok (.ofFindings found.results)

/-- What an audit tells, in order. -/
def notices (volume : Volume) (card : Card) (rules : Rules) : List Notice :=
  (findings volume card rules).results.flatMap Finding.notices

end Audit
end CardKeeper

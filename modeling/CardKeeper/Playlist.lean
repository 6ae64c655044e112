import CardKeeper.Card
import CardKeeper.Gather
import CardKeeper.Publish

/-!
# Playlists

A title on several discs is a folder of disc files.  Next to the folder stands a playlist that
names its discs, one on each line, as seen from the folder that holds both.  Planning finds out
which playlists there should be and how they compare with what is there; generating writes those
that are absent or differ.
-/

namespace CardKeeper

/-- How a playlist compares with what is at its path. -/
inductive PlaylistStatus where
  /-- Nothing is there. -/
  | create
  /-- Something else is there. -/
  | update
  /-- It is there. -/
  | unchanged
  deriving DecidableEq

/-- A playlist that there should be. -/
structure PlaylistPlan where
  /-- Where it should be. -/
  path : Path
  /-- What it should hold. -/
  content : String
  /-- How it compares with what is there. -/
  status : PlaylistStatus
  deriving DecidableEq

/-- Why playlists cannot be planned or written. -/
inductive PlaylistError where
  /-- The folder of titles is not a folder. -/
  | missingFolder (folder : Path)
  /-- A file or a folder cannot be used. -/
  | file (path : Path) (fault : Fault)
  deriving DecidableEq

/-- The words for an error. -/
def PlaylistError.message : PlaylistError → String
  | .missingFolder folder => "Directory not found: " ++ folder.display
  | .file path fault => "I/O error on " ++ path.display ++ ": " ++ fault.message

/-- What planning finds out about the folder of a title. -/
inductive TitleFinding where
  /-- It holds no discs. -/
  | noDiscs (folder : Path)
  /-- It needs a playlist. -/
  | playlist (plan : PlaylistPlan)
  deriving DecidableEq

/-- The plan of a finding, if there is one. -/
def TitleFinding.plan? : TitleFinding → Option PlaylistPlan
  | .noDiscs _ => none
  | .playlist plan => some plan

/-- What is told about a finding. -/
def TitleFinding.notices : TitleFinding → List Notice
  | .noDiscs folder => [.event (.noDiscs folder)]
  | .playlist _ => []

namespace Playlist

/-- The extension of the files that stand for discs. -/
def discExtension : String := "cue"

/-- The text that shows the name at the end of a path. -/
def nameText? (path : Path) : Option String :=
  path.fileName?.map Utf8.display

/-- Whether a path leads to a file that stands for a disc. -/
def isDisc (volume : Volume) (path : Path) : Bool :=
  volume.isFile path && path.hasExtension discExtension

/-- The lines of a title's playlist in order. -/
def discs (volume : Volume) (folder : Path) (title : String) (names : List Name) : List String :=
  let paths := (names.map fun name => folder.entry name.bytes).filter (isDisc volume)
  (paths.filterMap fun path => (nameText? path).map fun name => title ++ "/" ++ name).mergeSort
    fun left right => left ≤ right

/-- How a playlist compares with what is at a path. -/
def status (volume : Volume) (path : Path) (content : String) :
    Except PlaylistError PlaylistStatus :=
  match volume.read path with
  | .ok existing => .ok (if existing = Utf8.encode content then .unchanged else .update)
  | .error .notFound => .ok .create
  | .error fault => .error (.file path fault)

/-- Where the playlist of a title goes. -/
def pathFor (root : Path) (title : String) : Path :=
  root.child (Card.unhide title ++ "." ++ Card.playlistExtension)

/-- What there is to find out about the folder of a title. -/
def survey (volume : Volume) (root folder : Path) (title : String) :
    Except PlaylistError TitleFinding :=
  match volume.list folder with
  | .error fault => .error (.file folder fault)
  | .ok names =>
      let lines := discs volume folder title names
      if lines.isEmpty then .ok (.noDiscs folder)
      else
        let content := "\n".intercalate lines
        let path := pathFor root title
        (status volume path content).map fun status => .playlist ⟨path, content, status⟩

/-- The title whose folder is at a path. -/
def title? (volume : Volume) (path : Path) : Option (Path × String) :=
  if volume.isFolder path then (nameText? path).map fun title => (path, title) else none

/-- What planning finds out about the titles in a folder, up to its first error. -/
def findings (volume : Volume) (root : Path) : Gathered PlaylistError TitleFinding :=
  if !volume.isFolder root then ⟨[], some (.missingFolder root)⟩
  else
    match volume.sortedEntries root with
    | .error fault => ⟨[], some (.file root fault)⟩
    | .ok paths =>
        gather (fun (folder, title) => survey volume root folder title)
          (paths.filterMap (title? volume))

/-- The playlists that there should be for the titles in a folder. -/
def plans (volume : Volume) (root : Path) : Except PlaylistError (List PlaylistPlan) :=
  let found := findings volume root
  match found.failure with
  | some error => .error error
  | none => .ok (found.results.filterMap TitleFinding.plan?)

/-- What planning tells, in order. -/
def notices (volume : Volume) (root : Path) : List Notice :=
  (findings volume root).results.flatMap TitleFinding.notices

end Playlist

/-- What was done about playlists. -/
structure PlaylistReport where
  /-- The playlists that were written, or would have been. -/
  written : List Path
  /-- The number of playlists that were there. -/
  unchanged : Nat
  deriving DecidableEq

namespace Playlist

/-- The paths of the playlists that have to be written. -/
def pending (plans : List PlaylistPlan) : List PlaylistPlan :=
  plans.filter fun plan => plan.status != .unchanged

/-- The report of plans that were carried out. -/
def report (plans : List PlaylistPlan) : PlaylistReport where
  written := (pending plans).map PlaylistPlan.path
  unchanged := plans.countP fun plan => plan.status == .unchanged

/-- Write a playlist, or only say so. -/
def write (naming : Naming) (dryRun : Bool) (plan : PlaylistPlan) : Activity PlaylistError Unit :=
  if dryRun then .tell (.wouldWrite plan.path)
  else do
    .tell (.writing plan.path)
    (Publish.publishBy naming plan.path (Utf8.encode plan.content)).orElse (.file plan.path)

/-- Write playlists in order. -/
def writeAll (naming : Naming) (dryRun : Bool) : List PlaylistPlan → Activity PlaylistError Unit
  | [] => .done ()
  | plan :: rest => do
      write naming dryRun plan
      writeAll naming dryRun rest

/-- Write the playlists for the titles in a folder that are absent or differ, with drafts that are
named in some way. -/
def generateBy (naming : Naming) (root : Path) (dryRun : Bool) :
    Activity PlaylistError PlaylistReport := do
  .announce (← .look fun volume => notices volume root)
  let plans ← .demand fun volume => plans volume root
  writeAll naming dryRun (pending plans)
  return report plans

/-- Write the playlists for the titles in a folder that are absent or differ. -/
def generate (root : Path) (dryRun : Bool) : Activity PlaylistError PlaylistReport :=
  generateBy .draft root dryRun

end Playlist
end CardKeeper

import CardKeeper.Volume.Basic
import CardKeeper.Volume.Fault

/-!
# Following paths

A path leads from the top folder, or from the folder in which relative paths start, through one
folder after the other.  A link on the way is replaced by the path it holds; a link at the very end
is followed or not, as the operation asks.  One path may lead through forty links.

`status?`, `read`, `readText` and `list` look at what a path leads to.
-/

namespace CardKeeper
namespace Volume

/-- The number of links that one path may lead through. -/
def linkLimit : Nat := 40

/-- The number of bytes that a name may have. -/
def nameLimit : Nat := 255

/-- The number of bytes that a path may have. -/
def pathLimit : Nat := 4095

/-- Where a path starts, seen from a folder. -/
def start (path : Path) (folder : Location) : Location :=
  if path.isAbsolute then [] else folder

/-- The location that segments lead to from a location, with a number of links that may still be
followed.  A link behind the last segment is followed only if `follow` says so. -/
def walk (volume : Volume) (follow : Bool) (links : Nat) (here : Location) :
    List Bytes → Except Fault Location
  | [] => .ok here
  | segment :: rest =>
      if !volume.isFolderAt here then .error .notDirectory
      else if Path.isFiller segment then walk volume follow links here rest
      else if segment = [Path.dot, Path.dot] then walk volume follow links here.tail rest
      else if nameLimit < segment.length then .error .nameTooLong
      else
        match Name.ofBytes? segment with
        | none => .error .notFound
        | some name =>
            match volume.node? (name :: here) with
            | none => .error .notFound
            | some (.link target) =>
                if rest.isEmpty && !follow then .ok (name :: here)
                else if target.bytes.isEmpty then .error .notFound
                else
                  match links with
                  | 0 => .error .tooManyLinks
                  | links + 1 =>
                      walk volume follow links (start target here) (target.segments ++ rest)
            | some _ => walk volume follow links (name :: here) rest
termination_by segments => (links, segments.length)

/-- Why a path cannot be followed, whatever the volume holds. -/
def refusal? (path : Path) : Option Fault :=
  if path.bytes.contains 0 then some .nulInPath
  else if path.bytes.isEmpty then some .notFound
  else if pathLimit < path.bytes.length then some .nameTooLong
  else none

/-- The location that a path leads to. -/
def locate (volume : Volume) (follow : Bool) (path : Path) : Except Fault Location :=
  match refusal? path with
  | some fault => .error fault
  | none => volume.walk follow linkLimit (start path volume.current) path.segments

/-- The absolute path that spells a location. -/
def pathTo (location : Location) : Path :=
  .ofSegments true (location.reverse.map Name.bytes)

/-- A path as seen from the top folder. -/
def absolute (volume : Volume) (path : Path) : Path :=
  (pathTo volume.current).join path

/-- What a path leads to, through all links. -/
def status? (volume : Volume) (path : Path) : Except Fault Node :=
  (volume.locate true path).bind fun location =>
    match volume.node? location with
    | some node => .ok node
    | none => .error .notFound

/-- Whether a path leads to something. -/
def contains (volume : Volume) (path : Path) : Bool :=
  (volume.status? path).isOk

/-- Whether a path leads to a folder. -/
def isFolder (volume : Volume) (path : Path) : Bool :=
  match volume.status? path with
  | .ok node => node.isFolder
  | .error _ => false

/-- Whether a path leads to a file. -/
def isFile (volume : Volume) (path : Path) : Bool :=
  match volume.status? path with
  | .ok node => node.isFile
  | .error _ => false

/-- The content of the file that a path leads to. -/
def read (volume : Volume) (path : Path) : Except Fault Bytes :=
  (volume.status? path).bind fun node =>
    match node with
    | .file _ content => .ok content
    | .folder _ => .error .isDirectory
    | .link _ => .error .tooManyLinks

/-- The text of the file that a path leads to. -/
def readText (volume : Volume) (path : Path) : Except Fault String :=
  (volume.read path).bind fun content =>
    match Utf8.decode? content with
    | some text => .ok text
    | none => .error .notText

/-- The names in the folder that a path leads to. -/
def list (volume : Volume) (path : Path) : Except Fault (List Name) :=
  (volume.locate true path).bind fun location =>
    if volume.isFolderAt location then .ok (volume.names location) else .error .notDirectory

/-- Whether one name comes before another, or is the same, byte by byte. -/
def nameLe (left right : Name) : Bool :=
  left.bytes ≤ right.bytes

/-- The paths of the entries of a folder, in the order of their names. -/
def sortedEntries (volume : Volume) (folder : Path) : Except Fault (List Path) :=
  (volume.list folder).map fun names =>
    (names.mergeSort nameLe).map fun name => folder.entry name.bytes

end Volume
end CardKeeper

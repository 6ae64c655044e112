import CardKeeper.Activity
import CardKeeper.Volume.Spare
import CardKeeper.Volume.Walk

/-!
# Publishing a file

A file is replaced whole: its new content is first written to a draft in the same folder, and the
draft then takes the place of the old entry in one step.  Whoever reads the file finds the old
content or the new one.  A replaced file keeps its permissions, a new one has those that the mask of
the program leaves it, and a failure leaves no draft.

The steps are functions of their own, so that the work of several writers can be interleaved.  The
disk may fail in any of them; `Conditions` says in which it does.
-/

namespace CardKeeper
namespace Publish

/-- The folder in which the draft for a path is written. -/
def folderOf (path : Path) : Path :=
  match path.parent? with
  | some folder => if folder.bytes.isEmpty then .ofText "." else folder
  | none => .ofText "."

/-- The permissions of what a path leads to. -/
def keptMode? (volume : Volume) (path : Path) : Option Nat :=
  match volume.status? path with
  | .ok node => some node.mode
  | .error _ => none

/-- A name that is free in the folder at a path, and the location of the folder.  It is not the name
at the end of the path that the work on the file is for.  The path of the new file is followed from
the top folder, and must not be too long for that. -/
def spareName (naming : Naming) (folder goal : Path) (volume : Volume) :
    Except Fault (Name × Location) :=
  let folder := volume.absolute folder
  match Volume.refusal? (folder.entry naming.sample.bytes) with
  | some fault => .error fault
  | none =>
      (volume.locate true folder).bind fun location =>
        if volume.isFolderAt location then
          let reserved := (goal.fileName?.bind Name.ofBytes?).toList
          .ok (naming.pick (reserved ++ volume.names location), location)
        else .error .notDirectory

/-- Create an empty file. -/
def create (mask : Nat) (location : Location) (volume : Volume) : Volume :=
  volume.put location (.file (Node.newMode mask) [])

/-- Add bytes to the end of a file. -/
def append (location : Location) (data : Bytes) (volume : Volume) : Volume :=
  match volume.node? location with
  | some (.file mode content) => volume.put location (.file mode (content ++ data))
  | _ => volume

/-- Set the permissions of a file, if there are permissions to set. -/
def setMode (location : Location) (mode : Option Nat) (volume : Volume) : Volume :=
  match mode, volume.node? location with
  | some mode, some (.file _ content) => volume.put location (.file mode content)
  | _, _ => volume

/-- The location at which a file may take the place of what a path names.  The last name is not
looked up as a link, and a folder is not replaced. -/
def destination (volume : Volume) (path : Path) : Except Fault Location :=
  let kept := Path.dropTrailing List.isEmpty path.segments
  match Volume.refusal? path, kept.getLast? with
  | some .nulInPath, _ => .error .invalid
  | some fault, _ => .error fault
  | none, none => .error .busy
  | none, some last =>
      (volume.walk true Volume.linkLimit (Volume.start path volume.current)
        (kept.dropLast ++ [[]])).bind fun folder =>
          if Path.isFiller last || last = [Path.dot, Path.dot] then .error .busy
          else if Volume.nameLimit < last.length then .error .nameTooLong
          else if kept.length < path.segments.length then .error .notDirectory
          else
            match Name.ofBytes? last with
            | none => .error .notFound
            | some name =>
                if volume.isFolderAt (name :: folder) then .error .isDirectory
                else .ok (name :: folder)

/-- Let a file take the place of what a path names. -/
def replace (source : Location) (path : Path) (volume : Volume) : Except Fault Volume :=
  (destination volume path).bind fun target =>
    match volume.node? source with
    | some node => .ok ((volume.erase source).put target node)
    | none => .error .notFound

/-- The steps of publishing in which the disk may fail. -/
inductive Step where
  /-- The draft is created. -/
  | create
  /-- The data are written to the draft. -/
  | write
  /-- What has been written is made to last. -/
  | sync
  /-- The draft is given the permissions of what it replaces. -/
  | setMode
  /-- The draft takes its place. -/
  | replace
  deriving DecidableEq

/-- What publishing depends on besides the volume. -/
structure Conditions where
  /-- The permissions that new files are not given. -/
  mask : Nat
  /-- Why the disk fails in a step, if it does. -/
  fault? : Step → Option Fault
  /-- How much of the data is written before the disk fails in writing. -/
  written : Nat

namespace Conditions

/-- A disk that does not fail, and new files that others may read. -/
def usual : Conditions := ⟨Node.usualMask, fun _ => none, 0⟩

/-- Change the volume in a step, unless the disk fails. -/
def change (conditions : Conditions) (step : Step) (work : Volume → Except Fault Volume) :
    Activity Fault Unit :=
  match conditions.fault? step with
  | some fault => .fail fault
  | none => .change work

/-- Write data to a draft.  A part of them is written even if the disk fails. -/
def write (conditions : Conditions) (draft : Location) (data : Bytes) : Activity Fault Unit :=
  match conditions.fault? .write with
  | some fault => do
      .change fun volume => .ok (append draft (data.take conditions.written) volume)
      .fail fault
  | none => .change fun volume => .ok (append draft data volume)

/-- Give a draft the permissions that are to be kept, if there are some. -/
def keepMode (conditions : Conditions) (draft : Location) (kept : Option Nat) :
    Activity Fault Unit :=
  if kept.isSome then conditions.change .setMode fun volume => .ok (setMode draft kept volume)
  else .done ()

end Conditions

/-- Write a draft and let it take the place of what a path names. -/
def fill (conditions : Conditions) (draft : Location) (path : Path) (data : Bytes)
    (kept : Option Nat) : Activity Fault Unit := do
  conditions.write draft data
  conditions.change .sync .ok
  conditions.keepMode draft kept
  conditions.change .replace (replace draft path)

/-- Replace the file at a path, or make it, under some conditions and with a draft that is named in
some way. -/
def publishUnder (conditions : Conditions) (naming : Naming) (path : Path) (data : Bytes) :
    Activity Fault Unit := do
  let kept ← .look fun volume => keptMode? volume path
  let (name, folder) ← .demand (spareName naming (folderOf path) path)
  conditions.change .create fun volume =>
    .ok (create conditions.mask (name :: folder) volume)
  Activity.withUndo (fun volume => volume.erase (name :: folder))
    (fill conditions (name :: folder) path data kept)
  .tell (.published path data.length)

/-- Replace the file at a path, or make it, on a disk that does not fail. -/
def publishBy (naming : Naming) (path : Path) (data : Bytes) : Activity Fault Unit :=
  publishUnder .usual naming path data

/-- Replace the file at a path, or make it. -/
def publish (path : Path) (data : Bytes) : Activity Fault Unit :=
  publishBy .draft path data

end Publish
end CardKeeper

import CardKeeper.Program
import CardKeeper.Volume.Change

/-!
# The command line

A command works on a volume.  What it needs of the disk is copied into one, and the files in which
the volume differs afterwards are written back.  Links are copied as what they lead to, and of
files that no command looks into only the names are copied.

Outside programs are not started from here, so a thumbnail ends with the report that its tools are
not there.
-/

namespace CardKeeper
namespace Disk

/-- The number of levels of folders that are copied.  The discs of a title lie four levels below
the top folder of a card, and the name of a console may itself lead through folders. -/
def levels : Nat := 9

/-- Whether some command looks into a file with this name. -/
def isRead (name : String) : Bool :=
  [".json", ".m3u", ".toml"].any fun ending => name.endsWith ending

/-- Copy what stands at a path of the disk into a volume. -/
def load (levels : Nat) (path : String) (volume : Volume) : IO Volume := do
  match levels with
  | 0 => return volume
  | levels + 1 =>
      let copy (node : Node) : Volume := (volume.place (.ofText path) node).toOption.getD volume
      try
        let real ← IO.FS.realPath path
        match (← real.metadata).type with
        | .dir =>
            let mut copied := copy (.folder Node.folderMode)
            for entry in ← real.readDir do
              copied ← load levels (path ++ "/" ++ entry.fileName) copied
            return copied
        | .file =>
            let content ← if isRead path then IO.FS.readBinFile real else pure ByteArray.empty
            return copy (.file Node.fileMode content.toList)
        | _ => return volume
      catch _ => return volume

/-- Write the files back that a volume does not share with an earlier one, each by way of a file
next to it. -/
def save (before after : Volume) : IO Unit := do
  for (location, node) in after.entries do
    if before.node? location = some node then continue
    match node with
    | .file _ content =>
        let names := location.reverse.map fun name => Utf8.display name.bytes
        let path := "/" ++ "/".intercalate names
        IO.FS.writeBinFile (path ++ ".part") content.toByteArray
        IO.FS.rename (path ++ ".part") path
    | _ => continue

/-- The folder of the card that a command works on, if it works on one. -/
def cardFolder? (settings : Settings) (current : Path) : Command → Option Path
  | .missingImgs folder | .m3u folder _ => some (settings.cardFolder folder current)
  | _ => none

/-- A volume with the folder in which relative paths start, and with what a command line needs. -/
def volumeFor (environment : Environment) (arguments : List String) : IO Volume := do
  let segments := environment.current.segments
  let (volume, current) := (Volume.empty.makeFolders [] segments).toOption.getD (.empty, [])
  let file := environment.current.join environment.settingsFile
  let volume ← load 1 file.display { volume with current }
  let volume ← load 1 (environment.current.join environment.temporary).display volume
  let settings := (Settings.load environment.settingsFile volume).1
  match Command.read arguments with
  | .ok invocation =>
      match cardFolder? settings environment.current invocation.command with
      | some folder => load levels (environment.current.join folder).display volume
      | none => return volume
  | .error _ => return volume

/-- What the program finds around it on this computer. -/
def environment : IO Environment := do
  let current ← IO.currentDir
  return {
    home := (← IO.getEnv "HOME").map .ofText
    account := none
    configuration := (← IO.getEnv "XDG_CONFIG_HOME").map .ofText
    temporary := .ofText ((← IO.getEnv "TMPDIR").getD "/tmp")
    current := .ofText current.toString
    log := ← IO.getEnv "RUST_LOG"
    programs := ⟨[], fun _ _ volume => (.error .notRunnable, volume)⟩
    time := toString (← IO.monoMsNow) ++ "ms"
    help := fun _ => Program.asLine Scope.program.about }

end Disk
end CardKeeper

open CardKeeper in
/-- Run the program. -/
def main (arguments : List String) : IO UInt32 := do
  let environment ← Disk.environment
  let before ← Disk.volumeFor environment arguments
  let outcome := Program.run environment arguments before
  Disk.save before outcome.volume
  IO.print outcome.output
  IO.eprint outcome.complaints
  return outcome.exit.toUInt32

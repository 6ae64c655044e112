import CardKeeper.Activity
import CardKeeper.Volume.Walk

/-!
# Image tools

Thumbnails are made by two tools: one resizes a picture, the other makes its file smaller.  The
pipeline sees them as `ImageTools`.  `Programs.imageTools` are the ones that run outside programs,
found by name in a list of folders.
-/

namespace CardKeeper

/-- How the optimizer works. -/
structure OptimizeOptions where
  /-- It saves time rather than space. -/
  fast : Bool
  /-- It prints nothing. -/
  quiet : Bool
  /-- It drops metadata. -/
  strip : Bool
  deriving DecidableEq

/-- A tool that ran and did not succeed. -/
structure ToolFailure where
  /-- The program. -/
  program : String
  /-- Its exit code, unless a signal ended it. -/
  code : Option Int
  /-- What did not succeed. -/
  message : Option String
  /-- The arguments it ran with. -/
  arguments : List String
  deriving DecidableEq

/-- The words for a failure. -/
def ToolFailure.text (failure : ToolFailure) : String :=
  failure.program ++ " " ++
    (match failure.code with
      | some code => "exit " ++ toString code
      | none => "killed by signal") ++
    (match failure.message with
      | some message => " - " ++ message
      | none => "") ++
    (if failure.arguments.isEmpty then ""
      else ": " ++ Text.quotedList (failure.arguments.map Utf8.encode))

/-- Why a tool did not do its work. -/
inductive ToolError where
  /-- It could not be started. -/
  | unstartable (program : String) (fault : Fault)
  /-- It ran and did not succeed. -/
  | failed (failure : ToolFailure)
  deriving DecidableEq

namespace ToolError

/-- The words for an error. -/
def message : ToolError → String
  | .unstartable program fault => "Failed to run " ++ program ++ ": " ++ fault.message
  | .failed failure => failure.text

/-- The exit code of the tool, if it ran and was not ended by a signal. -/
def exitCode? : ToolError → Option Int
  | .unstartable _ _ => none
  | .failed failure => failure.code

end ToolError

/-- What the making of a thumbnail needs from tools. -/
structure ImageTools where
  /-- Scale a picture to fit a size, pad it to exactly that size and write it to a target; a crop is
  cut out first. -/
  resize (source target : Path) (crop : Option Crop) (size : Size) : Activity ToolError Unit
  /-- Make the file of a picture smaller. -/
  optimize (path : Path) (options : OptimizeOptions) : Activity ToolError Unit

/-- The outside programs there are. -/
structure Programs where
  /-- The folders in which programs are looked up. -/
  folders : List Path
  /-- What a program file with some content does when it is run with arguments.  It ends with an
  exit code or is ended by a signal, if it can be run at all. -/
  run (content : Bytes) (arguments : List Bytes) (volume : Volume) :
    Except Fault (Option Int) × Volume

namespace Programs

/-- The name of the resizing program when none is set. -/
def standardMagick : String := "magick"

/-- The name of the optimizer when none is set. -/
def standardImgoptim : String := "imgoptim"

/-- The arguments that resize a picture. -/
def resizeArguments (source target : Path) (crop : Option Crop) (size : Size) : List Bytes :=
  [source.bytes] ++
    (match crop with
      | some crop => [Utf8.encode "-crop", Utf8.encode crop.text]
      | none => []) ++
    ["-scale", size.text, "-background", "transparent", "-gravity", "center", "-extent",
      size.text].map Utf8.encode ++
    [target.bytes]

/-- The options of the optimizer that are set. -/
def optimizeFlags (options : OptimizeOptions) : List String :=
  (if options.fast then ["--fast"] else []) ++ (if options.quiet then ["--quiet"] else []) ++
    (if options.strip then ["--strip"] else [])

/-- The arguments that optimize the files of pictures. -/
def optimizeArguments (paths : List Path) (options : OptimizeOptions) : List Bytes :=
  (optimizeFlags options ++ ["--"]).map Utf8.encode ++ paths.map Path.bytes

/-- The content of the program file at a path. -/
def load (volume : Volume) (path : Path) : Except Fault Bytes :=
  (volume.status? path).bind fun node =>
    match node with
    | .file mode content => if mode &&& 0o111 = 0 then .error .denied else .ok content
    | _ => .error .denied

/-- Whether a program may still be found in another folder after a fault in this one. -/
def passesOver : Fault → Bool
  | .denied | .notFound | .notDirectory => true
  | _ => false

/-- The content of the first program file of a name in some folders.  When none is found the last
fault counts, unless some file may not be run. -/
def search (volume : Volume) (name : Bytes) (last : Fault) : List Path → Except Fault Bytes
  | [] => .error last
  | folder :: rest =>
      match load volume (folder.entry name) with
      | .ok content => .ok content
      | .error fault =>
          if passesOver fault then
            search volume name (if last = .denied then .denied else fault) rest
          else .error fault

/-- The content of the file that a program's name stands for.  A name with a slash is a path; of any
other no more is looked up than shows that it is too long. -/
def find (programs : Programs) (volume : Volume) (name : Bytes) : Except Fault Bytes :=
  if name.isEmpty then .error .notFound
  else if name.contains Path.slash then load volume ⟨name⟩
  else search volume (name.take (Volume.nameLimit + 1)) .notFound programs.folders

/-- The number of bytes that an argument may have. -/
def argumentLimit : Nat := 131071

/-- The content of the file of a program that is to be run with arguments. -/
def prepare (programs : Programs) (volume : Volume) (name : Bytes) (arguments : List Bytes) :
    Except Fault Bytes :=
  if (name :: arguments).any (·.contains 0) then .error .nulInArgument
  else
    (programs.find volume name).bind fun content =>
      if arguments.any fun argument => argumentLimit < argument.length then .error .argumentTooLong
      else .ok content

/-- Start a program and wait for its end. -/
def start (programs : Programs) (program : String) (arguments : List Bytes) :
    Activity ToolError (Option Int) := fun volume =>
  match programs.prepare volume (Utf8.encode program) arguments with
  | .error fault => ⟨[], volume, .error (.unstartable program fault)⟩
  | .ok content =>
      let (ending, after) := programs.run content arguments volume
      ⟨[], after, ending.mapError (.unstartable program)⟩

/-- Run a program, which has to end with code zero. -/
def runTool (programs : Programs) (program : String) (arguments : List Bytes)
    (failure : String) : Activity ToolError Unit := do
  .tell (.running program arguments)
  let code ← programs.start program arguments
  if code = some 0 then .done ()
  else .fail (.failed ⟨program, code, some failure, arguments.map Utf8.display⟩)

/-- The image tools that run two outside programs. -/
def imageTools (programs : Programs) (magick imgoptim : String) : ImageTools where
  resize source target crop size :=
    programs.runTool magick (resizeArguments source target crop size) "resize failed"
  optimize path options :=
    programs.runTool imgoptim (optimizeArguments [path] options) "optimization failed"

end Programs
end CardKeeper

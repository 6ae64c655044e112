import CardKeeper.Card
import CardKeeper.Publish
import CardKeeper.Tools

/-!
# Thumbnails

A picture is resized into a staging file, the staging file is optimized, and only then its content
is published.  If anything fails on the way, the output stays as it was.
-/

namespace CardKeeper

/-- A thumbnail to make. -/
structure ThumbnailRequest where
  /-- The picture. -/
  source : Path
  /-- Where the thumbnail goes. -/
  output : Path
  /-- Whether the optimizer saves time. -/
  fast : Bool
  /-- Whether the play area of a PICO-8 screenshot is cut out first. -/
  pico8 : Bool
  deriving DecidableEq

/-- Why a request cannot be made. -/
inductive RequestError where
  /-- An output is given for a source that is not a PNG file. -/
  | sourceNotPng (source : Path)
  /-- The output is not a PNG file. -/
  | outputNotPng (output : Path)
  deriving DecidableEq

/-- The words for a request that cannot be made. -/
def RequestError.text : RequestError → String
  | .sourceNotPng source => "--output requires a .png source, got " ++ source.display
  | .outputNotPng output => "output must end in .png, got " ++ output.display

/-- Why a thumbnail is not made. -/
inductive ThumbnailError where
  /-- The request is not one. -/
  | request (error : RequestError)
  /-- A tool did not do its work. -/
  | tool (error : ToolError)
  /-- A file could not be used. -/
  | file (path : Path) (fault : Fault)
  deriving DecidableEq

/-- The words for an error. -/
def ThumbnailError.message : ThumbnailError → String
  | .request error => "Usage error: " ++ error.text
  | .tool error => error.message
  | .file path fault => "I/O error on " ++ path.display ++ ": " ++ fault.message

namespace ThumbnailRequest

/-- Whether a path has the extension of thumbnails, in lower case. -/
def isPng (path : Path) : Bool :=
  path.extension? == some (Utf8.encode Card.imageExtension)

/-- The request for a source.  Without an output the thumbnail goes next to the source; an output
may only be given if it and the source are PNG files. -/
def make? (source : Path) (output : Option Path) (fast pico8 : Bool) :
    Except RequestError ThumbnailRequest :=
  match output with
  | none => .ok ⟨source, source.withExtension Card.imageExtension, fast, pico8⟩
  | some output =>
      if !isPng source then .error (.sourceNotPng source)
      else if !isPng output then .error (.outputNotPng output)
      else .ok ⟨source, output, fast, pico8⟩

/-- The part of the source that is used, if it is not all of it. -/
def crop? (request : ThumbnailRequest) : Option Crop :=
  if request.pico8 then some .playArea else none

/-- How the thumbnail is optimized. -/
def options (request : ThumbnailRequest) : OptimizeOptions :=
  ⟨request.fast, true, true⟩

/-- The permissions of a staging file. -/
def stagingMode : Nat := 0o600

/-- Make the thumbnail by way of a staging file that exists. -/
def process (tools : ImageTools) (request : ThumbnailRequest) (staging : Path) :
    Activity ThumbnailError Path := do
  .tell (.resizing request.source .thumbnail request.crop?)
  (tools.resize request.source staging request.crop? .thumbnail).orElse .tool
  (tools.optimize staging request.options).orElse .tool
  let content ← .demand fun volume => (volume.read staging).mapError (.file staging)
  (Publish.publish request.output content).orElse (.file request.output)
  return request.output

/-- Make the thumbnail, with a staging file in a folder for temporary files.  The tools are given
the path of the staging file as seen from the top folder. -/
def generate (tools : ImageTools) (temporary : Path) (request : ThumbnailRequest) :
    Activity ThumbnailError Path := do
  let (name, folder) ← .demand fun volume =>
    (Publish.spareName .staging temporary request.output volume).mapError (.file temporary)
  let staging ← .look fun volume => (volume.absolute temporary).entry name.bytes
  Activity.cleaningUp (fun volume => volume.erase (name :: folder)) do
    .change fun volume => .ok (volume.put (name :: folder) (.file stagingMode []))
    process tools request staging

end ThumbnailRequest
end CardKeeper

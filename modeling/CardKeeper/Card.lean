import CardKeeper.Path

/-!
# The layout of a card

```text
<root>/Roms/<console>/...             games, one folder per console
<root>/Roms/<console>/Imgs/*.png      preview images, named after the stem of the game
<root>/Emu/<launcher>/config.json     what the launcher knows about a console
```
-/

namespace CardKeeper

/-- A card, or a copy of one, by the path of its top folder. -/
structure Card where
  /-- The path of the top folder. -/
  root : Path
  deriving DecidableEq

namespace Card

/-- The folder of preview images inside a console's folder. -/
def imageFolder : String := "Imgs"

/-- The extension of preview images and thumbnails. -/
def imageExtension : String := "png"

/-- The extension of playlists. -/
def playlistExtension : String := "m3u"

/-- The folder with one folder of games per console. -/
def games (card : Card) : Path :=
  card.root.child "Roms"

/-- The folder of a console's games. -/
def console (card : Card) (name : String) : Path :=
  card.games.child name

/-- The launcher's configuration of a console, by the name the launcher uses. -/
def launcherConfig (card : Card) (name : String) : Path :=
  ((card.root.child "Emu").child name).child "config.json"

/-- A path as seen from the top folder of the card. -/
def relative (card : Card) (path : Path) : Path :=
  path.relativeTo card.root

/-- The preview image for a stem in a folder of games. -/
def imagePath (folder : Path) (stem : Bytes) : Path :=
  (folder.child imageFolder).entry (stem ++ Utf8.encode ("." ++ imageExtension))

/-- A name without the dot that hides it.  Hidden titles keep the images and playlists they have
under their plain name. -/
def unhide (name : String) : String :=
  match name.toList with
  | '.' :: rest => String.ofList rest
  | _ => name

end Card
end CardKeeper

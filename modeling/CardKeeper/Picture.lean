/-!
# Sizes and cuts of pictures
-/

namespace CardKeeper

/-- The size of a picture in pixels. -/
structure Size where
  /-- Pixels from left to right. -/
  width : Nat
  /-- Pixels from top to bottom. -/
  height : Nat
  deriving DecidableEq

namespace Size

/-- The size of a thumbnail in the launcher. -/
def thumbnail : Size := ⟨250, 360⟩

/-- A size as tools and reports write it. -/
def text (size : Size) : String :=
  toString size.width ++ "x" ++ toString size.height

end Size

/-- A rectangle to cut out of a picture. -/
structure Crop where
  /-- Pixels from left to right. -/
  width : Nat
  /-- Pixels from top to bottom. -/
  height : Nat
  /-- Pixels to the left of the rectangle. -/
  x : Nat
  /-- Pixels above the rectangle. -/
  y : Nat
  deriving DecidableEq

namespace Crop

/-- The part of a PICO-8 screenshot in which the game plays. -/
def playArea : Crop := ⟨128, 128, 16, 24⟩

/-- A rectangle as tools and reports write it. -/
def text (crop : Crop) : String :=
  toString crop.width ++ "x" ++ toString crop.height ++ "+" ++ toString crop.x ++ "+" ++
    toString crop.y

end Crop
end CardKeeper

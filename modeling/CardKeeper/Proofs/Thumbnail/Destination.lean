import Mathlib
import CardKeeper.Proofs.Path.Filler
import CardKeeper.Proofs.Results
import CardKeeper.Thumbnail

/-!
# Where thumbnails go

A thumbnail that is given no output goes next to its source, under the same stem, and a PNG file is
replaced by its thumbnail (`GoesBeside`).  There is one exception, a source whose stem is a lone
dot: without the extension its path leads up.  Then the thumbnail goes up from the folder, or it
does so once the output is the source of another request.  Among the paths that end in a name there
is no other, and else a console's preview image goes where an audit looks for it:
`make?_destination`.
-/

namespace CardKeeper
namespace ThumbnailRequest

open CardKeeper.Path

variable {source folder : Path} {name stem ending text : Bytes}

/-- The bytes of the extension of thumbnails. -/
def pngExtension : Bytes :=
  Utf8.encode Card.imageExtension

/-- Where the thumbnail of a source goes that is given no output. -/
def destination (source : Path) : Path :=
  source.withExtension Card.imageExtension

/-- An output is the PNG file next to a source that has the stem of the source. -/
structure GoesBeside (source output : Path) : Prop where
  /-- It is in the folder of the source. -/
  parent : output.parent? = source.parent?
  /-- It has the stem of the source. -/
  stem : output.stem? = source.stem?
  /-- It has the extension of thumbnails. -/
  extension : output.extension? = some pngExtension
  /-- It is the source itself exactly if that has the extension. -/
  same_iff : output.components = source.components ↔ source.extension? = some pngExtension
  /-- A thumbnail of the output goes to the output. -/
  settled : destination output = output

theorem slash_not_mem_pngExtension : slash ∉ pngExtension := by
  decide

theorem dot_not_mem_pngExtension : dot ∉ pngExtension := by
  decide

theorem names_png (proper : stem ≠ []) (plain : slash ∉ stem) :
    Names (stem ++ dot :: pngExtension) :=
  names_append proper plain slash_not_mem_pngExtension fun _ => by decide

theorem splitName_png (proper : stem ≠ []) :
    splitName (stem ++ dot :: pngExtension) = (stem, some pngExtension) :=
  splitName_append proper dot_not_mem_pngExtension

theorem destination_padded (names : Names name) (filler : IsFillerText text) :
    destination (folder.padded name text) =
      if (splitName name).1 = [dot] ∧ text = [] then folder.entry [dot, dot]
      else folder.entry ((splitName name).1 ++ dot :: pngExtension) :=
  withExtension_padded names filler slash_not_mem_pngExtension

theorem fileName?_up (folder : Path) : (folder.entry [dot, dot]).fileName? = none := by
  rw [fileName?_of_visible (segments_entry folder (by decide)) rfl, if_pos rfl]

theorem stem?_padded (names : Names name) (filler : IsFillerText text) :
    (folder.padded name text).stem? = some (splitName name).1 := by
  rw [stem?, fileName?_padded names filler, Option.map_some]

/-! ## Outputs next to their sources -/

theorem goesBeside_padded (names : Names name) (filler : IsFillerText text)
    (other : (splitName name).1 ≠ [dot]) :
    GoesBeside (folder.padded name text) (destination (folder.padded name text)) := by
  obtain ⟨start, proper⟩ := start_of_splitName names.ne_nil
  have plain : slash ∉ (splitName name).1 := fun member => names.plain (start.subset member)
  have png : Names ((splitName name).1 ++ dot :: pngExtension) := names_png proper plain
  rw [destination_padded names filler, if_neg fun both => other both.1, ← padded_nil]
  constructor
  case parent => rw [parent?_padded png .nil, parent?_padded names filler]
  case stem => rw [stem?_padded png .nil, stem?_padded names filler, splitName_png proper]
  case extension => rw [extension?_padded png .nil, splitName_png proper]
  case same_iff =>
    rw [components_padded png .nil, components_padded names filler,
      extension?_padded names filler, List.append_cancel_left_eq, List.singleton_inj,
      Component.name.injEq]
    constructor
    · intro same
      rw [← same, splitName_png proper]
    · intro ends
      exact (of_splitName (Prod.ext rfl ends)).1.symm
  case settled =>
    rw [destination_padded png .nil, splitName_png proper, if_neg fun both => other both.1,
      padded_nil]

/-- Where the stem is a lone dot, the thumbnail of the thumbnail goes up. -/
theorem destination_destination_of_dot (names : Names name) (filler : IsFillerText text)
    (lone : (splitName name).1 = [dot]) :
    destination (destination (folder.padded name text)) = folder.entry [dot, dot] := by
  rw [destination_padded names filler, lone]
  by_cases nothing : text = []
  · rw [if_pos ⟨rfl, nothing⟩]
    exact withExtension_of_unnamed (fileName?_up folder) _
  · have png : Names ([dot] ++ dot :: pngExtension) := names_png (by decide) (by decide)
    rw [if_neg fun both => nothing both.2, ← padded_nil, destination_padded png .nil,
      splitName_png (by decide), if_pos ⟨rfl, rfl⟩]

/-- A path that goes up has no stem. -/
theorem not_goesBeside_of_dot (names : Names name) (filler : IsFillerText text)
    (lone : (splitName name).1 = [dot]) :
    ¬ GoesBeside (folder.padded name text) (destination (folder.padded name text)) := by
  intro beside
  have up : destination (destination (folder.padded name text)) = folder.entry [dot, dot] :=
    destination_destination_of_dot names filler lone
  rw [beside.settled] at up
  have stem := beside.stem
  rw [up, stem?, fileName?_up, stem?_padded names filler] at stem
  cases stem

/-- The output is next to the source exactly if the stem is no lone dot. -/
theorem goesBeside_iff (named : source.fileName? ≠ none) :
    GoesBeside source (destination source) ↔ source.stem? ≠ some [dot] := by
  obtain ⟨name, named⟩ := Option.ne_none_iff_exists'.mp named
  have names := names_of_fileName? named
  obtain ⟨folder, text, filler, rfl⟩ := exists_padded named
  rw [stem?_padded names filler, ne_eq, Option.some.injEq]
  exact ⟨fun beside lone => not_goesBeside_of_dot names filler lone beside,
    fun other => goesBeside_padded names filler other⟩

theorem fileName?_destination_destination (lone : source.stem? = some [dot]) :
    (destination (destination source)).fileName? = none := by
  obtain ⟨name, named, ends⟩ := Option.map_eq_some_iff.mp lone
  have names := names_of_fileName? named
  obtain ⟨folder, text, filler, rfl⟩ := exists_padded named
  rw [destination_destination_of_dot names filler ends, fileName?_up]

/-! ## Preview images -/

/-- A picture in the folder of preview images. -/
def picture (folder : Path) (stem ending : Bytes) : Path :=
  (folder.child Card.imageFolder).entry (stem ++ dot :: ending)

/-- The thumbnail of a picture is the preview image of its stem, and goes up from the images where
the stem is a lone dot. -/
theorem destination_picture (proper : stem ≠ []) (plainStem : slash ∉ stem) (some : ending ≠ [])
    (plain : slash ∉ ending) (noDot : dot ∉ ending) :
    destination (picture folder stem ending) =
      if stem = [dot] then (folder.child Card.imageFolder).entry [dot, dot]
      else Card.imagePath folder stem := by
  have names : Names (stem ++ dot :: ending) := names_append proper plainStem plain fun _ => some
  rw [picture, ← padded_nil, destination_padded names .nil, splitName_append proper noDot]
  refine if_congr (and_iff_left rfl) rfl ?_
  rfl

theorem destination_picture_iff (proper : stem ≠ []) (plainStem : slash ∉ stem)
    (some : ending ≠ []) (plain : slash ∉ ending) (noDot : dot ∉ ending) :
    destination (picture folder stem ending) = Card.imagePath folder stem ↔ stem ≠ [dot] := by
  rw [destination_picture proper plainStem some plain noDot]
  split
  · next lone =>
      refine iff_of_false (fun same => ?_) fun other => other lone
      have ends := congrArg Path.fileName? same
      have named :
          (Card.imagePath folder stem).fileName? = .some (stem ++ dot :: pngExtension) := by
        have image : ((folder.child Card.imageFolder).padded (stem ++ dot :: pngExtension)
            []).fileName? = _ := fileName?_padded (names_png proper plainStem) .nil
        rwa [padded_nil] at image
      rw [fileName?_up, named] at ends
      cases ends
  · next other => exact iff_of_true rfl other

/-! ## Requests -/

theorem make?_eq_ok_iff {source output : Path} {fast pico8 : Bool} {request : ThumbnailRequest} :
    make? source (some output) fast pico8 = .ok request ↔
      (source.extension? = some pngExtension ∧ output.extension? = some pngExtension) ∧
        request = ⟨source, output, fast, pico8⟩ := by
  simp only [make?, isPng, Bool.not_eq_true', beq_eq_false_iff_ne, pngExtension]
  split
  · next wrong => simp [wrong]
  · next right =>
      rw [not_not] at right
      split
      · next wrong => simp [wrong]
      · next fits =>
          rw [not_not] at fits
          simp [right, fits, eq_comm]

/-- An output that is given is kept, if it and the source are PNG files.  Else the thumbnail goes
next to the source, exactly if the stem of the source is no lone dot, and then the thumbnail of a
picture among the preview images is the image of its stem.  With a lone dot the output, or the
output of a request for it, ends in no name.  A source that ends in none is its own output. -/
theorem make?_destination (source : Path) (fast pico8 : Bool) :
    (∀ output request, make? source (some output) fast pico8 = .ok request ↔
      (source.extension? = some pngExtension ∧ output.extension? = some pngExtension) ∧
        request = ⟨source, output, fast, pico8⟩) ∧
    make? source none fast pico8 = .ok ⟨source, destination source, fast, pico8⟩ ∧
    (source.fileName? = none → destination source = source) ∧
    (source.fileName? ≠ none →
      (GoesBeside source (destination source) ↔ source.stem? ≠ some [dot])) ∧
    (source.stem? = some [dot] → (destination (destination source)).fileName? = none) ∧
    ∀ folder stem ending, source = picture folder stem ending → stem ≠ [] → slash ∉ stem →
      ending ≠ [] → slash ∉ ending → dot ∉ ending →
        (destination source = Card.imagePath folder stem ↔ stem ≠ [dot]) := by
  refine ⟨fun output request => make?_eq_ok_iff, rfl, fun unnamed => ?_, goesBeside_iff,
    fileName?_destination_destination, ?_⟩
  · exact withExtension_of_unnamed unnamed _
  · rintro folder stem ending rfl proper plainStem some plain noDot
    exact destination_picture_iff proper plainStem some plain noDot

/-- A picture whose name has two dots, with filler behind it, keeps the first of them, and among the
preview images its thumbnail is the image of that stem. -/
theorem goesBeside_twoDots :
    (Path.ofText "Imgs/a.b.jpg/.").stem? ≠ some [dot] ∧
      GoesBeside (.ofText "Imgs/a.b.jpg/.") (.ofText "Imgs/a.b.png") ∧
      destination (picture (.ofText "") (Utf8.encode "a.b") (Utf8.encode "jpg")) =
        Card.imagePath (.ofText "") (Utf8.encode "a.b") := by
  have stem : (Path.ofText "Imgs/a.b.jpg/.").stem? ≠ some [dot] := by decide
  have output : destination (.ofText "Imgs/a.b.jpg/.") = .ofText "Imgs/a.b.png" := by decide
  obtain ⟨-, -, -, beside, -⟩ := make?_destination (.ofText "Imgs/a.b.jpg/.") false false
  obtain ⟨-, -, -, -, -, image⟩ :=
    make?_destination (picture (.ofText "") (Utf8.encode "a.b") (Utf8.encode "jpg")) false false
  refine ⟨stem, output ▸ (beside (by decide)).mpr stem, ?_⟩
  exact (image _ _ _ rfl (by decide) (by decide) (by decide) (by decide) (by decide)).mpr
    (by decide)

/-- The thumbnail of a picture whose stem is a lone dot goes up, and so does that of a PNG file. -/
theorem destination_loneDot :
    make? (.ofText "..jpg") none false false =
        .ok ⟨.ofText "..jpg", .ofText "..", false, false⟩ ∧
      destination (.ofText "..png") = .ofText ".." ∧
      (Path.ofText "..jpg").fileName? = some (Utf8.encode "..jpg") ∧
      ¬ GoesBeside (.ofText "..jpg") (.ofText "..") ∧
      Card.imagePath (.ofText "d") [dot] = .ofText "d/Imgs/..png" ∧
      destination (picture (.ofText "d") [dot] (Utf8.encode "jpg")) = .ofText "d/Imgs/.." := by
  refine ⟨by decide, by decide, by decide, fun beside => ?_, by decide, by decide⟩
  have extension := beside.extension
  rw [show (Path.ofText "..").extension? = none by decide] at extension
  cases extension

end ThumbnailRequest
end CardKeeper

import Mathlib
import CardKeeper.Audit
import CardKeeper.Playlist
import CardKeeper.Proofs.Path.Extension
import CardKeeper.Proofs.Text.Ascii

/-!
# Which files are discs

Playlists and audits look at the extension of a file in two ways: the one compares it up to the case
of ASCII letters, the other puts it into lower case by the rules for all characters.  For an ASCII
extension the first is the second without Kelvin signs (`hasExtension_iff`).  The extension of discs
has no k, so that both take the same files for discs: `hasExtension_lowerExtension?`.
-/

namespace CardKeeper

namespace Path

variable {path : Path} {extension : String}

/-- The extension of a path holds the sign for kelvins. -/
def HoldsKelvinSign (path : Path) : Prop :=
  ∃ own, path.extension? = some (Utf8.encode own) ∧ Text.kelvinSign ∈ own.toList

/-- A path has an ASCII extension up to the case of ASCII letters if it has it in lower case and
without a Kelvin sign. -/
theorem hasExtension_iff (ascii : Text.IsAscii extension) : path.hasExtension extension = true ↔
    path.lowerExtension? = some (Text.asciiLowercase extension) ∧ ¬ path.HoldsKelvinSign := by
  rw [hasExtension_eq_true_iff, lowerExtension?_eq_some_iff]
  constructor
  · rintro ⟨own, found, same⟩
    obtain ⟨lower, plain⟩ := (Text.sameAsciiCase_iff_lowercase ascii).mp same
    refine ⟨⟨own, found, lower⟩, ?_⟩
    rintro ⟨other, found', inside⟩
    obtain rfl : other = own := Utf8.encode_injective (Option.some.inj (found'.symm.trans found))
    exact plain inside
  · rintro ⟨⟨own, found, lower⟩, plain⟩
    refine ⟨own, found, (Text.sameAsciiCase_iff_lowercase ascii).mpr ⟨lower, ?_⟩⟩
    exact fun inside => plain ⟨own, found, inside⟩

theorem hasExtension_iff_of_free (ascii : Text.IsAscii extension)
    (free : 'k' ∉ (Text.asciiLowercase extension).toList) : path.hasExtension extension = true ↔
      path.lowerExtension? = some (Text.asciiLowercase extension) := by
  rw [hasExtension_iff ascii]
  refine ⟨And.left, fun lower => ⟨lower, ?_⟩⟩
  rintro ⟨own, found, inside⟩
  obtain ⟨other, found', lowered⟩ := lowerExtension?_eq_some_iff.mp lower
  obtain rfl : other = own := Utf8.encode_injective (Option.some.inj (found'.symm.trans found))
  rw [← lowered] at free
  exact Text.kelvinSign_not_mem free inside

end Path

namespace Playlist

variable {volume : Volume} {path : Path} {extensions : List String}

theorem hasExtension_disc_iff :
    path.hasExtension discExtension = true ↔ path.lowerExtension? = some discExtension := by
  have lower : Text.asciiLowercase discExtension = discExtension := by decide
  have ascii : Text.IsAscii discExtension := by
    simp [Text.IsAscii, discExtension]
  have agree : path.hasExtension discExtension = true ↔
      path.lowerExtension? = some (Text.asciiLowercase discExtension) :=
    Path.hasExtension_iff_of_free ascii (by decide)
  rwa [lower] at agree

/-- An audit takes a disc for a game exactly if the extension of discs is among those of the
console. -/
theorem isGame_of_isDisc (disc : isDisc volume path = true) :
    Audit.isGame volume extensions path = true ↔ discExtension ∈ extensions := by
  rw [isDisc, Bool.and_eq_true, hasExtension_disc_iff] at disc
  have other : (discExtension != Launcher.reservedExtension) = true := by decide
  simp [Audit.isGame, disc.1, disc.2, other]

theorem isDisc_eq_isGame (volume : Volume) (path : Path) :
    isDisc volume path = Audit.isGame volume [discExtension] path := by
  rw [Bool.eq_iff_iff]
  refine ⟨fun disc => (isGame_of_isDisc disc).mpr List.mem_cons_self, fun game => ?_⟩
  rw [Audit.isGame, Bool.and_eq_true] at game
  obtain ⟨file, listed⟩ := game
  rw [isDisc, Bool.and_eq_true, hasExtension_disc_iff]
  refine ⟨file, ?_⟩
  split at listed
  · next own lower =>
      have same : own = discExtension := by
        rw [Bool.and_eq_true] at listed
        simpa using listed.2
      rw [lower, same]
  · cases listed

/-- Of an ASCII extension the two ways to look at a path differ in Kelvin signs alone, and in the
extension of discs they do not differ: the files of which playlists are made are those that an audit
takes for games where a console accepts that extension. -/
theorem hasExtension_lowerExtension? :
    (∀ (path : Path) (extension : String), Text.IsAscii extension →
      (path.hasExtension extension = true ↔
        path.lowerExtension? = some (Text.asciiLowercase extension) ∧ ¬ path.HoldsKelvinSign)) ∧
    (∀ path : Path, path.hasExtension discExtension = true ↔
      path.lowerExtension? = some discExtension) ∧
    ∀ (volume : Volume) (path : Path),
      isDisc volume path = Audit.isGame volume [discExtension] path ∧
      ∀ extensions, isDisc volume path = true →
        (Audit.isGame volume extensions path = true ↔ discExtension ∈ extensions) :=
  ⟨fun _ _ => Path.hasExtension_iff, fun _ => hasExtension_disc_iff, fun volume path =>
    ⟨isDisc_eq_isGame volume path, fun _ => isGame_of_isDisc⟩⟩

/-- A file whose extension is a Kelvin sign has the extension k in lower case only, and a disc in
capitals has its extension in both ways. -/
theorem hasExtension_kelvinSign :
    Text.IsAscii "k" ∧ (Path.ofText "a.\u212A").HoldsKelvinSign ∧
      (Path.ofText "a.\u212A").lowerExtension? = some "k" ∧
      (Path.ofText "a.\u212A").hasExtension "k" = false ∧
      Text.IsAscii "Cue" ∧ (Path.ofText "Disc 1.CUE").hasExtension "Cue" = true ∧
      (Path.ofText "Disc 1.CUE").lowerExtension? = some (Text.asciiLowercase "Cue") := by
  have unit : Text.IsAscii "k" := by simp [Text.IsAscii]
  have ascii : Text.IsAscii "Cue" := by simp [Text.IsAscii]
  have holds : (Path.ofText "a.\u212A").HoldsKelvinSign := ⟨"\u212A", by cbv, by decide⟩
  obtain ⟨agree, -, -⟩ := hasExtension_lowerExtension?
  have other : ¬ (Path.ofText "a.\u212A").hasExtension "k" = true := fun has =>
    ((agree _ _ unit).mp has).2 holds
  have capitals : (Path.ofText "Disc 1.CUE").hasExtension "Cue" = true := by cbv
  exact ⟨unit, holds, by cbv, by simpa using other, ascii, capitals,
    ((agree _ _ ascii).mp capitals).1⟩

end Playlist
end CardKeeper

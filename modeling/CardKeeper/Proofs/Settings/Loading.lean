import Mathlib
import CardKeeper.Proofs.Utf8
import CardKeeper.Proofs.Volume.Lookup
import CardKeeper.Settings

/-!
# Settings files that are heeded

Settings are taken from a file, or the user is told that they are not, exactly if the path leads to
a file that holds text: `load_heeded`.  Whatever else stands at the path is passed over as if
nothing did, and the user is told nothing: a folder, a link that leads nowhere or in a circle, and a
file whose bytes are no text.
-/

namespace CardKeeper

namespace Volume

variable {volume : Volume} {path : Path}

/-- A path leads to a file whose bytes spell a text. -/
def HoldsText (volume : Volume) (path : Path) : Prop :=
  ∃ location mode text, volume.locate true path = .ok location ∧
    volume.node? location = some (.file mode (Utf8.encode text))

theorem readText_eq_ok_iff {text : String} :
    volume.readText path = .ok text ↔ volume.read path = .ok (Utf8.encode text) := by
  unfold readText
  cases volume.read path with
  | error fault => simp [Except.bind]
  | ok content =>
      cases decoded : Utf8.decode? content with
      | none =>
          have other : content ≠ Utf8.encode text := fun same => by
            simp [Utf8.decode?_eq_some_iff.mpr same] at decoded
          simp [Except.bind, decoded, other]
      | some found =>
          obtain rfl := Utf8.decode?_eq_some_iff.mp decoded
          simp only [Except.bind, decoded, Except.ok.injEq]
          exact ⟨fun same => same ▸ rfl, Utf8.encode_injective⟩

theorem holdsText_iff : volume.HoldsText path ↔ ∃ text, volume.readText path = .ok text := by
  simp only [HoldsText, readText_eq_ok_iff, read_eq_ok_iff]
  constructor
  · rintro ⟨location, mode, text, found⟩
    exact ⟨text, location, mode, found⟩
  · rintro ⟨text, location, mode, found⟩
    exact ⟨location, mode, text, found⟩

end Volume

namespace Settings

variable {diagnosis : String → String} {file : Path} {volume : Volume}

/-- The settings of a file are used, or the user is told that they are not. -/
def Heeded (diagnosis : String → String) (file : Path) (volume : Volume) : Prop :=
  (∃ text settings, volume.readText file = .ok text ∧ parse? text = .ok settings ∧
    load file volume diagnosis = (settings, [])) ∨
  ∃ reason, load file volume diagnosis = (standard, [.event (.ignoring file reason)])

/-- A file that holds text is used or told of. -/
theorem heeded_of_readText {text : String} (read : volume.readText file = .ok text) :
    Heeded diagnosis file volume := by
  cases parsed : parse? text with
  | ok settings => exact .inl ⟨text, settings, read, parsed, by simp [load, read, parsed]⟩
  | error problem => exact .inr ⟨diagnosis text, by simp [load, read, parsed]⟩

/-- What cannot be read as text is passed over. -/
theorem load_of_readText_error {fault : Fault} (failed : volume.readText file = .error fault) :
    load file volume diagnosis = (standard, []) := by
  simp [load, failed]

theorem heeded_iff : Heeded diagnosis file volume ↔ volume.HoldsText file := by
  rw [Volume.holdsText_iff]
  constructor
  · rintro (⟨text, settings, read, -⟩ | ⟨reason, told⟩)
    · exact ⟨text, read⟩
    · cases read : volume.readText file with
      | ok text => exact ⟨text, rfl⟩
      | error fault => simp [load_of_readText_error read] at told
  · rintro ⟨text, read⟩
    exact heeded_of_readText read

/-- Nothing is told of a file that is not heeded. -/
theorem load_of_not_heeded (passed : ¬ Heeded diagnosis file volume) :
    load file volume diagnosis = (standard, []) := by
  cases read : volume.readText file with
  | ok text => exact absurd (heeded_of_readText read) passed
  | error fault => exact load_of_readText_error read

/-- Exactly a path that leads to a file of text is heeded, and at every other path the settings are
the defaults and nobody is told: where nothing stands, where a folder stands, and where a file
stands that holds no text. -/
theorem load_heeded (diagnosis : String → String) (file : Path) (volume : Volume) :
    (Heeded diagnosis file volume ↔ volume.HoldsText file) ∧
    (¬ Heeded diagnosis file volume → load file volume diagnosis = (standard, [])) ∧
    (∀ fault, volume.locate false file = .error fault → ¬ Heeded diagnosis file volume) ∧
    ∀ location, volume.locate false file = .ok location →
      (∀ mode, volume.node? location = some (.folder mode) → ¬ Heeded diagnosis file volume) ∧
      ∀ mode content, volume.node? location = some (.file mode content) →
        (Heeded diagnosis file volume ↔ ∃ text, content = Utf8.encode text) := by
  refine ⟨heeded_iff, load_of_not_heeded, fun fault lost => ?_, fun location reached =>
    ⟨fun mode standing => ?_, fun mode content standing => ?_⟩⟩
  · rw [heeded_iff]
    rintro ⟨location, mode, text, found, -⟩
    simp [Volume.locate_error_follow lost] at found
  · have found := Volume.locate_of_ne_link reached (by simp [standing])
    rw [heeded_iff]
    rintro ⟨other, mode', text, found', standing'⟩
    cases found.symm.trans found'
    simp [standing] at standing'
  · have found := Volume.locate_of_ne_link reached (by simp [standing])
    rw [heeded_iff]
    constructor
    · rintro ⟨other, mode', text, found', standing'⟩
      cases found.symm.trans found'
      cases standing.symm.trans standing'
      exact ⟨text, rfl⟩
    · rintro ⟨text, rfl⟩
      exact ⟨location, mode, text, found, standing⟩

/-- The name of the folder of the settings file. -/
def folderName : Name := ⟨Utf8.encode "miyoo-junk", by decide +kernel⟩

/-- The name of the settings file. -/
def fileName : Name := ⟨Utf8.encode "settings.toml", by decide +kernel⟩

/-- A volume with a settings file of a single byte. -/
def byteVolume (byte : UInt8) : Volume where
  entries := [([folderName], .folder Node.folderMode),
    ([fileName, folderName], .file Node.fileMode [byte])]
  distinct := (by decide +kernel : [[folderName], [fileName, folderName]].Nodup)

/-- A settings file that holds a word is told of, here with its own text for a diagnosis. -/
theorem heeded_byteVolume :
    let file := path none none (some (.ofText "/"))
    (byteVolume 0x78).HoldsText file ∧ Heeded id file (byteVolume 0x78) ∧
      load file (byteVolume 0x78) id = (standard, [.event (.ignoring file "x")]) := by
  have held : (byteVolume 0x78).HoldsText (path none none (some (.ofText "/"))) :=
    ⟨[fileName, folderName], Node.fileMode, "x", by cbv, by cbv⟩
  exact ⟨held, (load_heeded _ _ _).1.mpr held, by cbv⟩

/-- A settings file that holds no text is dropped, and nobody is told. -/
theorem not_heeded_byteVolume :
    let file := path none none (some (.ofText "/"))
    (byteVolume 0xFF).locate false file = .ok [fileName, folderName] ∧
      (byteVolume 0xFF).node? [fileName, folderName] = some (.file Node.fileMode [0xFF]) ∧
      ∀ diagnosis, load file (byteVolume 0xFF) diagnosis = (standard, []) ∧
        ¬ Heeded diagnosis file (byteVolume 0xFF) := by
  have read : (byteVolume 0xFF).readText (path none none (some (.ofText "/"))) =
      .error .notText := by cbv
  refine ⟨by cbv, by cbv, fun diagnosis => ⟨load_of_readText_error read, fun heeded => ?_⟩⟩
  obtain ⟨text, held⟩ := Volume.holdsText_iff.mp (heeded_iff.mp heeded)
  simp [read] at held

end Settings
end CardKeeper

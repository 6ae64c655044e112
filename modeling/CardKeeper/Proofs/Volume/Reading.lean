import CardKeeper.Proofs.Volume.Descent
import CardKeeper.Proofs.Volume.Replaceable

/-!
# Reading without links

Without links a path leads to the entry that it asks for, or to a folder on its way.  So when files
are laid over a volume, what a path reads depends only on what was laid where it leads or at the
entry that it asks for: `Overlays.content?_congr`.
-/

namespace CardKeeper
namespace Volume

variable {volume before after : Volume} {path : Path} {name : Name} {above here location : Location}
  {links : Nat} {last : Bytes} {content : Bytes}

/-- The content of the file that a path leads to, if it leads to one. -/
def content? (volume : Volume) (path : Path) : Option Bytes :=
  (volume.read path).toOption

theorem content?_eq_some_iff : volume.content? path = some content ↔
    volume.read path = .ok content := by
  unfold content?
  cases volume.read path <;> simp [Except.toOption]

/-- A path asks for the entry at a location, whether or not something stands there. -/
def Asks (volume : Volume) (path : Path) (location : Location) : Prop :=
  ∃ name above, location = name :: above ∧ volume.EntryAt path name above

/-- A path leads to a location, or asks for the entry there. -/
def Meets (volume : Volume) (path : Path) (location : Location) : Prop :=
  volume.Asks path location ∨ volume.locate true path = .ok location

theorem Overlays.asks_iff (overlays : after.Overlays before) :
    after.Asks path location ↔ before.Asks path location := by
  simp only [Asks, overlays.entryAt_iff]

theorem EntryAt.asks (entry : volume.EntryAt path name above) :
    volume.Asks path (name :: above) :=
  ⟨name, above, rfl, entry⟩

/-- A path that asks for an entry asks for no other. -/
theorem EntryAt.eq_of_asks (entry : volume.EntryAt path name above)
    (asked : volume.Asks path location) : location = name :: above := by
  obtain ⟨other, folder, rfl, again⟩ := asked
  obtain ⟨rfl, rfl⟩ := entry.unique again
  rfl

/-! ## The last segment -/

theorem walk_single_up (folder : volume.isFolderAt here = true) :
    volume.walk true links here [[Path.dot, Path.dot]] = .ok here.tail := by
  have visible : Path.isFiller [Path.dot, Path.dot] = false := rfl
  simp [walk_cons, turn, folder, visible, walk_nil]

/-- What a path leads to is the last turn from a folder that the rest leads to. -/
theorem of_walk_concat {front : List Bytes}
    (walked : volume.walk true links here (front ++ [last]) = .ok location) :
    ∃ place left, volume.walk true links here front = .ok place ∧
      volume.isFolderAt place = true ∧ volume.walk true left place [last] = .ok location := by
  cases leads : volume.walk true links here front with
  | error fault =>
      rw [walk_append_error (List.cons_ne_nil _ _) leads] at walked
      cases walked
  | ok place =>
      obtain ⟨left, -, same⟩ := walk_append leads
      rw [same true _ (List.cons_ne_nil _ _)] at walked
      exact ⟨place, left, rfl, isFolderAt_of_walk_cons walked, walked⟩

/-- Without links the last segment stays at a folder, leads out of it or names an entry of it. -/
theorem walk_single_cases (free : volume.LinkFree [])
    (reached : volume.walk true links here [last] = .ok location) :
    (Path.isFiller last = true ∧ location = here) ∨
      (last = [Path.dot, Path.dot] ∧ location = here.tail) ∨
        ∃ name : Name, last = name.bytes ∧ name.bytes.length ≤ nameLimit ∧
          location = name :: here := by
  have folder := isFolderAt_of_walk_cons reached
  by_cases filler : Path.isFiller last = true
  · rw [walk_single_of_filler filler, if_pos folder] at reached
    exact .inl ⟨filler, (Except.ok.inj reached).symm⟩
  by_cases up : last = [Path.dot, Path.dot]
  · subst up
    exact .inr (.inl ⟨rfl, Except.ok.inj (reached.symm.trans (walk_single_up folder))⟩)
  cases named : Name.ofBytes? last with
  | none =>
      rw [walk_cons] at reached
      by_cases long : nameLimit < last.length <;>
        simp [turn, folder, filler, up, long, named] at reached
  | some name =>
      obtain rfl := (Name.ofBytes?_eq_some_iff name).mp named
      obtain ⟨short, standing⟩ := of_walk_name reached
      obtain ⟨node, standing⟩ := Option.isSome_iff_exists.mp standing
      refine .inr (.inr ⟨name, rfl, short, ?_⟩)
      rw [walk_cons, turn_name folder short, standing] at reached
      cases node with
      | link target => exact absurd standing (free _ List.nil_suffix target)
      | folder mode => simpa [enter, walk_nil, eq_comm] using reached
      | file mode content => simpa [enter, walk_nil, eq_comm] using reached

/-- Without links an entry that is no folder is a site. -/
theorem EntryAt.site (entry : volume.EntryAt path name above) (free : volume.LinkFree [])
    (closed : volume.isFolderAt (name :: above) = false) : volume.Site name above := by
  refine .of_blind entry.isFolderAt entry.short fun links there reached => ?_
  rcases walk_single_cases free reached with ⟨filler, -⟩ | ⟨up, -⟩ | ⟨other, same, -, rfl⟩
  · simp at filler
  · exact absurd up name.ne_up
  · rw [Name.ext_bytes same] at closed
    exact closed

/-- Without links there is a file or nothing where no folder is. -/
theorem LinkFree.plain (free : volume.LinkFree []) (closed : volume.isFolderAt location = false) :
    volume.node? location = none ∨
      ∃ mode content, volume.node? location = some (.file mode content) := by
  cases standing : volume.node? location with
  | none => exact .inl rfl
  | some node =>
      cases node with
      | folder mode => simp [isFolderAt, standing, Node.isFolder] at closed
      | file mode content => exact .inr ⟨mode, content, rfl⟩
      | link target => exact absurd standing (free _ List.nil_suffix target)

/-! ## What is read -/

/-- A path leads to the same location in two volumes with the same folders, unless it asks for the
entry there. -/
theorem asks_or_locate {left right : Volume} (current : left.current = right.current)
    (folders : ∀ links here segments location,
      left.walk true links here segments = .ok location ∧ left.isFolderAt location = true →
        right.walk true links here segments = .ok location ∧ right.isFolderAt location = true)
    (free : left.LinkFree []) (reached : left.locate true path = .ok location) :
    right.Meets path location := by
  obtain ⟨accepted, walked⟩ := locate_eq_ok_iff.mp reached
  rcases List.eq_nil_or_concat path.segments with none | ⟨front, last, shape⟩
  · rw [none, walk_nil] at walked
    refine .inr (locate_eq_ok_iff.mpr ⟨accepted, ?_⟩)
    rw [none, walk_nil, ← current, walked]
  · rw [List.concat_eq_append] at shape
    rw [shape] at walked
    obtain ⟨place, _, leads, folder, walked⟩ := of_walk_concat walked
    obtain ⟨leads, folder⟩ := folders _ _ _ _ ⟨leads, folder⟩
    rw [current] at leads
    obtain ⟨right', -, same⟩ := walk_append leads
    rcases walk_single_cases free walked with
      ⟨filler, rfl⟩ | ⟨rfl, rfl⟩ | ⟨name, rfl, short, rfl⟩
    · refine .inr (locate_eq_ok_iff.mpr ⟨accepted, ?_⟩)
      rw [shape, same true _ (List.cons_ne_nil _ _), walk_single_of_filler filler, if_pos folder]
    · refine .inr (locate_eq_ok_iff.mpr ⟨accepted, ?_⟩)
      rw [shape, same true _ (List.cons_ne_nil _ _), walk_single_up folder]
    · exact .inl ⟨name, place, rfl, accepted, short, front, shape,
        walk_concat_filler.mpr ⟨leads, folder⟩⟩

/-- Without links a path that ends in a name asks for what it meets, unless that is a folder. -/
theorem Meets.asks (meets : volume.Meets path location) (free : volume.LinkFree [])
    (closed : volume.isFolderAt location = false) (named : path.fileName? ≠ none) :
    volume.Asks path location := by
  rcases meets with asks | reached
  · exact asks
  obtain ⟨accepted, walked⟩ := locate_eq_ok_iff.mp reached
  rcases List.eq_nil_or_concat path.segments with none | ⟨front, last, shape⟩
  · exact absurd none (List.splitOn_ne_nil _ _)
  rw [List.concat_eq_append] at shape
  rw [shape] at walked
  obtain ⟨place, _, leads, folder, walked⟩ := of_walk_concat walked
  rcases walk_single_cases free walked with
    ⟨filler, rfl⟩ | ⟨rfl, rfl⟩ | ⟨name, rfl, short, rfl⟩
  · exact absurd (folder.symm.trans closed) Bool.noConfusion
  · exact absurd (Path.fileName?_of_visible shape rfl) named
  · exact ⟨name, place, rfl, accepted, short, front, shape,
      walk_concat_filler.mpr ⟨leads, folder⟩⟩

theorem Meets.read_file {mode : Nat} (meets : volume.Meets path location)
    (standing : volume.node? location = some (.file mode content)) :
    volume.read path = .ok content := by
  rcases meets with ⟨name, above, rfl, entry⟩ | reached
  · exact entry.read_file standing
  · exact read_eq_ok_iff.mpr ⟨location, mode, reached, standing⟩

/-- Laying files leaves a path the same locations to lead to or to ask for. -/
theorem Overlays.meets_iff (overlays : after.Overlays before) (free : before.LinkFree []) :
    after.Meets path location ↔ before.Meets path location := by
  constructor
  · rintro (asks | reached)
    · exact .inl (overlays.asks_iff.mp asks)
    · exact asks_or_locate overlays.current (fun _ _ _ _ => overlays.walk_folder_iff.mp)
        (free.overlay overlays) reached
  · rintro (asks | reached)
    · exact .inl (overlays.asks_iff.mpr asks)
    · exact asks_or_locate overlays.current.symm (fun _ _ _ _ => overlays.walk_folder_iff.mpr)
        free reached

/-- A path reads the same when the same was laid where it leads and at the entry it asks for. -/
theorem Overlays.content?_congr {left right : Volume} (leftOverlays : left.Overlays before)
    (rightOverlays : right.Overlays before) (free : before.LinkFree [])
    (same : ∀ location, before.Meets path location →
      left.node? location = right.node? location) :
    left.content? path = right.content? path := by
  ext content
  rw [content?_eq_some_iff, content?_eq_some_iff]
  constructor
  · intro found
    obtain ⟨location, mode, reached, standing⟩ := read_eq_ok_iff.mp found
    have meets := (leftOverlays.meets_iff free).mp (.inr reached)
    exact ((rightOverlays.meets_iff free).mpr meets).read_file
      ((same location meets).symm.trans standing)
  · intro found
    obtain ⟨location, mode, reached, standing⟩ := read_eq_ok_iff.mp found
    have meets := (rightOverlays.meets_iff free).mp (.inr reached)
    exact ((leftOverlays.meets_iff free).mpr meets).read_file
      ((same location meets).trans standing)

/-- What can be read can still be read when files were laid. -/
theorem Overlays.exists_content? (overlays : after.Overlays before)
    (found : ∃ content, before.content? path = some content) :
    ∃ content, after.content? path = some content := by
  obtain ⟨content, found⟩ := found
  obtain ⟨location, mode, reached, standing⟩ := read_eq_ok_iff.mp (content?_eq_some_iff.mp found)
  have file := overlays.isFile_of (isFile_iff.mpr ⟨location, mode, content, reached, standing⟩)
  obtain ⟨there, _, content, reached, standing⟩ := isFile_iff.mp file
  exact ⟨content, content?_eq_some_iff.mpr (read_eq_ok_iff.mpr ⟨there, _, reached, standing⟩)⟩

end Volume
end CardKeeper

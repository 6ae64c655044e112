import CardKeeper.Proofs.Volume.Overlay

/-!
# Replacing files and their permissions

A path at which a file or nothing is found can be published: its entry is a site.  A file that takes
the place of what a path names has the permissions of what the path led to.  Those do not change as
files are laid over sites with the permissions that belong there: `Overlays.modeFor_eq`.
-/

namespace CardKeeper

namespace Node

theorem testBit_newMode (mask bit : Nat) :
    (newMode mask).testBit bit = ((0o666).testBit bit && !mask.testBit bit) := by
  rw [newMode, Nat.testBit_xor, Nat.testBit_and]
  cases (0o666).testBit bit <;> cases mask.testBit bit <;> rfl

theorem newMode_usualMask : newMode usualMask = fileMode := rfl

end Node

namespace Volume

variable {volume before after : Volume} {path : Path} {name : Name} {above location : Location}
  {links : Nat} {here : Location} {segments : List Bytes}

/-- The permissions of what a walk leads to, or those of a new file. -/
def modeReached (volume : Volume) : Except Fault Location → Nat
  | .ok location => ((volume.node? location).map Node.mode).getD Node.fileMode
  | .error _ => Node.fileMode

/-- The permissions of what a path leads to, or those that a mask leaves to a new file. -/
def modeUnder (volume : Volume) (mask : Nat) (path : Path) : Nat :=
  match volume.status? path with
  | .ok node => node.mode
  | .error _ => Node.newMode mask

/-- The permissions of what a path leads to, or those of a new file. -/
def modeFor (volume : Volume) (path : Path) : Nat :=
  match volume.status? path with
  | .ok node => node.mode
  | .error _ => Node.fileMode

theorem modeUnder_usualMask (volume : Volume) (path : Path) :
    volume.modeUnder Node.usualMask path = volume.modeFor path := by
  rw [modeUnder, modeFor, Node.newMode_usualMask]

theorem modeFor_eq_modeReached (volume : Volume) (path : Path) :
    volume.modeFor path = volume.modeReached (volume.locate true path) := by
  unfold modeFor status?
  cases volume.locate true path with
  | error fault => rfl
  | ok location =>
      cases standing : volume.node? location <;> simp [Except.bind, modeReached, standing]

/-- The permissions of what an entry of a folder leads to, or those of a new file. -/
def modeVia (volume : Volume) (name : Name) (above : Location) : Nat :=
  volume.modeReached (volume.walk true linkLimit above [name.bytes])

/-! ## Entries at which a file or nothing stands -/

namespace EntryAt

theorem modeFor_eq (entry : volume.EntryAt path name above)
    (plain : volume.node? (name :: above) = none ∨
      ∃ mode content, volume.node? (name :: above) = some (.file mode content)) :
    volume.modeFor path = volume.modeReached (.ok (name :: above)) := by
  rcases plain with nothing | ⟨mode, content, file⟩
  · simp only [modeFor, modeReached, entry.status?_none nothing, nothing]
    rfl
  · simp only [modeFor, modeReached, entry.status?_file file, file]
    rfl

theorem read_eq (entry : volume.EntryAt path name above) (later : after.EntryAt path name above)
    (plain : volume.node? (name :: above) = none ∨
      ∃ mode content, volume.node? (name :: above) = some (.file mode content))
    (same : after.node? (name :: above) = volume.node? (name :: above)) :
    after.read path = volume.read path := by
  rcases plain with nothing | ⟨mode, content, file⟩
  · rw [entry.read_none nothing, later.read_none (same.trans nothing)]
  · rw [entry.read_file file, later.read_file (same.trans file)]

end EntryAt

/-! ## Files and nothing -/

/-- A file, or nothing, is found at a path. -/
def Replaceable (volume : Volume) (path : Path) : Prop :=
  (∃ content, volume.read path = .ok content) ∨ volume.read path = .error .notFound

namespace Replaceable

/-- Only a fault by which nothing is found lets a path be published. -/
theorem eq_notFound {fault : Fault} (replaceable : volume.Replaceable path)
    (lost : volume.locate true path = .error fault) : fault = .notFound := by
  rcases replaceable with ⟨content, found⟩ | missing
  · simp [read, status?, lost, Except.bind] at found
  · simpa [read, status?, lost, Except.bind] using missing

theorem ne_tooManyLinks (replaceable : volume.Replaceable path) :
    volume.locate true path ≠ .error .tooManyLinks :=
  fun lost => nomatch replaceable.eq_notFound lost

theorem node?_of_locate (replaceable : volume.Replaceable path)
    (reached : volume.locate true path = .ok location) :
    volume.node? location = none ∨
      ∃ mode content, volume.node? location = some (.file mode content) := by
  cases standing : volume.node? location with
  | none => exact .inl rfl
  | some node =>
      cases node with
      | file mode content => exact .inr ⟨mode, content, rfl⟩
      | folder mode =>
          simp [Replaceable, read, status?, reached, standing, Except.bind] at replaceable
      | link target =>
          simp [Replaceable, read, status?, reached, standing, Except.bind] at replaceable

/-- A path at which a file or nothing is found has a site for its entry. -/
theorem site (replaceable : volume.Replaceable path) (entry : volume.EntryAt path name above) :
    volume.Site name above := by
  obtain ⟨left, -, same⟩ := entry.locate_eq
  refine .of_blind entry.isFolderAt entry.short fun links there reached => ?_
  have found : volume.locate true path = .ok there := by
    rw [same]
    -- The two walks differ only in the links they may follow, and neither uses them up.
    rcases Nat.le_total links left with fewer | more
    · rw [walk_of_le fewer (by simp [reached]), reached]
    · rw [← reached]
      refine (walk_of_le more ?_).symm
      rw [← same]
      exact replaceable.ne_tooManyLinks
  rcases replaceable.node?_of_locate found with nothing | ⟨mode, content, file⟩
  · simp [isFolderAt, nothing]
  · simp [isFolderAt, file, Node.isFolder]

/-- Where a file or nothing is found under the name of an entry, its path asks for that entry. -/
theorem entryAt (replaceable : volume.Replaceable (path.entry name.bytes))
    (reached : volume.locate true path = .ok above) (folder : volume.isFolderAt above = true) :
    volume.EntryAt (path.entry name.bytes) name above := by
  have accepted : refusal? (path.entry name.bytes) = none := by
    cases refused : refusal? (path.entry name.bytes) with
    | none => rfl
    | some fault =>
        have lost : volume.locate true (path.entry name.bytes) = .error fault := by
          rw [locate, refused]
        obtain rfl := replaceable.eq_notFound lost
        exact absurd refused (refusal?_entry_ne_notFound path name)
  have leads := walk_prior_of_locate reached folder
  obtain ⟨left, -, same⟩ := walk_append (walk_concat_filler.mp leads).1
  have short : name.bytes.length ≤ nameLimit := by
    rcases Nat.lt_or_ge nameLimit name.bytes.length with long | short
    · have lost : volume.locate true (path.entry name.bytes) = .error .nameTooLong := by
        rw [locate_of_not_refused accepted, Path.segments_entry path name.slash_not_mem,
          start_entry path name.slash_not_mem, same true _ (List.cons_ne_nil _ _), walk_cons,
          turn_long long folder]
      cases replaceable.eq_notFound lost
    · exact short
  exact entryAt_entry accepted short reached folder

/-- A file keeps the permissions that its entry leads to. -/
theorem modeFor_eq_modeVia (replaceable : volume.Replaceable path)
    (entry : volume.EntryAt path name above) :
    volume.modeFor path = volume.modeVia name above := by
  obtain ⟨left, left_le, same⟩ := entry.locate_eq
  have enough := replaceable.ne_tooManyLinks
  rw [same] at enough
  rw [modeFor_eq_modeReached, same, modeVia, walk_of_le left_le enough]

end Replaceable

/-! ## Permissions under an overlay -/

/-- Only files are new in a volume, each with the permissions of what was found in its place. -/
def KeepsModes (after before : Volume) : Prop :=
  ∀ location, after.node? location = before.node? location ∨
    ∃ name above, location = name :: above ∧ before.isFolderAt above = true ∧
      name.bytes.length ≤ nameLimit ∧
      ∃ content, after.node? location = some (.file (before.modeVia name above) content)

theorem KeepsModes.refl (volume : Volume) : volume.KeepsModes volume :=
  fun _ => .inl rfl

theorem KeepsModes.put (keeps : after.KeepsModes before)
    (folder : before.isFolderAt above = true) (short : name.bytes.length ≤ nameLimit)
    (content : Bytes) :
    (after.put (name :: above) (.file (before.modeVia name above) content)).KeepsModes before := by
  intro location
  rw [node?_put _ _ _ _ (List.cons_ne_nil _ _)]
  by_cases here : location = name :: above
  · rw [if_pos here]
    exact .inr ⟨name, above, here, folder, short, content, rfl⟩
  · rw [if_neg here]
    exact keeps location

/-- A file at an entry has the permissions that the entry leads to. -/
theorem modeVia_file (folder : volume.isFolderAt above = true)
    (short : name.bytes.length ≤ nameLimit) {mode : Nat} {content : Bytes}
    (standing : volume.node? (name :: above) = some (.file mode content)) :
    volume.modeVia name above = mode := by
  rw [modeVia, walk_file folder short standing, if_pos rfl, modeReached, standing]
  rfl

theorem modeVia_fresh (fresh : volume.node? (name :: above) = none) :
    volume.modeVia name above = Node.fileMode := by
  rw [modeVia]
  cases reached : volume.walk true linkLimit above [name.bytes] with
  | error fault => rfl
  | ok location =>
      have standing := (of_walk_name reached).2
      simp [fresh] at standing

namespace Overlays

theorem modeReached_walk (overlays : after.Overlays before) (keeps : after.KeepsModes before)
    (links_le : links ≤ linkLimit)
    (enough : before.walk true links here segments ≠ .error .tooManyLinks)
    (plain : ∀ location, before.walk true links here segments = .ok location →
      before.node? location = none ∨
        ∃ mode content, before.node? location = some (.file mode content)) :
    after.modeReached (after.walk true links here segments) =
      before.modeReached (before.walk true links here segments) := by
  rcases overlays.walk_cases links here segments with same | ⟨name, above, left, rest, parting⟩
  · rw [same]
    cases reached : before.walk true links here segments with
    | error fault => rfl
    | ok location =>
        rw [modeReached, modeReached]
        -- The walks agree, but they may both end where a file was laid.
        rcases keeps location with kept | ⟨name, above, rfl, folder, short, content, laid⟩
        · rw [kept]
        · rw [laid]
          rcases plain _ reached with nothing | ⟨mode, content, file⟩
          · rw [nothing, modeVia_fresh nothing]
            rfl
          · rw [file, modeVia_file folder short file]
            rfl
  · rw [parting.later, parting.earlier]
    rw [parting.earlier] at enough
    by_cases last : rest = []
    · subst last
      have few := Nat.le_trans parting.left_le links_le
      rw [if_pos rfl, modeReached, ← walk_of_le few enough, ← modeVia]
      rcases keeps (name :: above) with kept | ⟨_, _, location, -, -, content, laid⟩
      · obtain ⟨mode, content, file⟩ := parting.laid
        rw [modeVia_file parting.folder parting.short (kept.symm.trans file), file]
        rfl
      · cases location
        rw [laid]
        rfl
    · rw [if_neg last]
      cases reached : before.walk true left above (name.bytes :: rest) with
      | error fault => rfl
      | ok location => exact absurd (parting.site.eq_nil_of_walk reached).1 last

/-- A path that can be published names the same permissions under an overlay. -/
theorem modeFor_eq (overlays : after.Overlays before) (keeps : after.KeepsModes before)
    (replaceable : before.Replaceable path) : after.modeFor path = before.modeFor path := by
  rw [modeFor_eq_modeReached, modeFor_eq_modeReached]
  cases refused : refusal? path with
  | some fault => simp [locate, refused, modeReached]
  | none =>
      have enough := replaceable.ne_tooManyLinks
      have plain (location : Location) (reached : before.locate true path = .ok location) :=
        replaceable.node?_of_locate reached
      rw [locate_of_not_refused refused] at enough plain
      rw [locate_of_not_refused refused, locate_of_not_refused refused, overlays.current]
      exact overlays.modeReached_walk keeps (Nat.le_refl _) enough plain

end Overlays
end Volume
end CardKeeper

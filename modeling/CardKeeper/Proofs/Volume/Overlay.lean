import CardKeeper.Proofs.Volume.Lookup

/-!
# Files laid over a volume

A site is an entry that leads to no folder: nothing goes through it, whatever stands there.  When
files are laid over sites of a volume, each path either leads where it led before, or it comes upon
one of the sites and ends there: `Overlays.walk_cases`.  So every path to a folder stays as it was,
and what was a file is still one.
-/

namespace CardKeeper
namespace Volume

variable {before after : Volume} {path : Path} {name : Name} {above location : Location}
  {links : Nat} {here : Location} {segments : List Bytes}

/-- The entry `name` of `above` is no folder and leads to none. -/
structure Site (volume : Volume) (name : Name) (above : Location) : Prop where
  /-- No folder stands there. -/
  closed : volume.isFolderAt (name :: above) = false
  /-- Whatever the entry leads to is not a folder. -/
  blind : ∀ links there, volume.walk true links above [name.bytes] = .ok there →
    volume.isFolderAt there = false

/-- Files were laid over sites of a volume, and nothing else changed. -/
structure Overlays (after before : Volume) : Prop where
  /-- Relative paths start where they did. -/
  current : after.current = before.current
  /-- What stands at a location is what stood there, or a file laid over a site. -/
  cases : ∀ location, after.node? location = before.node? location ∨
    ∃ name above, location = name :: above ∧ before.Site name above ∧
      ∃ mode content, after.node? location = some (.file mode content)

namespace Site

/-- A path that comes upon a site does not go through it. -/
theorem eq_nil_of_walk {rest : List Bytes} (site : before.Site name above)
    (reached : before.walk true links above (name.bytes :: rest) = .ok location) :
    rest = [] ∧ before.isFolderAt location = false := by
  cases rest with
  | nil => exact ⟨rfl, site.blind links location reached⟩
  | cons segment rest =>
      rw [← List.singleton_append] at reached
      cases passed : before.walk true links above [name.bytes] with
      | error fault =>
          rw [walk_append_error (List.cons_ne_nil _ _) passed] at reached
          cases reached
      | ok there =>
          obtain ⟨left, -, onward⟩ := walk_append passed
          rw [onward true (segment :: rest) (List.cons_ne_nil _ _)] at reached
          have folder := isFolderAt_of_walk_cons reached
          rw [site.blind links there passed] at folder
          exact absurd folder Bool.false_ne_true

/-- An entry of a folder is a site if it leads to no folder. -/
theorem of_blind (folder : before.isFolderAt above = true) (short : name.bytes.length ≤ nameLimit)
    (blind : ∀ links there, before.walk true links above [name.bytes] = .ok there →
      before.isFolderAt there = false) : before.Site name above where
  blind := blind
  closed := by
    cases standing : before.isFolderAt (name :: above) with
    | false => rfl
    | true =>
        obtain ⟨mode, node⟩ := isFolderAt_iff.mp standing
        have through : before.walk true 0 above [name.bytes] = .ok (name :: above) := by
          rw [walk_cons, turn_name folder short, node]
          simp only [enter, walk_nil]
        rw [blind 0 _ through] at standing
        exact absurd standing Bool.false_ne_true

/-- An entry where nothing stands is a site. -/
theorem of_fresh (fresh : before.node? (name :: above) = none) : before.Site name above where
  closed := by simp [isFolderAt, fresh]
  blind := by
    intro links there reached
    have standing := (of_walk_name reached).2
    simp [fresh] at standing

end Site

namespace Overlays

/-- A volume overlays itself. -/
theorem refl (volume : Volume) : volume.Overlays volume where
  current := rfl
  cases _ := .inl rfl

theorem absolute_eq (overlays : after.Overlays before) (path : Path) :
    after.absolute path = before.absolute path := by
  rw [absolute, absolute, overlays.current]

theorem isFolderAt_eq (overlays : after.Overlays before) (location : Location) :
    after.isFolderAt location = before.isFolderAt location := by
  rcases overlays.cases location with same | ⟨name, above, rfl, site, mode, content, laid⟩
  · rw [isFolderAt, isFolderAt, same]
  · rw [site.closed, isFolderAt, laid]
    rfl

/-- A file laid over a site makes one more overlay. -/
theorem put (overlays : after.Overlays before) (site : before.Site name above) (mode : Nat)
    (content : Bytes) : (after.put (name :: above) (.file mode content)).Overlays before where
  current := overlays.current
  cases location := by
    rw [node?_put _ _ _ _ (List.cons_ne_nil _ _)]
    by_cases here : location = name :: above
    · rw [if_pos here]
      exact .inr ⟨name, above, here, site, mode, content, rfl⟩
    · rw [if_neg here]
      exact overlays.cases location

/-! ## Where paths lead -/

/-- The walks of two volumes part at one site, where the later volume has a file. -/
structure Parting (after before : Volume) (links : Nat) (here : Location)
    (segments : List Bytes) (name : Name) (above : Location) (left : Nat)
    (rest : List Bytes) : Prop where
  /-- It is a site of the earlier volume. -/
  site : before.Site name above
  /-- A folder stands above it. -/
  folder : before.isFolderAt above = true
  /-- Its name is not too long. -/
  short : name.bytes.length ≤ nameLimit
  /-- A file was laid over it. -/
  laid : ∃ mode content, after.node? (name :: above) = some (.file mode content)
  /-- So many links may still be followed. -/
  left_le : left ≤ links
  /-- The earlier volume goes on from the site. -/
  earlier : before.walk true links here segments = before.walk true left above (name.bytes :: rest)
  /-- The later one ends there. -/
  later : after.walk true links here segments =
    if rest = [] then .ok (name :: above) else .error .notDirectory

/-- A path leads where it led before, or it comes upon a site. -/
theorem walk_cases (overlays : after.Overlays before) (links : Nat) (here : Location)
    (segments : List Bytes) :
    after.walk true links here segments = before.walk true links here segments ∨
      ∃ name above left rest, Parting after before links here segments name above left rest := by
  induction links, here, segments using walk_induction before true with
  | nil links here => exact .inl (by rw [walk_nil, walk_nil])
  | cons links here segment rest ih =>
      -- Only at a name with a file laid over it do the two volumes turn another way.
      have alike (same : after.turn true links here segment rest =
          before.turn true links here segment rest) :
          after.walk true links here (segment :: rest) =
              before.walk true links here (segment :: rest) ∨
            ∃ name above left more,
              Parting after before links here (segment :: rest) name above left more := by
        rw [walk_cons, walk_cons, same]
        cases onward : before.turn true links here segment rest with
        | stop fault => exact .inl rfl
        | arrive location => exact .inl rfl
        | go left there segments =>
            rcases ih left there segments onward with equal | ⟨name, above, more, last, parting⟩
            · exact .inl equal
            · refine .inr ⟨name, above, more, last, parting.site, parting.folder,
                parting.short, parting.laid,
                Nat.le_trans parting.left_le (turn_links_le onward), ?_, ?_⟩
              · rw [walk_cons, onward]
                exact parting.earlier
              · rw [walk_cons, same, onward]
                exact parting.later
      by_cases outside : before.isFolderAt here = false
      · refine alike ?_
        rw [turn_outside outside, turn_outside (by rw [overlays.isFolderAt_eq, outside])]
      by_cases long : nameLimit < segment.length
      · exact alike (by simp only [turn, overlays.isFolderAt_eq, if_pos long])
      have folder : before.isFolderAt here = true := by simpa using outside
      have short := Nat.le_of_not_lt long
      cases named : Name.ofBytes? segment with
      | none => exact alike (by simp only [turn, overlays.isFolderAt_eq, named])
      | some name =>
          obtain rfl := (Name.ofBytes?_eq_some_iff name).mp named
          rcases overlays.cases (name :: here) with
            same | ⟨_, _, location, site, mode, content, laid⟩
          · exact alike (by simp only [turn, overlays.isFolderAt_eq, named, same])
          · cases location
            have opened : after.isFolderAt here = true := by rw [overlays.isFolderAt_eq, folder]
            exact .inr ⟨_, _, links, rest, site, folder, short, ⟨mode, content, laid⟩,
              Nat.le_refl _, rfl, walk_file opened short laid⟩

/-- A path that leads to a folder does so whatever is laid over sites. -/
theorem walk_folder_iff (overlays : after.Overlays before) :
    after.walk true links here segments = .ok location ∧ after.isFolderAt location = true ↔
      before.walk true links here segments = .ok location ∧
        before.isFolderAt location = true := by
  rw [overlays.isFolderAt_eq]
  refine and_congr_left fun folder => ?_
  rcases overlays.walk_cases links here segments with same | ⟨name, above, left, rest, parting⟩
  · rw [same]
  · rw [parting.earlier, parting.later]
    constructor
    · intro reached
      split at reached
      · cases reached
        rw [parting.site.closed] at folder
        exact absurd folder Bool.false_ne_true
      · cases reached
    · intro reached
      rw [(parting.site.eq_nil_of_walk reached).2] at folder
      exact absurd folder Bool.false_ne_true

theorem walk_concat_filler_iff (overlays : after.Overlays before) :
    after.walk true links here (segments ++ [[]]) = .ok location ↔
      before.walk true links here (segments ++ [[]]) = .ok location := by
  rw [walk_concat_filler, walk_concat_filler, overlays.walk_folder_iff]

theorem locate_folder_iff (overlays : after.Overlays before) :
    after.locate true path = .ok location ∧ after.isFolderAt location = true ↔
      before.locate true path = .ok location ∧ before.isFolderAt location = true := by
  rw [locate_eq_ok_iff, locate_eq_ok_iff, and_assoc, and_assoc, overlays.current,
    overlays.walk_folder_iff]

theorem isFolder_eq (overlays : after.Overlays before) (path : Path) :
    after.isFolder path = before.isFolder path := by
  rw [Bool.eq_iff_iff, isFolder_iff, isFolder_iff]
  exact exists_congr fun location => overlays.locate_folder_iff

theorem entryAt_iff (overlays : after.Overlays before) :
    after.EntryAt path name above ↔ before.EntryAt path name above := by
  constructor
  · rintro ⟨accepted, short, front, shape, leads⟩
    rw [overlays.current, overlays.walk_concat_filler_iff] at leads
    exact ⟨accepted, short, front, shape, leads⟩
  · rintro ⟨accepted, short, front, shape, leads⟩
    rw [← overlays.walk_concat_filler_iff, ← overlays.current] at leads
    exact ⟨accepted, short, front, shape, leads⟩

/-- What was a file is still one. -/
theorem isFile_of (overlays : after.Overlays before) (file : before.isFile path = true) :
    after.isFile path = true := by
  obtain ⟨location, mode, content, reached, standing⟩ := isFile_iff.mp file
  obtain ⟨accepted, walked⟩ := locate_eq_ok_iff.mp reached
  rcases overlays.walk_cases linkLimit (start path before.current) path.segments with
    same | ⟨name, above, left, rest, parting⟩
  · rw [walked, ← overlays.current] at same
    have found := locate_eq_ok_iff.mpr ⟨accepted, same⟩
    rcases overlays.cases location with kept | ⟨_, _, rfl, _, newMode, newContent, laid⟩
    · exact isFile_iff.mpr ⟨location, mode, content, found, kept.trans standing⟩
    · exact isFile_iff.mpr ⟨_, newMode, newContent, found, laid⟩
  · rw [parting.earlier] at walked
    have last := (parting.site.eq_nil_of_walk walked).1
    have ended := parting.later
    rw [if_pos last, ← overlays.current] at ended
    obtain ⟨newMode, newContent, laid⟩ := parting.laid
    exact isFile_iff.mpr
      ⟨_, newMode, newContent, locate_eq_ok_iff.mpr ⟨accepted, ended⟩, laid⟩

end Overlays
end Volume
end CardKeeper

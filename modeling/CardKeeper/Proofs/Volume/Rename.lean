import CardKeeper.Proofs.Volume.Descent
import CardKeeper.Volume.Change

/-!
# Renaming an entry

An entry that gets a new name takes along all it holds, and what stands elsewhere stays where it is:
`renames_move`.  On a card without links a path that passes neither name leads where it did
(`Renames.status?_beside`).  What a path leads to that ends in one of the names depends on its
length and on what stands at its entry (`Opens.status?_entry_eq_ok_iff`).  Titles are hidden by a
new name with a dot in front.
-/

namespace CardKeeper
namespace Volume

variable {before after volume : Volume} {root folder path : Path} {above home location : Location}
  {source target below : Location} {old new name : Name} {spot names : List Name} {node : Node}

/-! ## Entries by their locations -/

theorem find?_of_mem {entries : List (Location × Node)} (distinct : (entries.map Prod.fst).Nodup)
    (member : (location, node) ∈ entries) : find? location entries = some node := by
  induction entries with
  | nil => cases member
  | cons entry rest ih =>
      obtain ⟨fresh, others⟩ := List.nodup_cons.mp distinct
      rw [find?]
      rcases List.mem_cons.mp member with rfl | later
      · rw [if_pos rfl]
      · have differs : entry.1 ≠ location := fun same =>
          fresh (same ▸ List.mem_map_of_mem (f := Prod.fst) later)
        rw [if_neg differs, ih others later]

theorem node?_eq_some_iff (inside : location ≠ []) :
    volume.node? location = some node ↔ (location, node) ∈ volume.entries := by
  cases location with
  | nil => exact absurd rfl inside
  | cons name above => exact ⟨mem_of_find?, find?_of_mem volume.distinct⟩

/-! ## Moving -/

theorem relocate_append (source target below : Location) :
    relocate source target (below ++ source) = below ++ target := by
  have within : isWithin source (below ++ source) = true :=
    List.isSuffixOf_iff_suffix.mpr (List.suffix_append below source)
  simp [relocate, within]

theorem relocate_of_not_suffix (outside : ¬ source <:+ location) :
    relocate source target location = location := by
  rw [relocate, isWithin, if_neg (mt List.isSuffixOf_iff_suffix.mp outside)]

theorem mem_entries_move : (location, node) ∈ (volume.move source target).entries ↔
    ∃ place, (place, node) ∈ volume.entries ∧ ¬ target <:+ place ∧
      relocate source target place = location := by
  simp only [move, isWithin, List.mem_map, List.mem_filter, Bool.not_eq_true', Prod.mk.injEq,
    Prod.exists, ← Bool.not_eq_true, List.isSuffixOf_iff_suffix]
  constructor
  · rintro ⟨place, _, ⟨member, free⟩, same, rfl⟩
    exact ⟨place, member, free, same⟩
  · rintro ⟨place, member, free, same⟩
    exact ⟨place, node, ⟨member, free⟩, same, rfl⟩

/-- What was at the source and below is at the target and below. -/
theorem mem_entries_move_inside (apart : ¬ target <:+ below ++ source) :
    (below ++ target, node) ∈ (volume.move source target).entries ↔
      (below ++ source, node) ∈ volume.entries := by
  rw [mem_entries_move]
  constructor
  · rintro ⟨place, member, free, same⟩
    by_cases within : source <:+ place
    · obtain ⟨more, rfl⟩ := within
      rw [relocate_append] at same
      rwa [← List.append_cancel_right same]
    · rw [relocate_of_not_suffix within] at same
      exact absurd (same ▸ List.suffix_append below _) free
  · intro member
    exact ⟨_, member, apart, relocate_append _ _ below⟩

/-- Nothing stays at the source or below. -/
theorem not_mem_entries_move (apart : ∀ more, ¬ source <:+ more ++ target) :
    (below ++ source, node) ∉ (volume.move source target).entries := by
  intro moved
  obtain ⟨place, -, -, same⟩ := mem_entries_move.mp moved
  by_cases within : source <:+ place
  · obtain ⟨more, rfl⟩ := within
    rw [relocate_append] at same
    exact apart more (same ▸ List.suffix_append below _)
  · rw [relocate_of_not_suffix within] at same
    exact within (same ▸ List.suffix_append below _)

/-- What is elsewhere stays there. -/
theorem mem_entries_move_beside (outside : ¬ source <:+ location) (free : ¬ target <:+ location) :
    (location, node) ∈ (volume.move source target).entries ↔
      (location, node) ∈ volume.entries := by
  rw [mem_entries_move]
  constructor
  · rintro ⟨place, member, -, same⟩
    by_cases within : source <:+ place
    · obtain ⟨more, rfl⟩ := within
      rw [relocate_append] at same
      exact absurd (same ▸ List.suffix_append more _) free
    · rw [relocate_of_not_suffix within] at same
      rwa [← same]
  · intro member
    exact ⟨_, member, free, relocate_of_not_suffix outside⟩

/-- What is in one folder is not in another one beside it. -/
theorem not_suffix_beside (differ : new ≠ old) (below above : Location) :
    ¬ new :: above <:+ below ++ old :: above := by
  intro within
  have same := (List.suffix_of_suffix_length_le within (List.suffix_append below _)
    (Nat.le_refl _)).eq_of_length rfl
  exact differ (List.cons.inj same).1

/-- An entry of a folder got a new name. -/
structure Renames (before after : Volume) (above : Location) (old new : Name) : Prop where
  /-- What stood at the old name and below stands at the new one and below. -/
  moved : ∀ below, after.node? (below ++ new :: above) = before.node? (below ++ old :: above)
  /-- Nothing is left at the old name. -/
  gone : ∀ below, after.node? (below ++ old :: above) = none
  /-- Everything else stands where it did. -/
  beside : ∀ location, ¬ old :: above <:+ location → ¬ new :: above <:+ location →
    after.node? location = before.node? location

/-- To move an entry to another name in its folder is to rename it. -/
theorem renames_move (differ : new ≠ old) (volume : Volume) (above : Location) :
    Renames volume (volume.move (old :: above) (new :: above)) above old new where
  moved below := by
    refine Option.ext fun node => ?_
    rw [node?_eq_some_iff (by simp), node?_eq_some_iff (by simp)]
    exact mem_entries_move_inside (not_suffix_beside differ below above)
  gone below := by
    refine Option.eq_none_iff_forall_not_mem.mpr fun node standing => ?_
    exact not_mem_entries_move (fun more => not_suffix_beside differ.symm more above)
      ((node?_eq_some_iff (by simp)).mp standing)
  beside location outside free := by
    cases location with
    | nil => rfl
    | cons first rest =>
        refine Option.ext fun node => ?_
        rw [node?_eq_some_iff (List.cons_ne_nil _ _), node?_eq_some_iff (List.cons_ne_nil _ _)]
        exact mem_entries_move_beside outside free

namespace Renames

variable (renames : Renames before after above old new)

include renames

theorem moved_self : after.node? (new :: above) = before.node? (old :: above) :=
  renames.moved []

theorem gone_self : after.node? (old :: above) = none :=
  renames.gone []

end Renames

/-- What stands on the way along names that pass neither of the two is the same. -/
theorem Renames.node?_of_mem_route (renames : Renames before after (spot.reverse ++ home) old new)
    (notOld : ¬ spot ++ [old] <+: names) (notNew : ¬ spot ++ [new] <+: names)
    (passed : location ∈ route home names) : after.node? location = before.node? location := by
  have outside (name : Name) (aside : ¬ spot ++ [name] <+: names) :
      ¬ name :: (spot.reverse ++ home) <:+ location := by
    rintro ⟨more, rfl⟩
    have onward : more ++ name :: spot.reverse ++ home ∈ route home names := by simpa using passed
    have start := prefix_of_mem_route onward
    rw [List.reverse_append, List.reverse_cons, List.reverse_reverse] at start
    exact aside ((List.prefix_append _ _).trans start)
  exact renames.beside location (outside old notOld) (outside new notNew)

/-- A path that passes neither name leads where it did. -/
theorem Renames.status?_beside (renames : Renames before after (spot.reverse ++ home) old new)
    (still : after.Opens root home) (opens : before.Opens root home) (free : before.LinkFree home)
    (some : names ≠ []) (notOld : ¬ spot ++ [old] <+: names) (notNew : ¬ spot ++ [new] <+: names) :
    after.status? (root.descend names) = before.status? (root.descend names) :=
  status?_descend_congr still opens free some fun _ passed =>
    renames.node?_of_mem_route notOld notNew passed

/-! ## Entries of an open folder -/

namespace Opens

variable (opens : volume.Opens folder above)

include opens

theorem entryAt (accepted : refusal? (folder.entry name.bytes) = none)
    (short : name.bytes.length ≤ nameLimit) :
    volume.EntryAt (folder.entry name.bytes) name above where
  accepted := accepted
  short := short
  leads := ⟨folder.prior, Path.segments_entry folder name.slash_not_mem, by
    rwa [start_entry folder name.slash_not_mem]⟩

/-- A folder in an open folder can be opened. -/
theorem entry {mode : Nat} (short : name.bytes.length ≤ nameLimit)
    (standing : volume.node? (name :: above) = some (.folder mode)) :
    volume.Opens (folder.entry name.bytes) (name :: above) := by
  obtain ⟨left, -, same⟩ := walk_append (walk_concat_filler.mp opens).1
  rw [Opens, Path.prior_entry, start_entry folder name.slash_not_mem]
  refine walk_concat_filler.mpr ⟨?_, isFolderAt_iff.mpr ⟨mode, standing⟩⟩
  rw [same true _ (List.cons_ne_nil _ _), walk_cons, turn_name opens.isFolderAt short, standing]
  simp only [enter, walk_nil]

/-- The path of an entry that is no link leads to what stands there, if it is short enough. -/
theorem status?_entry_eq_ok_iff (plain : ∀ target, volume.node? (name :: above) ≠
    some (.link target)) : volume.status? (folder.entry name.bytes) = .ok node ↔
      refusal? (folder.entry name.bytes) = none ∧ name.bytes.length ≤ nameLimit ∧
        volume.node? (name :: above) = some node := by
  constructor
  · intro found
    obtain ⟨location, reached, standing⟩ := status?_eq_ok_iff.mp found
    have accepted := (locate_eq_ok_iff.mp reached).1
    obtain ⟨left, walked⟩ := opens.locate_descend (List.cons_ne_nil name []) accepted
    have short := (of_walk_name (walked.symm.trans reached)).1
    obtain rfl := (opens.entryAt accepted short).eq_of_locate plain reached
    exact ⟨accepted, short, standing⟩
  · rintro ⟨accepted, short, standing⟩
    exact (opens.entryAt accepted short).status?_eq plain standing

theorem isFolder_entry_iff (plain : ∀ target, volume.node? (name :: above) ≠
    some (.link target)) : volume.isFolder (folder.entry name.bytes) = true ↔
      refusal? (folder.entry name.bytes) = none ∧ name.bytes.length ≤ nameLimit ∧
        ∃ mode, volume.node? (name :: above) = some (.folder mode) := by
  simp only [isFolder_iff_status?, opens.status?_entry_eq_ok_iff plain, exists_and_left]

theorem isFile_entry_iff (plain : ∀ target, volume.node? (name :: above) ≠
    some (.link target)) : volume.isFile (folder.entry name.bytes) = true ↔
      refusal? (folder.entry name.bytes) = none ∧ name.bytes.length ≤ nameLimit ∧
        ∃ mode content, volume.node? (name :: above) = some (.file mode content) := by
  simp only [isFile_iff_status?, opens.status?_entry_eq_ok_iff plain, exists_and_left]

end Opens

/-! ## Shorter paths -/

theorem refusal?_entry_of_suffix (ends : old.bytes <:+ new.bytes)
    (accepted : refusal? (folder.entry new.bytes) = none) :
    refusal? (folder.entry old.bytes) = none := by
  obtain ⟨front, same⟩ := Path.exists_join_eq folder
  have named (name : Name) : (folder.entry name.bytes).bytes = front ++ name.bytes :=
    congrArg Path.bytes (same _ (Path.isAbsolute_of_plain name.slash_not_mem))
  refine refusal?_of_sublist ?_ (bytes_entry_ne_nil folder old) accepted
  rw [named, named]
  exact ends.sublist.append_left front

theorem refusal?_entry_entry_of_suffix (ends : old.bytes <:+ new.bytes)
    (accepted : refusal? ((folder.entry new.bytes).entry name.bytes) = none) :
    refusal? ((folder.entry old.bytes).entry name.bytes) = none := by
  obtain ⟨front, same⟩ := Path.exists_join_eq folder
  have named (outer : Name) : ((folder.entry outer.bytes).entry name.bytes).bytes =
      front ++ outer.bytes ++ Path.slash :: name.bytes := by
    have outermost : folder.entry outer.bytes = ⟨front ++ outer.bytes⟩ :=
      same _ (Path.isAbsolute_of_plain outer.slash_not_mem)
    rw [outermost, Path.entry_append_name front outer name.slash_not_mem]
  refine refusal?_of_sublist ?_ (bytes_entry_ne_nil _ name) accepted
  rw [named, named]
  exact (ends.sublist.append_left front).append_right _

/-! ## Hiding an entry -/

/-- A folder whose name is a text is hidden: it gets a dot in front of its name, with which no entry
stood beside it. -/
structure Hides (before after : Volume) (above : Location) (title hidden : Name) : Prop where
  /-- The name is a text. -/
  text : ∃ text, title.bytes = Utf8.encode text
  /-- The folder is not hidden before. -/
  shown : title.bytes.head? ≠ some Path.dot
  /-- It gets a dot in front of its name. -/
  dotted : hidden.bytes = Path.dot :: title.bytes
  /-- The name is not too long with the dot. -/
  short : hidden.bytes.length ≤ nameLimit
  /-- There is a folder with the name. -/
  standing : ∃ mode, before.node? (title :: above) = some (.folder mode)
  /-- Nothing has the name with the dot. -/
  fresh : before.node? (hidden :: above) = none
  /-- The folder moves with all it holds. -/
  moved : after = before.move (title :: above) (hidden :: above)

namespace Hides

variable {title hidden : Name} (hides : Hides before after above title hidden)

include hides

theorem suffix : title.bytes <:+ hidden.bytes :=
  hides.dotted ▸ List.suffix_cons _ _

theorem hidden_ne : hidden ≠ title := by
  intro same
  have lengths := congrArg List.length hides.dotted
  rw [same, List.length_cons] at lengths
  omega

theorem renames : Renames before after above title hidden :=
  hides.moved ▸ renames_move hides.hidden_ne before above

theorem short_title : title.bytes.length ≤ nameLimit :=
  Nat.le_trans hides.suffix.length_le hides.short

/-- The title is one text with the dot and without it. -/
theorem exists_text : ∃ text, title.bytes = Utf8.encode text ∧ Card.unhide text = text ∧
    hidden.bytes = Utf8.encode ("." ++ text) ∧ Card.unhide ("." ++ text) = text := by
  obtain ⟨text, spelled⟩ := hides.text
  refine ⟨text, spelled, ?_, ?_, ?_⟩
  · unfold Card.unhide
    split
    · next rest shape =>
        have start : title.bytes.head? = some Path.dot := by
          rw [spelled, Utf8.encode, shape, Utf8.encodeChars_cons]
          rfl
        exact absurd start hides.shown
    · rfl
  · rw [hides.dotted, spelled, Utf8.encode_append]
    rfl
  · simp [Card.unhide]

/-! What the paths of the two names lead to, before and afterwards. -/

theorem isFolder_title (opens : before.Opens root above)
    (accepted : refusal? (root.entry hidden.bytes) = none) :
    before.isFolder (root.entry title.bytes) = true := by
  obtain ⟨mode, standing⟩ := hides.standing
  exact (opens.isFolder_entry_iff (by simp [standing])).mpr
    ⟨refusal?_entry_of_suffix hides.suffix accepted, hides.short_title, mode, standing⟩

theorem isFolder_hidden (opens : after.Opens root above)
    (accepted : refusal? (root.entry hidden.bytes) = none) :
    after.isFolder (root.entry hidden.bytes) = true := by
  obtain ⟨mode, standing⟩ := hides.standing
  rw [← hides.renames.moved_self] at standing
  exact (opens.isFolder_entry_iff (by simp [standing])).mpr
    ⟨accepted, hides.short, mode, standing⟩

theorem not_isFolder_title (opens : after.Opens root above) :
    after.isFolder (root.entry title.bytes) = false := by
  have gone := hides.renames.gone_self
  rw [← Bool.not_eq_true, opens.isFolder_entry_iff (by simp [gone])]
  simp [gone]

theorem not_isFolder_hidden (opens : before.Opens root above) :
    before.isFolder (root.entry hidden.bytes) = false := by
  have fresh := hides.fresh
  rw [← Bool.not_eq_true, opens.isFolder_entry_iff (by simp [fresh])]
  simp [fresh]

end Hides

end Volume
end CardKeeper

import CardKeeper.Proofs.Path.Relative
import CardKeeper.Proofs.Volume.Overlay

/-!
# Going down a tree without links

Names put behind the path of a folder lead straight down from the folder, as long as no links stand
below it.  What such a path leads to then depends only on what stands at the locations on its way:
`status?_descend_congr`.  The path of the folder itself may go through links, and it may be empty.
-/

namespace CardKeeper
namespace Volume

variable {volume before after : Volume} {root : Path} {name : Name} {names : List Name}
  {home here location : Location} {links more : Nat}

/-- No link stands at a location or below it. -/
def LinkFree (volume : Volume) (home : Location) : Prop :=
  ∀ location, home <:+ location → ∀ target, volume.node? location ≠ some (.link target)

/-- The entries of the folder at a path are those of a location.  An empty path names no folder, but
its entries are those of the folder in which relative paths start. -/
def Opens (volume : Volume) (root : Path) (home : Location) : Prop :=
  volume.walk true linkLimit (start root volume.current) (root.prior ++ [[]]) = .ok home

/-- The locations on the way along names. -/
def route (here : Location) : List Name → List Location
  | [] => []
  | name :: rest => (name :: here) :: route (name :: here) rest

/-- The locations on the way are those that the first few of the names lead to. -/
theorem mem_route_iff : location ∈ route here names ↔
    ∃ front, front ≠ [] ∧ front <+: names ∧ location = front.reverse ++ here := by
  induction names generalizing here with
  | nil =>
      constructor
      · intro passed
        cases passed
      · rintro ⟨front, some, short, -⟩
        exact absurd (List.prefix_nil.mp short) some
  | cons name rest ih =>
      rw [route, List.mem_cons, ih]
      constructor
      · rintro (rfl | ⟨front, -, short, rfl⟩)
        · exact ⟨[name], List.cons_ne_nil _ _, List.prefix_append [name] rest, rfl⟩
        · exact ⟨name :: front, List.cons_ne_nil _ _, List.cons_prefix_cons.mpr ⟨rfl, short⟩,
            by simp⟩
      · rintro ⟨front, some, short, rfl⟩
        obtain ⟨first, more, rfl⟩ := List.exists_cons_of_ne_nil some
        obtain ⟨rfl, fewer⟩ := List.cons_prefix_cons.mp short
        by_cases last : more = []
        · exact .inl (by simp [last])
        · exact .inr ⟨more, last, fewer, by simp⟩

/-- Names that lead to a location on the way are the first few of the names. -/
theorem prefix_of_mem_route {front : List Name} (passed : front ++ here ∈ route here names) :
    front.reverse <+: names := by
  obtain ⟨first, -, short, same⟩ := mem_route_iff.mp passed
  rw [List.append_cancel_right same, List.reverse_reverse]
  exact short

/-! ## Walks along names -/

/-- Where names lead depends on what stands on the way, and not on how many links may be followed.
-/
theorem walk_congr (folder : after.isFolderAt here = before.isFolderAt here)
    (same : ∀ location ∈ route here names, after.node? location = before.node? location)
    (free : before.LinkFree here) :
    after.walk true links here (names.map Name.bytes) =
      before.walk true more here (names.map Name.bytes) := by
  induction names generalizing here with
  | nil => rw [List.map_nil, walk_nil, walk_nil]
  | cons name rest ih =>
      rw [List.map_cons, walk_cons, walk_cons]
      cases opened : before.isFolderAt here with
      | false => rw [turn_outside opened, turn_outside (folder.trans opened)]
      | true =>
          rcases Nat.lt_or_ge nameLimit name.bytes.length with long | short
          · rw [turn_long long opened, turn_long long (folder.trans opened)]
          have below : here <:+ name :: here := List.suffix_cons name here
          have standing := same (name :: here) List.mem_cons_self
          have onward := ih (by rw [isFolderAt, isFolderAt, standing])
            (fun location later => same location (List.mem_cons_of_mem _ later))
            fun location under => free location (below.trans under)
          rw [turn_name opened short, turn_name (folder.trans opened) short, standing]
          cases node : before.node? (name :: here) with
          | none => rfl
          | some found =>
              cases found with
              | folder mode => exact onward
              | file mode content => exact onward
              | link target => exact absurd node (free _ below target)

/-- Names lead down to the location they spell. -/
theorem eq_of_walk (free : volume.LinkFree here)
    (reached : volume.walk true links here (names.map Name.bytes) = .ok location) :
    location = names.reverse ++ here := by
  induction names generalizing here with
  | nil =>
      rw [List.map_nil, walk_nil] at reached
      exact (Except.ok.inj reached).symm
  | cons name rest ih =>
      have below : here <:+ name :: here := List.suffix_cons name here
      have folder := isFolderAt_of_walk_cons reached
      have short := (of_walk_name reached).1
      rw [List.map_cons, walk_cons, turn_name folder short] at reached
      rw [List.reverse_cons, List.append_assoc, List.singleton_append]
      cases node : volume.node? (name :: here) with
      | none => simp [node, enter] at reached
      | some found =>
          rw [node] at reached
          cases found with
          | folder mode =>
              exact ih (fun location under => free location (below.trans under)) reached
          | file mode content =>
              exact ih (fun location under => free location (below.trans under)) reached
          | link target => exact absurd node (free _ below target)

/-! ## Paths below a folder -/

theorem prior_descend (root : Path) (names : List Name) :
    (root.descend names).prior = root.prior ++ names.map Name.bytes := by
  induction names generalizing root with
  | nil => simp [Path.descend]
  | cons name rest ih => rw [Path.descend_cons, ih, Path.prior_entry]; simp

theorem start_descend (root : Path) (names : List Name) (here : Location) :
    start (root.descend names) here = start root here := by
  rw [start, start, Path.isAbsolute_descend]

namespace Opens

/-- A path below a folder leads where its names lead from there. -/
theorem locate_descend (opens : volume.Opens root home) (some : names ≠ [])
    (accepted : refusal? (root.descend names) = none) : ∃ left,
    volume.locate true (root.descend names) =
      volume.walk true left home (names.map Name.bytes) := by
  obtain ⟨left, -, same⟩ := walk_append (walk_concat_filler.mp opens).1
  refine ⟨left, ?_⟩
  rw [locate_of_not_refused accepted, Path.segments_descend root some, start_descend,
    same true _ (by simpa using some)]

theorem isFolderAt (opens : volume.Opens root home) : volume.isFolderAt home = true :=
  (walk_concat_filler.mp opens).2

/-- The folder at a path below another one is where its names lead. -/
theorem eq_of_descend (opens : volume.Opens root home) (free : volume.LinkFree home)
    (under : volume.Opens (root.descend names) location) : location = names.reverse ++ home := by
  by_cases none : names = []
  · subst none
    exact Except.ok.inj (Eq.trans (Eq.symm under) opens)
  · obtain ⟨left, -, same⟩ := walk_append (walk_concat_filler.mp opens).1
    have reached := (walk_concat_filler.mp under).1
    rw [prior_descend, start_descend, same true _ (by simpa using none)] at reached
    exact eq_of_walk free reached

/-- A path below a folder can only be opened if the folder can. -/
theorem of_descend (under : volume.Opens (root.descend names) location) :
    ∃ home, volume.Opens root home := by
  by_cases none : names = []
  · subst none
    exact ⟨location, under⟩
  · have reached := (walk_concat_filler.mp under).1
    rw [prior_descend, start_descend] at reached
    cases short : volume.walk true linkLimit (start root volume.current) root.prior with
    | error fault =>
        rw [walk_append_error (by simpa using none) short] at reached
        cases reached
    | ok home =>
        obtain ⟨left, -, same⟩ := walk_append short
        rw [same true _ (by simpa using none)] at reached
        obtain ⟨name, rest, rfl⟩ := List.exists_cons_of_ne_nil none
        exact ⟨home, walk_concat_filler.mpr ⟨short, isFolderAt_of_walk_cons reached⟩⟩

end Opens

theorem Opens.locate_eq (opens : volume.Opens root home) (accepted : refusal? root = none) :
    volume.locate true root = .ok home :=
  (locate_of_walk_prior accepted opens).1

theorem Overlays.opens_iff (overlays : after.Overlays before) :
    after.Opens root home ↔ before.Opens root home := by
  rw [Opens, Opens, overlays.current, overlays.walk_concat_filler_iff]

theorem LinkFree.overlay (free : before.LinkFree home) (overlays : after.Overlays before) :
    after.LinkFree home := by
  intro location below target
  rcases overlays.cases location with same | ⟨name, above, rfl, -, mode, content, laid⟩
  · rw [same]
    exact free location below target
  · simp [laid]

theorem opens_of_locate (reached : volume.locate true root = .ok location)
    (folder : volume.isFolderAt location = true) : volume.Opens root location :=
  walk_prior_of_locate reached folder

/-- The path of an entry asks for it in the folder that holds it. -/
theorem EntryAt.opens {folder : Path} {other : Name} {above : Location}
    (entry : volume.EntryAt (folder.entry name.bytes) other above) :
    other = name ∧ volume.Opens folder above := by
  obtain ⟨front, shape, leads⟩ := entry.leads
  rw [Path.segments_entry folder name.slash_not_mem] at shape
  obtain ⟨rfl, lasts⟩ := List.append_inj' shape rfl
  rw [start_entry folder name.slash_not_mem] at leads
  exact ⟨Name.ext_bytes (List.singleton_inj.mp lasts).symm, leads⟩

/-- What stands at an entry is what its path leads to, unless it is a link. -/
theorem EntryAt.status?_eq {path : Path} {above : Location} (entry : volume.EntryAt path name above)
    (plain : ∀ target, volume.node? (name :: above) ≠ some (.link target)) {node : Node}
    (standing : volume.node? (name :: above) = some node) : volume.status? path = .ok node := by
  obtain ⟨left, -, same⟩ := entry.locate_eq
  refine status?_eq_ok_iff.mpr ⟨name :: above, ?_, standing⟩
  rw [same, walk_cons, turn_name entry.isFolderAt entry.short, standing]
  cases node with
  | folder mode => simp only [enter, walk_nil]
  | file mode content => simp only [enter, walk_nil]
  | link target => exact absurd standing (plain target)

/-- Where a path below a folder leads depends on what stands on its way, and not on how the folder
is spelled. -/
theorem locate_descend_congr {first second : Path} (opensAfter : after.Opens first home)
    (opensBefore : before.Opens second home) (free : before.LinkFree home) (some : names ≠ [])
    (refused : refusal? (first.descend names) = refusal? (second.descend names))
    (same : ∀ location ∈ route home names, after.node? location = before.node? location) :
    after.locate true (first.descend names) = before.locate true (second.descend names) := by
  cases accepted : refusal? (second.descend names) with
  | some fault => simp only [locate, refused, accepted]
  | none =>
      obtain ⟨left, walked⟩ := opensAfter.locate_descend some (refused.trans accepted)
      obtain ⟨more, walkedBefore⟩ := opensBefore.locate_descend some accepted
      have opened : after.isFolderAt home = before.isFolderAt home := by
        rw [opensAfter.isFolderAt, opensBefore.isFolderAt]
      rw [walked, walkedBefore, walk_congr opened same free]

/-- What a path below a folder leads to depends on what stands on its way. -/
theorem status?_descend_congr (opensAfter : after.Opens root home)
    (opensBefore : before.Opens root home) (free : before.LinkFree home) (some : names ≠ [])
    (same : ∀ location ∈ route home names, after.node? location = before.node? location) :
    after.status? (root.descend names) = before.status? (root.descend names) := by
  rw [status?, status?, locate_descend_congr opensAfter opensBefore free some rfl same]
  cases reached : before.locate true (root.descend names) with
  | error fault => rfl
  | ok location =>
      obtain ⟨more, walked⟩ := opensBefore.locate_descend some (locate_eq_ok_iff.mp reached).1
      obtain rfl := eq_of_walk free (walked.symm.trans reached)
      simp only [Except.bind, same _ (mem_route_iff.mpr ⟨names, some, List.prefix_rfl, rfl⟩)]

end Volume
end CardKeeper

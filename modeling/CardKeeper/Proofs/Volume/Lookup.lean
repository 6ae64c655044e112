import CardKeeper.Proofs.Volume.Walk

/-!
# What paths lead to

A path that ends in a name has an entry of its own, whether or not something stands there:
`EntryAt`.  What the path leads to depends on what stands at that entry, and a folder lists exactly
the names at which something stands.
-/

namespace CardKeeper
namespace Volume

variable {volume : Volume} {path folder : Path} {follow : Bool} {location : Location}

theorem locate_eq_ok_iff :
    volume.locate follow path = .ok location ↔
      refusal? path = none ∧
        volume.walk follow linkLimit (start path volume.current) path.segments = .ok location := by
  unfold locate
  cases refusal? path <;> simp

theorem locate_of_not_refused (accepted : refusal? path = none) :
    volume.locate follow path =
      volume.walk follow linkLimit (start path volume.current) path.segments := by
  simp [locate, accepted]

/-- A path leads to what stands at it, unless that is a link. -/
theorem locate_of_ne_link (reached : volume.locate false path = .ok location)
    (plain : ∀ target, volume.node? location ≠ some (.link target)) :
    volume.locate true path = .ok location := by
  obtain ⟨accepted, walked⟩ := locate_eq_ok_iff.mp reached
  rcases walk_follow volume linkLimit (start path volume.current) path.segments with
    same | ⟨there, target, arrived, standing⟩
  · exact locate_eq_ok_iff.mpr ⟨accepted, same.trans walked⟩
  · cases walked.symm.trans arrived
    exact absurd standing (plain target)

/-- A path at which nothing stands leads nowhere. -/
theorem locate_error_follow {fault : Fault} (failed : volume.locate false path = .error fault) :
    volume.locate true path = .error fault := by
  unfold locate at failed ⊢
  cases refused : refusal? path with
  | some other => simpa [refused] using failed
  | none =>
      rw [refused] at failed
      rcases walk_follow volume linkLimit (start path volume.current) path.segments with
        same | ⟨there, target, arrived, -⟩
      · exact same.trans failed
      · cases failed.symm.trans arrived

theorem status?_eq_ok_iff {node : Node} :
    volume.status? path = .ok node ↔
      ∃ location, volume.locate true path = .ok location ∧ volume.node? location = some node := by
  unfold status?
  cases volume.locate true path with
  | error fault => simp [Except.bind]
  | ok location =>
      cases standing : volume.node? location <;> simp [Except.bind, standing]

theorem isFolderAt_iff : volume.isFolderAt location = true ↔
    ∃ mode, volume.node? location = some (.folder mode) := by
  unfold isFolderAt
  cases volume.node? location with
  | none => simp
  | some node => cases node <;> simp [Node.isFolder]

theorem isFolder_iff_status? : volume.isFolder path = true ↔
    ∃ mode, volume.status? path = .ok (.folder mode) := by
  unfold isFolder
  cases volume.status? path with
  | error fault => simp
  | ok node => cases node <;> simp [Node.isFolder]

theorem isFile_iff_status? : volume.isFile path = true ↔
    ∃ mode content, volume.status? path = .ok (.file mode content) := by
  unfold isFile
  cases volume.status? path with
  | error fault => simp
  | ok node => cases node <;> simp [Node.isFile]

theorem read_eq_ok_iff_status? {content : Bytes} : volume.read path = .ok content ↔
    ∃ mode, volume.status? path = .ok (.file mode content) := by
  unfold read
  cases volume.status? path with
  | error fault => simp [Except.bind]
  | ok node => cases node <;> simp [Except.bind]

theorem isFolder_iff : volume.isFolder path = true ↔
    ∃ location, volume.locate true path = .ok location ∧ volume.isFolderAt location = true := by
  simp only [isFolder_iff_status?, status?_eq_ok_iff, isFolderAt_iff]
  constructor
  · rintro ⟨mode, location, reached, standing⟩
    exact ⟨location, reached, mode, standing⟩
  · rintro ⟨location, reached, mode, standing⟩
    exact ⟨mode, location, reached, standing⟩

theorem isFile_iff : volume.isFile path = true ↔
    ∃ location mode content, volume.locate true path = .ok location ∧
      volume.node? location = some (.file mode content) := by
  simp only [isFile_iff_status?, status?_eq_ok_iff]
  constructor
  · rintro ⟨mode, content, location, reached, standing⟩
    exact ⟨location, mode, content, reached, standing⟩
  · rintro ⟨location, mode, content, reached, standing⟩
    exact ⟨mode, content, location, reached, standing⟩

theorem read_eq_ok_iff {content : Bytes} : volume.read path = .ok content ↔
    ∃ location mode, volume.locate true path = .ok location ∧
      volume.node? location = some (.file mode content) := by
  simp only [read_eq_ok_iff_status?, status?_eq_ok_iff]
  exact exists_comm

theorem read_eq_notFound_iff :
    volume.read path = .error .notFound ↔ volume.status? path = .error .notFound := by
  unfold read
  cases volume.status? path with
  | error fault => simp [Except.bind]
  | ok node => cases node <;> simp [Except.bind]

/-! A path that leads to the same on two volumes is the same kind of path on both. -/

theorem isFile_congr {before after : Volume} (same : after.status? path = before.status? path) :
    after.isFile path = before.isFile path := by
  simp only [isFile, same]

theorem isFolder_congr {before after : Volume} (same : after.status? path = before.status? path) :
    after.isFolder path = before.isFolder path := by
  simp only [isFolder, same]

theorem read_congr {before after : Volume} (same : after.status? path = before.status? path) :
    after.read path = before.read path := by
  simp only [read, same]

/-! ## Names in a folder -/

theorem find?_eq_none_iff {key : Location} {entries : List (Location × Node)} :
    find? key entries = none ↔ key ∉ entries.map Prod.fst := by
  induction entries with
  | nil => simp [find?]
  | cons entry rest ih =>
      simp only [find?, List.map_cons, List.mem_cons, not_or]
      by_cases same : entry.1 = key
      · simp [same]
      · simp [same, Ne.symm same, ih]

theorem mem_of_find? {key : Location} {node : Node} {entries : List (Location × Node)}
    (found : find? key entries = some node) : (key, node) ∈ entries := by
  induction entries with
  | nil => cases found
  | cons entry rest ih =>
      rw [find?] at found
      split at found
      · next same =>
          cases found
          rw [← same]
          exact List.mem_cons_self
      · exact List.mem_cons_of_mem _ (ih found)

theorem find?_append {key : Location} {first second : List (Location × Node)} :
    find? key (first ++ second) = (find? key first).or (find? key second) := by
  induction first with
  | nil => rfl
  | cons entry rest ih =>
      rw [List.cons_append, find?, find?, ih]
      split <;> rfl

/-- There is no link where all entries are files and folders. -/
theorem node?_ne_link
    (plain : ∀ entry ∈ volume.entries, (entry.2.isFile || entry.2.isFolder) = true)
    (location : Location) (target : Path) : volume.node? location ≠ some (.link target) := by
  intro linked
  cases location with
  | nil => cases linked
  | cons name above => exact absurd (plain _ (mem_of_find? linked)) Bool.false_ne_true

theorem mem_names {name : Name} :
    name ∈ volume.names location ↔ (volume.node? (name :: location)).isSome = true := by
  rw [Option.isSome_iff_ne_none, ne_eq, node?, find?_eq_none_iff, Classical.not_not]
  simp only [names, List.mem_filterMap, List.mem_map]
  constructor
  · rintro ⟨⟨key, node⟩, member, found⟩
    refine ⟨(key, node), member, ?_⟩
    cases key with
    | nil => simp at found
    | cons first above =>
        simp only [Option.ite_none_right_eq_some, Option.some.injEq] at found
        rw [found.1, found.2]
  · rintro ⟨entry, member, key⟩
    exact ⟨entry, member, by simp [key]⟩

theorem nodup_names (volume : Volume) (location : Location) : (volume.names location).Nodup := by
  have distinct := volume.distinct
  unfold names
  rw [List.Nodup, List.pairwise_map] at distinct
  refine List.Pairwise.filterMap _ (fun left right differ first isFirst second isSecond => ?_)
    distinct
  rintro rfl
  apply differ
  obtain ⟨leftKey, leftNode⟩ := left
  obtain ⟨rightKey, rightNode⟩ := right
  cases leftKey with
  | nil => simp at isFirst
  | cons leftName leftAbove =>
      cases rightKey with
      | nil => simp at isSecond
      | cons rightName rightAbove =>
          simp only [Option.ite_none_right_eq_some, Option.some.injEq] at isFirst isSecond
          rw [isFirst.1, isFirst.2, isSecond.1, isSecond.2]

theorem list_eq_ok_iff {names : List Name} :
    volume.list path = .ok names ↔ ∃ location, volume.locate true path = .ok location ∧
      volume.isFolderAt location = true ∧ names = volume.names location := by
  unfold list
  cases volume.locate true path with
  | error fault => simp [Except.bind]
  | ok location =>
      cases folder : volume.isFolderAt location
      · simp [Except.bind, folder]
      · simp only [Except.bind, folder, if_true, Except.ok.injEq]
        constructor
        · rintro rfl
          exact ⟨location, rfl, folder, rfl⟩
        · rintro ⟨_, rfl, -, rfl⟩
          rfl

/-! ## Entries of folders -/

theorem refusal?_eq_none_iff : refusal? path = none ↔
    0 ∉ path.bytes ∧ path.bytes ≠ [] ∧ path.bytes.length ≤ pathLimit := by
  simp only [refusal?, List.contains_eq_mem, List.isEmpty_iff, decide_eq_true_eq]
  by_cases nul : 0 ∈ path.bytes
  · simp [nul]
  by_cases nothing : path.bytes = []
  · simp [nothing]
  by_cases long : pathLimit < path.bytes.length
  · simp [nul, nothing, long]
  · simp [nul, nothing, long, Nat.not_lt.mp long]

/-- Nothing keeps a part of a path from being followed that does not keep the path. -/
theorem refusal?_of_sublist {whole : Path} (part : path.bytes.Sublist whole.bytes)
    (some : path.bytes ≠ []) (accepted : refusal? whole = none) : refusal? path = none := by
  obtain ⟨free, -, short⟩ := refusal?_eq_none_iff.mp accepted
  exact refusal?_eq_none_iff.mpr
    ⟨fun nul => free (part.subset nul), some, Nat.le_trans part.length_le short⟩

theorem refusal?_of_prefix {whole : Path} (start : path.bytes <+: whole.bytes)
    (some : path.bytes ≠ []) (accepted : refusal? whole = none) : refusal? path = none :=
  refusal?_of_sublist start.sublist some accepted

theorem prefix_join (folder : Path) {inner : Path} (relative : inner.isAbsolute = false) :
    folder.bytes <+: (folder.join inner).bytes := by
  simp only [Path.join, relative, Bool.false_eq_true, if_false]
  split <;> exact List.prefix_append _ _

theorem prefix_entry (folder : Path) {name : Bytes} (plain : Path.slash ∉ name) :
    folder.bytes <+: (folder.entry name).bytes :=
  prefix_join folder (Path.isAbsolute_of_plain plain)

theorem bytes_entry_ne_nil (folder : Path) (name : Name) :
    (folder.entry name.bytes).bytes ≠ [] := by
  obtain ⟨front, same⟩ := Path.exists_join_eq folder
  simp [Path.entry, same _ (Path.isAbsolute_of_plain name.slash_not_mem), name.ne_nil]

theorem refusal?_entry_ne_notFound (folder : Path) (name : Name) :
    refusal? (folder.entry name.bytes) ≠ some .notFound := by
  simp only [refusal?, List.isEmpty_iff, bytes_entry_ne_nil folder name, if_false]
  split
  · simp
  · split <;> simp

theorem start_entry (folder : Path) {name : Bytes} (plain : Path.slash ∉ name)
    (here : Location) : start (folder.entry name) here = start folder here := by
  simp [start, Path.isAbsolute_entry folder plain]

/-- A folder is where the segments in front of its entries lead to. -/
theorem walk_prior_of_locate (reached : volume.locate true path = .ok location)
    (isFolder : volume.isFolderAt location = true) :
    volume.walk true linkLimit (start path volume.current) (path.prior ++ [[]]) =
      .ok location := by
  obtain ⟨-, walked⟩ := locate_eq_ok_iff.mp reached
  rcases Path.segments_eq_prior path with same | more
  · rw [same] at walked
    exact walk_concat_filler.mpr ⟨walked, isFolder⟩
  · rwa [more] at walked

theorem locate_of_walk_prior (accepted : refusal? path = none)
    (walked : volume.walk true linkLimit (start path volume.current) (path.prior ++ [[]]) =
      .ok location) :
    volume.locate true path = .ok location ∧ volume.isFolderAt location = true := by
  obtain ⟨short, isFolder⟩ := walk_concat_filler.mp walked
  refine ⟨locate_eq_ok_iff.mpr ⟨accepted, ?_⟩, isFolder⟩
  rcases Path.segments_eq_prior path with same | more
  · rw [same, short]
  · rw [more, walked]

/-- The entry `name` of `folder` is the one that a path asks for: its last segment is the name, and
the segments before it lead to the folder.  Nothing has to stand there. -/
structure EntryAt (volume : Volume) (path : Path) (name : Name) (folder : Location) : Prop where
  /-- The path can be followed. -/
  accepted : refusal? path = none
  /-- The name is not too long. -/
  short : name.bytes.length ≤ nameLimit
  /-- The segments before the name lead to the folder. -/
  leads : ∃ front, path.segments = front ++ [name.bytes] ∧
    volume.walk true linkLimit (start path volume.current) (front ++ [[]]) = .ok folder

namespace EntryAt

variable {name : Name} {above : Location}

/-- A path asks for one entry. -/
theorem unique {otherName : Name} {otherAbove : Location} (entry : volume.EntryAt path name above)
    (other : volume.EntryAt path otherName otherAbove) :
    otherName = name ∧ otherAbove = above := by
  obtain ⟨front, shape, leads⟩ := entry.leads
  obtain ⟨otherFront, otherShape, otherLeads⟩ := other.leads
  rw [shape] at otherShape
  obtain ⟨rfl, lasts⟩ := List.append_inj' otherShape rfl
  rw [leads] at otherLeads
  cases otherLeads
  exact ⟨Name.ext_bytes (List.singleton_inj.mp lasts).symm, rfl⟩

theorem isFolderAt (entry : volume.EntryAt path name above) : volume.isFolderAt above = true := by
  obtain ⟨front, -, leads⟩ := entry.leads
  exact (walk_concat_filler.mp leads).2

/-- Following a path ends as following its last name does from the folder. -/
theorem locate_eq (entry : volume.EntryAt path name above) : ∃ left ≤ linkLimit, ∀ follow,
    volume.locate follow path = volume.walk follow left above [name.bytes] := by
  obtain ⟨front, shape, leads⟩ := entry.leads
  obtain ⟨left, le, same⟩ := walk_append (walk_concat_filler.mp leads).1
  refine ⟨left, le, fun follow => ?_⟩
  rw [locate_of_not_refused entry.accepted, shape]
  exact same follow [name.bytes] (List.cons_ne_nil _ _)

theorem status?_folder (entry : volume.EntryAt path name above) {mode : Nat}
    (standing : volume.node? (name :: above) = some (.folder mode)) :
    volume.status? path = .ok (.folder mode) := by
  obtain ⟨left, -, same⟩ := entry.locate_eq
  refine status?_eq_ok_iff.mpr ⟨name :: above, ?_, standing⟩
  rw [same, walk_cons, turn_name entry.isFolderAt entry.short, standing]
  simp only [enter, walk_nil]

/-- A file at the entry is what the path leads to. -/
theorem locate_file (entry : volume.EntryAt path name above) {mode : Nat} {content : Bytes}
    (standing : volume.node? (name :: above) = some (.file mode content)) :
    volume.locate follow path = .ok (name :: above) := by
  obtain ⟨left, -, same⟩ := entry.locate_eq
  rw [same, walk_cons, turn_name entry.isFolderAt entry.short, standing]
  simp only [enter, walk_nil]

theorem read_file (entry : volume.EntryAt path name above) {mode : Nat} {content : Bytes}
    (standing : volume.node? (name :: above) = some (.file mode content)) :
    volume.read path = .ok content :=
  read_eq_ok_iff.mpr ⟨_, mode, entry.locate_file standing, standing⟩

theorem status?_file (entry : volume.EntryAt path name above) {mode : Nat} {content : Bytes}
    (standing : volume.node? (name :: above) = some (.file mode content)) :
    volume.status? path = .ok (.file mode content) :=
  status?_eq_ok_iff.mpr ⟨_, entry.locate_file standing, standing⟩

/-- Nothing is found at a path where nothing stands at its entry. -/
theorem status?_none (entry : volume.EntryAt path name above)
    (nothing : volume.node? (name :: above) = none) : volume.status? path = .error .notFound := by
  obtain ⟨left, -, same⟩ := entry.locate_eq
  have lost : volume.locate true path = .error .notFound := by
    rw [same, walk_cons, turn_name entry.isFolderAt entry.short, nothing]
    simp only [enter]
  rw [status?, lost]
  rfl

theorem read_none (entry : volume.EntryAt path name above)
    (nothing : volume.node? (name :: above) = none) : volume.read path = .error .notFound := by
  rw [read, entry.status?_none nothing]
  rfl

/-- A path ends in the name of its entry. -/
theorem fileName?_eq (entry : volume.EntryAt path name above) :
    path.fileName? = some name.bytes := by
  obtain ⟨front, shape, -⟩ := entry.leads
  exact Path.fileName?_of_segments shape

/-- A path leads to its entry if no link stands there. -/
theorem eq_of_locate (entry : volume.EntryAt path name above)
    (plain : ∀ target, volume.node? (name :: above) ≠ some (.link target))
    (found : volume.locate follow path = .ok location) : location = name :: above := by
  obtain ⟨left, -, same⟩ := entry.locate_eq
  rw [same, walk_cons, turn_name entry.isFolderAt entry.short] at found
  cases standing : volume.node? (name :: above) with
  | none => simp [standing, enter] at found
  | some node =>
      cases node with
      | link target => exact absurd standing (plain target)
      | folder mode => simpa [standing, enter, walk_nil, eq_comm] using found
      | file mode content => simpa [standing, enter, walk_nil, eq_comm] using found

end EntryAt

/-- The entry of a folder is the one that its path asks for. -/
theorem entryAt_entry {name : Name} (accepted : refusal? (path.entry name.bytes) = none)
    (short : name.bytes.length ≤ nameLimit) (reached : volume.locate true path = .ok location)
    (isFolder : volume.isFolderAt location = true) :
    volume.EntryAt (path.entry name.bytes) name location where
  accepted := accepted
  short := short
  leads := ⟨path.prior, Path.segments_entry path name.slash_not_mem, by
    rw [start_entry path name.slash_not_mem]
    exact walk_prior_of_locate reached isFolder⟩

/-- The path of an entry of a folder asks for no other entry. -/
theorem eq_of_entryAt_entry {name other : Name} {above : Location}
    (reached : volume.locate true path = .ok location)
    (isFolder : volume.isFolderAt location = true)
    (entry : volume.EntryAt (path.entry name.bytes) other above) :
    other = name ∧ above = location := by
  obtain ⟨front, shape, leads⟩ := entry.leads
  rw [Path.segments_entry path name.slash_not_mem] at shape
  obtain ⟨rfl, lasts⟩ := List.append_inj' shape rfl
  rw [start_entry path name.slash_not_mem, walk_prior_of_locate reached isFolder] at leads
  cases leads
  exact ⟨Name.ext_bytes (List.singleton_inj.mp lasts).symm, rfl⟩

/-- What is found under the path of an entry stands in the folder. -/
theorem entryAt_of_locate {name : Name} (some : path.bytes ≠ [])
    (found : volume.locate follow (path.entry name.bytes) = .ok location) :
    ∃ above, volume.locate true path = .ok above ∧ volume.isFolderAt above = true ∧
      volume.EntryAt (path.entry name.bytes) name above ∧
      (volume.node? (name :: above)).isSome = true := by
  obtain ⟨accepted, walked⟩ := locate_eq_ok_iff.mp found
  have shape := Path.segments_entry path name.slash_not_mem
  rw [shape] at walked
  obtain ⟨above, leads, short, standing⟩ := walk_concat_name walked
  have acceptedFolder :=
    refusal?_of_prefix (prefix_entry path name.slash_not_mem) some accepted
  obtain ⟨reached, isFolder⟩ := locate_of_walk_prior acceptedFolder
    (start_entry path name.slash_not_mem volume.current ▸ leads)
  exact ⟨above, reached, isFolder, entryAt_entry accepted short reached isFolder, standing⟩

theorem bytes_ne_nil_of_locate (reached : volume.locate follow path = .ok location) :
    path.bytes ≠ [] :=
  (refusal?_eq_none_iff.mp (locate_eq_ok_iff.mp reached).1).2.1

/-- What is found under the path of an entry is listed in its folder. -/
theorem mem_names_of_locate {name : Name} {above : Location}
    (reached : volume.locate true path = .ok above)
    (found : volume.locate follow (path.entry name.bytes) = .ok location) :
    name ∈ volume.names above := by
  obtain ⟨place, placed, -, -, standing⟩ :=
    entryAt_of_locate (bytes_ne_nil_of_locate reached) found
  cases reached.symm.trans placed
  exact mem_names.mpr standing

end Volume
end CardKeeper

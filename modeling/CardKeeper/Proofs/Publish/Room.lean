import Mathlib.Data.List.Induction
import CardKeeper.Proofs.Path.Relative
import CardKeeper.Proofs.Publish
import CardKeeper.Proofs.Volume.Reading

/-!
# Room for drafts

The folder for the drafts of entries is spelled without the filler at the end of a path, and from
the top folder.  It is the folder of the entries all the same (`walk_draftFolder`, `walk_absolute`),
so that nothing but the length of its path can keep a draft from being made: `hasRoom_iff`.
-/

namespace CardKeeper

namespace Volume

variable {volume : Volume} {path root : Path} {here above there location : Location} {links : Nat}
  {follow : Bool} {rest : List Bytes}

/-! ## Where drafts are made -/

/-- Filler at the end of a path leads to the same folder. -/
theorem walk_dropTrailing (front : List Bytes) :
    volume.walk true links here (Path.dropTrailing Path.isFiller front ++ [[]]) = .ok there ↔
      volume.walk true links here (front ++ [[]]) = .ok there := by
  induction front using List.reverseRecOn with
  | nil => rfl
  | append_singleton front last ih =>
      cases filler : Path.isFiller last with
      | false => rw [Path.dropTrailing_concat filler]
      | true =>
          have dropped : Path.dropTrailing Path.isFiller (front ++ [last]) =
              Path.dropTrailing Path.isFiller front := by
            simp [Path.dropTrailing, filler]
          rw [dropped, ih, walk_concat_filler, walk_concat_filler,
            walk_concat_of_filler filler, and_assoc, and_self]

theorem walk_significant :
    volume.walk true links here (path.significant ++ [[]]) = .ok there ↔
      volume.walk true links here (path.segments ++ [[]]) = .ok there := by
  unfold Path.significant
  split
  · next shape => rw [shape]
  · next first rest shape =>
      rw [shape, ← walk_dropTrailing (first :: rest)]
      simp only
      split
      · next nothing =>
          simp only [Bool.and_eq_true, List.isEmpty_iff, Bool.or_eq_true] at nothing
          have filler : Path.isFiller first = true :=
            nothing.2.elim (fun empty => by simp [Path.isFiller, empty]) And.right
          have dropped : Path.dropTrailing Path.isFiller (first :: rest) = [] := by
            rw [← List.singleton_append, ← Path.dropTrailing_append_dropTrailing, nothing.1]
            simp [Path.dropTrailing, filler]
          rw [dropped]
      · rw [← walk_dropTrailing (first :: _), ← List.singleton_append,
          Path.dropTrailing_append_dropTrailing, List.singleton_append]

theorem walk_ofSegments {absolute : Bool} {list : List Bytes}
    (plain : ∀ segment ∈ list, Path.slash ∉ segment)
    (visible : absolute = false → list.head? ≠ some []) :
    volume.walk true links here ((Path.ofSegments absolute list).segments ++ [[]]) = .ok there ↔
      volume.walk true links here (list ++ [[]]) = .ok there := by
  rw [Path.segments_ofSegments_of_plain absolute plain visible]
  split
  · next nothing =>
      have settled : volume.walk true links here ([] ++ [[]]) = .ok there →
          volume.isFolderAt there = true := fun reached => (walk_concat_filler.mp reached).2
      rw [nothing, walk_concat_filler]
      exact and_iff_left_of_imp settled
  · rfl

theorem refusal?_entry_of_short {folder : Path} {name : Name} (nul : 0 ∉ folder.bytes)
    (short : folder.bytes.length + name.bytes.length < pathLimit) :
    refusal? (folder.entry name.bytes) = none := by
  refine refusal?_eq_none_iff.mpr
    ⟨Path.nul_not_mem_join nul name.nul_not_mem, bytes_entry_ne_nil folder name, ?_⟩
  exact Nat.le_trans (Path.length_join folder (Path.isAbsolute_of_plain name.slash_not_mem)).2 short

/-- The folder in which relative paths start can be reached from the top folder by its names. -/
structure Seated (volume : Volume) : Prop where
  /-- It stands in folders. -/
  folders : ∀ location, location <:+ volume.current → volume.isFolderAt location = true
  /-- Their names are not too long. -/
  short : ∀ name ∈ volume.current, name.bytes.length ≤ nameLimit

/-- The names of folders lead from the top folder to the last of them. -/
theorem walk_names (folders : ∀ place, place <:+ location → volume.isFolderAt place = true)
    (short : ∀ name ∈ location, name.bytes.length ≤ nameLimit) :
    volume.walk follow links [] (location.reverse.map Name.bytes ++ rest) =
      volume.walk follow links location rest := by
  induction location generalizing rest with
  | nil => rfl
  | cons name above ih =>
      obtain ⟨mode, standing⟩ := isFolderAt_iff.mp (folders _ List.suffix_rfl)
      have outer (place : Location) (under : place <:+ above) : volume.isFolderAt place = true :=
        folders place (under.trans (List.suffix_cons name above))
      rw [List.reverse_cons, List.map_append, List.append_assoc,
        ih outer fun other member => short other (List.mem_cons_of_mem _ member)]
      simp only [List.map_cons, List.map_nil, List.singleton_append]
      rw [walk_cons, turn_name (outer above List.suffix_rfl) (short name List.mem_cons_self),
        standing]
      simp only [enter]

theorem prior_pathTo (location : Location) :
    (pathTo location).prior = location.reverse.map Name.bytes := by
  cases location with
  | nil => rfl
  | cons name above =>
      have spelled : (pathTo (name :: above)).segments =
          above.reverse.map Name.bytes ++ [name.bytes] := by
        have plain := Path.slash_not_mem_names (name :: above).reverse
        rw [pathTo, Path.segments_ofSegments_of_plain true plain nofun, if_neg (by simp)]
        simp
      rw [Path.prior_of_segments spelled]
      simp

theorem isAbsolute_pathTo (location : Location) : (pathTo location).isAbsolute = true := rfl

theorem bytes_absolute_ne_nil (volume : Volume) (path : Path) :
    (volume.absolute path).bytes ≠ [] := by
  have rooted : (volume.absolute path).isAbsolute = true := by
    cases relative : path.isAbsolute with
    | true => rw [absolute, Path.join, if_pos relative, relative]
    | false => rw [absolute, Path.isAbsolute_join _ relative, isAbsolute_pathTo]
  intro nothing
  simp [Path.isAbsolute, nothing] at rooted

theorem nul_not_mem_absolute (volume : Volume) (nul : 0 ∉ path.bytes) :
    0 ∉ (volume.absolute path).bytes := by
  refine Path.nul_not_mem_join (Path.not_mem_ofSegments (by decide) fun segment member => ?_) nul
  obtain ⟨name, -, rfl⟩ := List.mem_map.mp member
  exact name.nul_not_mem

/-- A path seen from the top folder leads where it does. -/
theorem walk_absolute (seated : volume.Seated) (path : Path) :
    volume.walk follow links (start (volume.absolute path) volume.current)
        ((volume.absolute path).segments ++ rest) =
      volume.walk follow links (start path volume.current) (path.segments ++ rest) := by
  cases rooted : path.isAbsolute with
  | true =>
      have same : volume.absolute path = path := by
        rw [absolute, Path.join, if_pos rooted]
      rw [same]
  | false =>
      rw [absolute, Path.segments_join _ rooted, prior_pathTo, List.append_assoc, start, start,
        Path.isAbsolute_join _ rooted, if_pos (isAbsolute_pathTo _), rooted,
        if_neg Bool.false_ne_true, walk_names seated.folders seated.short]

end Volume

namespace Publish

open Volume

variable {volume : Volume} {root : Path} {above there here : Location} {links : Nat}
  {naming : Naming}

theorem plain_prior (root : Path) : ∀ segment ∈ root.prior, Path.slash ∉ segment :=
  fun _ member => (Path.of_mem_segments (Path.mem_segments_of_mem_prior member)).1

theorem visible_prior (root : Path) (relative : root.isAbsolute = false) :
    root.prior.head? ≠ some [] := by
  cases shape : root.prior with
  | nil => simp
  | cons first rest => simpa using Path.head_prior_ne_nil relative shape

/-- The segments in front of an entry, without filler at the end. -/
def folderSegments (root : Path) : List Bytes :=
  (Path.ofSegments root.isAbsolute root.prior).significant

theorem of_mem_folderSegments {segment : Bytes} (member : segment ∈ folderSegments root) :
    Path.slash ∉ segment ∧ segment ⊆ root.bytes := by
  have spelled := Path.mem_segments_of_mem_significant member
  rw [Path.segments_ofSegments_of_plain _ (plain_prior root) (visible_prior root)] at spelled
  split at spelled
  · rw [List.mem_singleton.mp spelled]
    simp
  · exact Path.of_mem_segments (Path.mem_segments_of_mem_prior spelled)

theorem visible_folderSegments (relative : root.isAbsolute = false) :
    (folderSegments root).head? ≠ some [] := by
  refine Path.head?_significant_ne ?_
  rw [Path.isAbsolute_ofSegments_of_plain _ (plain_prior root) (visible_prior root), relative]

theorem draftFolder_eq (root : Path) : draftFolder root =
    let folder := Path.ofSegments root.isAbsolute (folderSegments root)
    if folder.bytes.isEmpty then .ofText "." else folder := rfl

/-- The folder for the drafts of entries is the one that holds them. -/
theorem walk_draftFolder :
    volume.walk true links here ((draftFolder root).segments ++ [[]]) = .ok there ↔
      volume.walk true links here (root.prior ++ [[]]) = .ok there := by
  have spelled : volume.walk true links here
      ((Path.ofSegments root.isAbsolute (folderSegments root)).segments ++ [[]]) = .ok there ↔
        volume.walk true links here (root.prior ++ [[]]) = .ok there := by
    rw [walk_ofSegments (fun _ member => (of_mem_folderSegments member).1) visible_folderSegments,
      folderSegments, walk_significant, walk_ofSegments (plain_prior root) (visible_prior root)]
  simp only [draftFolder_eq]
  split
  · next nothing =>
      have empty : Path.ofSegments root.isAbsolute (folderSegments root) = ⟨[]⟩ :=
        congrArg Path.mk (List.isEmpty_iff.mp nothing)
      have dot : (Path.ofText ".").segments = [[Path.dot]] := by decide
      have none : Path.segments ⟨[]⟩ = [[]] := rfl
      rw [← spelled, empty, dot, none, walk_concat_filler, walk_concat_filler,
        walk_single_of_filler rfl, walk_single_of_filler rfl]
  · exact spelled

theorem isAbsolute_draftFolder (root : Path) :
    (draftFolder root).isAbsolute = root.isAbsolute := by
  have spelled := Path.isAbsolute_ofSegments_of_plain root.isAbsolute
    (fun _ member => (of_mem_folderSegments member).1) (@visible_folderSegments root)
  simp only [draftFolder_eq]
  split
  · next nothing =>
      have empty : Path.ofSegments root.isAbsolute (folderSegments root) = ⟨[]⟩ :=
        congrArg Path.mk (List.isEmpty_iff.mp nothing)
      rw [← spelled, empty]
      decide
  · exact spelled

/-- A path that ends in a name needs no other spelling. -/
theorem draftFolder_of_segments {front : List Bytes} {name : Name}
    (ends : root.segments = front ++ [name.bytes]) : draftFolder root = root := by
  have spelled : folderSegments root = root.segments := by
    rw [folderSegments, Path.prior_of_segments ends, ← ends, Path.ofSegments_segments,
      Path.significant_of_segments ends, ends]
  have some : root.bytes.isEmpty = false := by
    rw [List.isEmpty_eq_false_iff]
    intro nothing
    obtain rfl : root = ⟨[]⟩ := congrArg Path.mk nothing
    cases front with
    | nil => exact name.ne_nil (List.singleton_inj.mp ends).symm
    | cons first rest => simp [Path.segments, Path.isAbsolute] at ends
  simp only [draftFolder_eq, spelled, Path.ofSegments_segments, some, Bool.false_eq_true, if_false]

theorem nul_not_mem_draftFolder (nul : 0 ∉ root.bytes) : 0 ∉ (draftFolder root).bytes := by
  simp only [draftFolder_eq]
  split
  · decide
  · exact Path.not_mem_ofSegments (by decide) fun _ member found =>
      nul ((of_mem_folderSegments member).2 found)

/-- Only the length of its path can keep a draft from being made in the folder of the entries. -/
theorem hasRoom_iff (seated : volume.Seated) (opens : volume.Opens root above)
    (nul : 0 ∉ root.bytes) :
    HasRoom naming (draftFolder root) volume ↔
      ((volume.absolute (draftFolder root)).entry naming.sample.bytes).bytes.length ≤
        pathLimit := by
  have someBytes := bytes_entry_ne_nil (volume.absolute (draftFolder root)) naming.sample
  have free : 0 ∉ ((volume.absolute (draftFolder root)).entry naming.sample.bytes).bytes :=
    Path.nul_not_mem_join (nul_not_mem_absolute volume (nul_not_mem_draftFolder nul))
      naming.sample.nul_not_mem
  rw [HasRoom, refusal?_eq_none_iff, and_iff_right free, and_iff_right someBytes]
  refine and_iff_left_of_imp fun short => ⟨above, locate_eq_ok_iff.mpr ⟨?_, ?_⟩, opens.isFolderAt⟩
  · exact refusal?_of_prefix (prefix_entry _ naming.sample.slash_not_mem)
      (bytes_absolute_ne_nil volume _) (refusal?_eq_none_iff.mpr ⟨free, someBytes, short⟩)
  · have reached : volume.walk true linkLimit
        (start (volume.absolute (draftFolder root)) volume.current)
          ((volume.absolute (draftFolder root)).segments ++ [[]]) = .ok above := by
      rw [walk_absolute seated, start, isAbsolute_draftFolder]
      exact walk_draftFolder.mpr opens
    exact (walk_concat_filler.mp reached).1

end Publish
end CardKeeper

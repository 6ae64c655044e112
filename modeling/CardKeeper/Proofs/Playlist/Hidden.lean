import CardKeeper.Proofs.Playlist.Exact
import CardKeeper.Proofs.Volume.Rename

/-!
# Plans for a hidden title

The playlist of a title that is hidden has the name that it had before, and its lines name the same
discs in the same order, by the new name of the folder.  All other plans stay as they are, and only
the order of the titles changes: `plans_hides`.
-/

namespace CardKeeper
namespace Playlist

open Volume

variable {before after volume : Volume} {root : Path} {above : Location}
  {title hidden other disc : Name} {list : List PlaylistPlan} {discs : List Name}

/-! ## Lines of two titles -/

/-- Lines of one title are in the order of the names of its discs. -/
theorem encode_lineOf (title disc : Name) : Utf8.encode (lineOf title disc) =
    Utf8.encode (Utf8.display title.bytes ++ "/") ++ Utf8.encode (Utf8.display disc.bytes) := by
  rw [lineOf, Utf8.encode_append]

theorem append_le_append_iff (front : Bytes) {left right : Bytes} :
    front ++ left ≤ front ++ right ↔ left ≤ right := by
  induction front with
  | nil => rfl
  | cons byte rest ih =>
      rw [List.cons_append, List.cons_append, List.cons_le_cons_iff]
      simp [ih]

/-- Discs that are in order for one title are so for every title. -/
theorem pairwise_lineOf (ascending : (discs.map (lineOf title)).Pairwise fun left right =>
      Utf8.encode left ≤ Utf8.encode right) (other : Name) :
    (discs.map (lineOf other)).Pairwise fun left right =>
      Utf8.encode left ≤ Utf8.encode right := by
  rw [List.pairwise_map] at ascending ⊢
  refine ascending.imp fun {left right} below => ?_
  rw [encode_lineOf, encode_lineOf, append_le_append_iff] at below ⊢
  exact below

/-- The lines of a title are those of its discs in order. -/
theorem linesFor_eq_map (isTitle : volume.isFolder (root.entry title.bytes) = true)
    (distinct : discs.Nodup) (members : ∀ disc, disc ∈ discs ↔ IsDiscOf volume root title disc)
    (ascending : (discs.map (lineOf title)).Pairwise fun left right =>
      Utf8.encode left ≤ Utf8.encode right) :
    linesFor volume root title = discs.map (lineOf title) := by
  obtain ⟨found, distinctToo, membersToo, lines, ascendingToo⟩ := exists_discs isTitle
  have perm : found.Perm discs :=
    (List.perm_ext_iff_of_nodup distinctToo distinct).mpr fun disc => by
      rw [membersToo, members]
  rw [lines]
  refine (perm.map (lineOf title)).eq_of_pairwise (fun left right _ _ below above => ?_)
    ascendingToo ascending
  exact Utf8.encode_injective (List.le_antisymm below above)

/-- A title has a plan for its playlist if what is in its place can be read or nothing is. -/
theorem exists_planFor (replaceable : volume.Replaceable (root.entry (nameFor title).bytes)) :
    ∃ found, planFor volume root title =
      .ok ⟨root.entry (nameFor title).bytes, contentFor volume root title, found⟩ := by
  obtain ⟨found, compared⟩ : ∃ found, status volume (root.entry (nameFor title).bytes)
      (contentFor volume root title) = .ok found := by
    rcases replaceable with ⟨content, read⟩ | absent
    · exact ⟨_, by rw [status, read]⟩
    · exact ⟨_, by rw [status, absent]⟩
  exact ⟨found, planFor_of_status compared⟩

/-- Planning succeeds exactly if there is a plan for each title that calls for one. -/
theorem plans_eq_ok_iff_forall₂ : plans volume root = .ok list ↔
    ∃ above, volume.locate true root = .ok above ∧ volume.isFolderAt above = true ∧
      List.Forall₂ (fun title plan => planFor volume root title = .ok plan)
        (callers volume root above) list := by
  simp only [plans_eq_ok_iff, ← List.forall₂_eq_eq_eq, List.forall₂_map_left_iff,
    List.forall₂_map_right_iff]

/-- Planning succeeds if what is in the place of each playlist can be read or nothing is. -/
theorem exists_plans (reached : volume.locate true root = .ok above)
    (isFolder : volume.isFolderAt above = true)
    (replaceable : ∀ title ∈ callers volume root above,
      volume.Replaceable (root.entry (nameFor title).bytes)) :
    ∃ list, plans volume root = .ok list := by
  have some : Nonempty PlaylistStatus := ⟨.create⟩
  choose! found planned using fun title calls => exists_planFor (replaceable title calls)
  exact ⟨_, plans_eq_ok_iff_forall₂.mpr ⟨above, reached, isFolder,
    List.forall₂_map_right_iff.mpr (List.forall₂_same.mpr planned)⟩⟩

theorem ascending_callers (volume : Volume) (root : Path) (above : Location) :
    Ascending (callers volume root above) :=
  (ascending_titles volume root above).filter _

/-! ## A title that is hidden -/

/-- Titles of a folder without links, of which one is hidden. -/
structure HidesIn (before after : Volume) (root : Path) (above : Location)
    (title hidden : Name) : Prop where
  /-- The path leads to the location. -/
  opens : before.Opens root above
  /-- It does so afterwards. -/
  still : after.Opens root above
  /-- No link stands in the folder. -/
  free : before.LinkFree above
  /-- The title is hidden. -/
  hides : Hides before after above title hidden
  /-- The path of the hidden title is not too long. -/
  accepted : refusal? (root.entry hidden.bytes) = none
  /-- The paths of its discs are not too long. -/
  discs : ∀ disc, IsDiscOf before root title disc →
    refusal? ((root.entry hidden.bytes).entry disc.bytes) = none

namespace HidesIn

variable (change : HidesIn before after root above title hidden)

include change

/-- A title has the same playlist with the dot and without it. -/
theorem nameFor_hidden : nameFor hidden = nameFor title := by
  obtain ⟨text, spelled, plain, dotted, unhidden⟩ := change.hides.exists_text
  apply Name.ext_bytes
  rw [bytes_nameFor, bytes_nameFor, titleText, titleText, spelled, dotted, Utf8.display_encode,
    Utf8.display_encode, plain, unhidden]

/-- The playlist of the title is another entry than its folder. -/
theorem nameFor_ne : nameFor title ≠ title ∧ nameFor title ≠ hidden := by
  obtain ⟨text, spelled, plain, -⟩ := change.hides.exists_text
  have bytes : (nameFor title).bytes = title.bytes ++ ending := by
    have shown : Utf8.encode (Card.unhide (titleText title)) = title.bytes := by
      rw [titleText, spelled, Utf8.display_encode, plain]
    exact congrArg (· ++ ending) shown
  have some : 0 < ending.length := by decide
  constructor
  · intro same
    have lengths := congrArg List.length bytes
    rw [same, List.length_append] at lengths
    omega
  · intro same
    have start : hidden.bytes.head? = title.bytes.head? := by
      rw [← same, bytes, List.head?_append_of_ne_nil _ title.ne_nil]
    rw [change.hides.dotted] at start
    exact change.hides.shown start.symm

/-- Entries beside the title are found as they were. -/
theorem status?_beside (notTitle : other ≠ title) (notHidden : other ≠ hidden)
    (below : List Name) :
    after.status? (root.descend (other :: below)) =
      before.status? (root.descend (other :: below)) := by
  have renames : Renames before after ([].reverse ++ above) title hidden := change.hides.renames
  refine renames.status?_beside change.still change.opens change.free (List.cons_ne_nil _ _) ?_ ?_
  · exact fun start => notTitle (List.cons_prefix_cons.mp start).1.symm
  · exact fun start => notHidden (List.cons_prefix_cons.mp start).1.symm

/-! ### Discs -/

theorem isDiscOf_beside (notTitle : other ≠ title) (notHidden : other ≠ hidden) :
    IsDiscOf after root other disc ↔ IsDiscOf before root other disc := by
  have same : after.isFile ((root.entry other.bytes).entry disc.bytes) =
      before.isFile ((root.entry other.bytes).entry disc.bytes) := by
    have alike := change.status?_beside notTitle notHidden [disc]
    exact isFile_congr alike
  exact ⟨fun isDisc => ⟨same ▸ isDisc.file, isDisc.named⟩,
    fun isDisc => ⟨same.trans isDisc.file, isDisc.named⟩⟩

/-- The hidden title has the discs that the title had. -/
theorem isDiscOf_hidden :
    IsDiscOf after root hidden disc ↔ IsDiscOf before root title disc := by
  obtain ⟨mode, standing⟩ := change.hides.standing
  have openTitle := change.opens.entry change.hides.short_title standing
  have openHidden := change.still.entry change.hides.short
    (change.hides.renames.moved_self.trans standing)
  have moved : after.node? (disc :: hidden :: above) = before.node? (disc :: title :: above) :=
    change.hides.renames.moved [disc]
  have plain (target : Path) : before.node? (disc :: title :: above) ≠ some (.link target) :=
    change.free _ (List.suffix_append [disc, title] above) target
  constructor
  · intro isDisc
    obtain ⟨accepted, short, standing⟩ :=
      (openHidden.isFile_entry_iff (moved ▸ plain)).mp isDisc.file
    exact ⟨(openTitle.isFile_entry_iff plain).mpr
      ⟨refusal?_entry_entry_of_suffix change.hides.suffix accepted, short, moved ▸ standing⟩,
      isDisc.named⟩
  · intro isDisc
    obtain ⟨-, short, standing⟩ := (openTitle.isFile_entry_iff plain).mp isDisc.file
    exact ⟨(openHidden.isFile_entry_iff (moved ▸ plain)).mpr
      ⟨change.discs disc isDisc, short, moved ▸ standing⟩, isDisc.named⟩

theorem isFolder_beside (notTitle : other ≠ title) (notHidden : other ≠ hidden) :
    after.isFolder (root.entry other.bytes) = before.isFolder (root.entry other.bytes) := by
  have alike := change.status?_beside notTitle notHidden []
  exact isFolder_congr alike

/-- The lines of other titles are the same. -/
theorem linesFor_beside (notTitle : other ≠ title) (notHidden : other ≠ hidden)
    (isTitle : before.isFolder (root.entry other.bytes) = true) :
    linesFor after root other = linesFor before root other := by
  obtain ⟨discs, distinct, members, lines, ascending⟩ := exists_discs isTitle
  rw [lines]
  refine linesFor_eq_map ((change.isFolder_beside notTitle notHidden).trans isTitle) distinct
    (fun disc => ?_) ascending
  rw [members, change.isDiscOf_beside notTitle notHidden]

/-- The lines of the hidden title are those of the title, with another folder. -/
theorem exists_discs_hidden : ∃ discs : List Name,
    (∀ disc, disc ∈ discs ↔ IsDiscOf before root title disc) ∧
    linesFor before root title = discs.map (lineOf title) ∧
    linesFor after root hidden = discs.map (lineOf hidden) := by
  have isTitle := change.hides.isFolder_title change.opens change.accepted
  have isHidden := change.hides.isFolder_hidden change.still change.accepted
  obtain ⟨discs, distinct, members, lines, ascending⟩ := exists_discs isTitle
  refine ⟨discs, members, lines, linesFor_eq_map isHidden distinct (fun disc => ?_)
    (pairwise_lineOf ascending hidden)⟩
  rw [members, change.isDiscOf_hidden]

/-! ### Plans -/

/-- The hidden title has a plan for the same playlist if the title has one. -/
theorem exists_planFor_hidden {plan : PlaylistPlan}
    (planned : planFor before root title = .ok plan) :
    ∃ renewed, planFor after root hidden = .ok renewed ∧ renewed.path = plan.path := by
  obtain ⟨notTitle, notHidden⟩ := change.nameFor_ne
  obtain ⟨path_eq, -, compared⟩ := of_planFor planned
  have alike : after.read (root.entry (nameFor title).bytes) =
      before.read (root.entry (nameFor title).bytes) :=
    read_congr (change.status?_beside notTitle notHidden [])
  have replaceable := replaceable_of_status compared
  rw [path_eq, Replaceable, ← alike, ← change.nameFor_hidden] at replaceable
  obtain ⟨found, plannedToo⟩ := exists_planFor replaceable
  refine ⟨_, plannedToo, ?_⟩
  rw [path_eq, change.nameFor_hidden]

/-- No playlist can be planned in the place of the title. -/
theorem nameFor_ne_title {plan : PlaylistPlan}
    (planned : planFor before root other = .ok plan) : nameFor other ≠ title := by
  intro same
  obtain ⟨path_eq, -, compared⟩ := of_planFor planned
  have replaceable := replaceable_of_status compared
  obtain ⟨mode, standing⟩ := change.hides.standing
  have entry := change.opens.entryAt
    (refusal?_entry_of_suffix change.hides.suffix change.accepted) change.hides.short_title
  have found := entry.status?_folder standing
  rw [path_eq, same, Replaceable, Volume.read, found] at replaceable
  simp [Except.bind] at replaceable

/-- The plan of another title is the same, unless it is in the way. -/
theorem planFor_beside (notTitle : other ≠ title) (notHidden : other ≠ hidden)
    (isTitle : before.isFolder (root.entry other.bytes) = true)
    (goesBeside : nameFor other ≠ title) (apart : nameFor other ≠ hidden) :
    planFor after root other = planFor before root other := by
  have alike : after.read (root.entry (nameFor other).bytes) =
      before.read (root.entry (nameFor other).bytes) :=
    read_congr (change.status?_beside goesBeside apart [])
  rw [planFor, planFor, contentFor, change.linesFor_beside notTitle notHidden isTitle,
    ← contentFor, status, status, alike]

/-! ### Titles that call for a playlist -/

section Callers

variable (reached : before.locate true root = .ok above)
  (reachedToo : after.locate true root = .ok above)

include reached

theorem ne_hidden_of_calls (calls : other ∈ callers before root above) : other ≠ hidden := by
  rintro rfl
  have isFolder := ((mem_callers_iff reached).mp calls).1
  rw [change.hides.not_isFolder_hidden change.opens] at isFolder
  cases isFolder

include reachedToo

/-- The titles that call for a playlist are the same but for the hidden one. -/
theorem mem_callers_after : other ∈ callers after root above ↔
    (other ≠ title ∧ other ∈ callers before root above) ∨
      (other = hidden ∧ title ∈ callers before root above) := by
  by_cases isTitle : other = title
  · subst isTitle
    rw [mem_callers_iff reachedToo, change.hides.not_isFolder_title change.still]
    simp [Ne.symm change.hides.hidden_ne]
  by_cases isHidden : other = hidden
  · subst isHidden
    obtain ⟨discs, -, lines, linesToo⟩ := change.exists_discs_hidden
    rw [mem_callers_iff reachedToo, mem_callers_iff reached, mem_callers_iff reached, lines,
      linesToo, change.hides.isFolder_hidden change.still change.accepted,
      change.hides.isFolder_title change.opens change.accepted,
      change.hides.not_isFolder_hidden change.opens]
    simp
  · rw [mem_callers_iff reachedToo, mem_callers_iff reached, change.isFolder_beside isTitle isHidden]
    simp only [isTitle, isHidden, ne_eq, not_false_eq_true, true_and, false_and, or_false]
    exact and_congr_right fun isFolder => by
      rw [change.linesFor_beside isTitle isHidden isFolder]

/-- If the title called for a playlist, the hidden one does in its place. -/
theorem perm_callers (calls : title ∈ callers before root above) :
    ∃ others : List Name, (title :: others).Perm (callers before root above) ∧
      (callers after root above).Perm (hidden :: others) ∧ title ∉ others := by
  have distinct : (callers before root above).Nodup := (ascending_callers before root above).nodup
  refine ⟨(callers before root above).erase title, (List.perm_cons_erase calls).symm, ?_,
    distinct.not_mem_erase⟩
  have fresh : hidden ∉ (callers before root above).erase title := fun member =>
    change.ne_hidden_of_calls reached (List.mem_of_mem_erase member) rfl
  refine (List.perm_ext_iff_of_nodup (ascending_callers after root above).nodup
    (List.nodup_cons.mpr ⟨fresh, distinct.erase title⟩)).mpr fun other => ?_
  rw [change.mem_callers_after reached reachedToo, List.mem_cons, distinct.mem_erase_iff, or_comm]
  simp only [calls, and_true]

theorem callers_eq (silent : title ∉ callers before root above) :
    callers after root above = callers before root above := by
  refine (ascending_callers after root above).eq_of_mem_iff (ascending_callers before root above)
    fun other => ?_
  rw [change.mem_callers_after reached reachedToo]
  simp only [silent, and_false, or_false]
  exact and_iff_right_of_imp fun calls same => silent (same ▸ calls)

omit reachedToo

/-- The plan of another title is the same if none is in the way. -/
theorem planFor_of_apart (planned : plans before root = .ok list)
    (apart : ∀ plan ∈ list, plan.path ≠ root.entry hidden.bytes)
    (calls : other ∈ callers before root above) (notTitle : other ≠ title) :
    planFor after root other = planFor before root other := by
  obtain ⟨place, placed, -, called⟩ := plans_eq_ok_iff.mp planned
  cases reached.symm.trans placed
  obtain ⟨plan, member, found⟩ := exists_result called calls
  have goesApart : nameFor other ≠ hidden := fun goes =>
    apart plan member (goes ▸ (of_planFor found).1)
  exact change.planFor_beside notTitle (change.ne_hidden_of_calls reached calls)
    ((mem_callers_iff reached).mp calls).1 (change.nameFor_ne_title found) goesApart

end Callers

end HidesIn

theorem forall₂_planFor_congr {names : List Name}
    (same : ∀ other ∈ names, planFor after root other = planFor before root other)
    (pairs : List.Forall₂ (fun other plan => planFor before root other = .ok plan) names list) :
    List.Forall₂ (fun other plan => planFor after root other = .ok plan) names list :=
  ((List.forall₂_and_left _ _).mpr ⟨same, pairs⟩).imp fun _ _ both => both.1.trans both.2

/-- Planning succeeds after a title was hidden.  The title has a plan if it had one before, for the
same playlist, which names the same discs in the same order; the other plans are the same. -/
def KeepsPlans (before after : Volume) (root : Path) (above : Location) (title hidden : Name)
    (list : List PlaylistPlan) : Prop :=
  ∃ again, plans after root = .ok again ∧
    ((∃ plan renewed others discs, discs ≠ [] ∧
        list.Perm (plan :: others) ∧ again.Perm (renewed :: others) ∧
        PlannedFor before root above title plan ∧ PlannedFor after root above hidden renewed ∧
        renewed.path = plan.path ∧
        plan.content = "\n".intercalate (discs.map (lineOf title)) ∧
        renewed.content = "\n".intercalate (discs.map (lineOf hidden))) ∨
      ((¬ ∃ disc, IsDiscOf before root title disc) ∧
        (¬ ∃ disc, IsDiscOf after root hidden disc) ∧ again = list))

namespace HidesIn

variable (change : HidesIn before after root above title hidden)
  (reached : before.locate true root = .ok above) (reachedToo : after.locate true root = .ok above)
  (pairs : List.Forall₂ (fun other plan => planFor before root other = .ok plan)
    (callers before root above) list)
  (same : ∀ other ∈ callers before root above, other ≠ title →
    planFor after root other = planFor before root other)

include change reached reachedToo pairs same

theorem keepsPlans_of_calls (calls : title ∈ callers before root above) :
    KeepsPlans before after root above title hidden list := by
  obtain ⟨others, permBefore, permAfter, notTitle⟩ := change.perm_callers reached reachedToo calls
  obtain ⟨_, arranged, perm⟩ := List.perm_comp_forall₂ permBefore pairs
  obtain ⟨plan, rest, found, restPairs, rfl⟩ := List.forall₂_cons_left_iff.mp arranged
  obtain ⟨renewed, foundToo, path⟩ := change.exists_planFor_hidden found
  have pairsAfter := forall₂_planFor_congr (fun other member => same other
    (permBefore.subset (List.mem_cons_of_mem _ member)) fun equal => notTitle (equal ▸ member))
    restPairs
  obtain ⟨again, pairsAgain, permAgain⟩ :=
    List.perm_comp_forall₂ permAfter (.cons foundToo pairsAfter)
  obtain ⟨discs, members, lines, linesToo⟩ := change.exists_discs_hidden
  have given : discs ≠ [] := by
    rintro rfl
    exact ((mem_callers_iff reached).mp calls).2 lines
  obtain ⟨disc, member⟩ := List.exists_mem_of_ne_nil discs given
  have isDisc := (members disc).mp member
  refine ⟨again, plans_eq_ok_iff_forall₂.mpr
    ⟨above, reachedToo, change.still.isFolderAt, pairsAgain⟩, .inl
    ⟨plan, renewed, rest, discs, given, perm.symm, permAgain, ?_, ?_, path, ?_, ?_⟩⟩
  · exact plannedFor_of_planFor reached change.opens.isFolderAt
      (change.hides.isFolder_title change.opens change.accepted) ⟨disc, isDisc⟩ found
  · exact plannedFor_of_planFor reachedToo change.still.isFolderAt
      (change.hides.isFolder_hidden change.still change.accepted)
      ⟨disc, change.isDiscOf_hidden.mpr isDisc⟩ foundToo
  · rw [(of_planFor found).2.1, contentFor, lines]
  · rw [(of_planFor foundToo).2.1, contentFor, linesToo]

theorem keepsPlans_of_silent (silent : title ∉ callers before root above) :
    KeepsPlans before after root above title hidden list := by
  obtain ⟨discs, members, lines, -⟩ := change.exists_discs_hidden
  have none (disc : Name) : ¬ IsDiscOf before root title disc := fun isDisc => by
    have isTitle := change.hides.isFolder_title change.opens change.accepted
    refine silent ((mem_callers_iff reached).mpr ⟨isTitle, ?_⟩)
    rw [lines]
    exact List.ne_nil_of_mem (List.mem_map_of_mem ((members disc).mpr isDisc))
  have pairsAfter := forall₂_planFor_congr
    (fun other member => same other member fun equal => silent (equal ▸ member)) pairs
  rw [← change.callers_eq reached reachedToo silent] at pairsAfter
  refine ⟨list, plans_eq_ok_iff_forall₂.mpr
    ⟨above, reachedToo, change.still.isFolderAt, pairsAfter⟩, .inr ⟨?_, ?_, rfl⟩⟩
  · rintro ⟨disc, isDisc⟩
    exact none disc isDisc
  · rintro ⟨disc, isDisc⟩
    exact none disc (change.isDiscOf_hidden.mp isDisc)

end HidesIn

/-- To hide a title keeps the plans, unless the playlist of another title goes where the hidden
folder is. -/
theorem plans_hides (change : HidesIn before after root above title hidden)
    (planned : plans before root = .ok list)
    (apart : ∀ plan ∈ list, plan.path ≠ root.entry hidden.bytes) :
    KeepsPlans before after root above title hidden list := by
  obtain ⟨place, reached, -, pairs⟩ := plans_eq_ok_iff_forall₂.mp planned
  have accepted := (locate_eq_ok_iff.mp reached).1
  obtain rfl : above = place :=
    Except.ok.inj ((change.opens.locate_eq accepted).symm.trans reached)
  have reachedToo := change.still.locate_eq accepted
  have same (other : Name) (calls : other ∈ callers before root above) (notTitle : other ≠ title) :=
    change.planFor_of_apart reached planned apart calls notTitle
  by_cases calls : title ∈ callers before root above
  · exact change.keepsPlans_of_calls reached reachedToo pairs same calls
  · exact change.keepsPlans_of_silent reached reachedToo pairs same calls

end Playlist
end CardKeeper

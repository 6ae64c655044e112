import CardKeeper.Proofs.Activity
import CardKeeper.Proofs.Playlist.Plan
import CardKeeper.Proofs.Publish

/-!
# Writing planned playlists

Writing one planned playlist lays a file over a site, and leaves every other planned playlist as
ready to be written as it was.  All drafts are written in one folder, so that either the first of
them already finds no room or every playlist is written: `writeAll_of_hasRoom`.
-/

namespace CardKeeper
namespace Playlist

open Volume Publish

variable {before after volume : Volume} {root : Path} {above location : Location}
  {plan : PlaylistPlan} {plans : List PlaylistPlan} {naming : Naming} {name : Name}

/-! ## One playlist -/

/-- The last of the plans for a path. -/
def lastFor (plans : List PlaylistPlan) (path : Path) : Option PlaylistPlan :=
  (plans.filter fun plan => plan.path = path).getLast?

theorem lastFor_cons (plan : PlaylistPlan) (plans : List PlaylistPlan) (path : Path) :
    lastFor (plan :: plans) path =
      (lastFor plans path).or (if plan.path = path then some plan else none) := by
  simp only [lastFor, List.filter_cons, decide_eq_true_eq]
  by_cases same : plan.path = path
  · rw [if_pos same, if_pos same, List.getLast?_cons]
    cases (plans.filter fun plan => plan.path = path).getLast? <;> rfl
  · rw [if_neg same, if_neg same, Option.or_none]

theorem of_lastFor {path : Path} (last : lastFor plans path = some plan) :
    plan ∈ plans ∧ plan.path = path := by
  have member := List.mem_of_getLast? last
  simpa using member

theorem exists_lastFor (member : plan ∈ plans) : ∃ last, lastFor plans plan.path = some last := by
  cases found : lastFor plans plan.path with
  | some last => exact ⟨last, rfl⟩
  | none =>
      simp only [lastFor, List.getLast?_eq_none_iff, List.filter_eq_nil_iff] at found
      exact absurd (decide_eq_true rfl) (found plan member)

/-- A planned playlist is an entry of the folder of titles at which a file or nothing is found. -/
structure Ready (before : Volume) (root : Path) (above : Location) (plan : PlaylistPlan)
    (name : Name) : Prop where
  /-- It has a name in the folder of titles. -/
  path : plan.path = root.entry name.bytes
  /-- Its path asks for that entry. -/
  entry : before.EntryAt plan.path name above
  /-- A file or nothing is found there. -/
  replaceable : before.Replaceable plan.path

/-- Every plan that was made is ready. -/
theorem ready_of_plans (planned : Playlist.plans volume root = .ok plans) :
    ∃ above, volume.locate true root = .ok above ∧
      ∀ plan ∈ plans, ∃ title, Ready volume root above plan (nameFor title) := by
  obtain ⟨above, reached, folder, called⟩ := plans_eq_ok_iff.mp planned
  refine ⟨above, reached, fun plan member => ?_⟩
  obtain ⟨title, -, found⟩ := (mem_results_iff called).mp member
  obtain ⟨path, -, compared⟩ := of_planFor found
  have replaceable := replaceable_of_status compared
  refine ⟨title, path, ?_, replaceable⟩
  rw [path] at replaceable ⊢
  exact replaceable.entryAt reached folder

theorem ready_of_mem_pending
    (ready : ∀ plan ∈ plans, ∃ title, Ready before root above plan (nameFor title)) :
    ∀ plan ∈ pending plans, ∃ name, Ready before root above plan name := by
  intro plan member
  obtain ⟨title, here⟩ := ready plan (List.mem_filter.mp member).1
  exact ⟨nameFor title, here⟩

/-- What writing a playlist tells. -/
def account (plan : PlaylistPlan) : List Notice :=
  [.event (.writing plan.path), .event (.published plan.path (Utf8.encode plan.content).length)]

/-- A playlist that is ready is written, whatever was written before. -/
theorem write_of_ready (overlays : volume.Overlays before) (keeps : volume.KeepsModes before)
    (room : HasRoom naming (draftFolder root) before) (ready : Ready before root above plan name) :
    write naming false plan volume =
      ⟨account plan, volume.put (name :: above)
        (.file (before.modeVia name above) (Utf8.encode plan.content)), .ok ()⟩ := by
  have folder : folderOf plan.path = draftFolder root := by rw [ready.path, folderOf_entry]
  have site := ready.replaceable.site ready.entry
  obtain ⟨draft, spare⟩ :=
    (exists_spareName_iff plan.path).mpr ((hasRoom_overlay overlays).mpr room)
  have closed : volume.isFolderAt (name :: above) = false := by
    rw [overlays.isFolderAt_eq, site.closed]
  have mode : volume.modeFor plan.path = before.modeVia name above := by
    rw [overlays.modeFor_eq keeps ready.replaceable,
      ready.replaceable.modeFor_eq_modeVia ready.entry]
  have published : publishBy naming plan.path (Utf8.encode plan.content) volume = _ :=
    publishBy_of_entryAt (folder ▸ spare) (overlays.entryAt_iff.mpr ready.entry) closed
  rw [mode] at published
  simp only [write, bind, Activity.andThen, Activity.tell, Activity.orElse, published,
    Except.mapError, Bool.false_eq_true, if_false, List.cons_append, List.nil_append, account]

/-- Without room for drafts, a playlist cannot be written. -/
theorem write_of_not_hasRoom (full : ¬ HasRoom naming (draftFolder root) volume)
    (ready : Ready volume root above plan name) : ∃ fault,
    write naming false plan volume =
      ⟨[.event (.writing plan.path)], volume, .error (.file plan.path fault)⟩ := by
  have folder : folderOf plan.path = draftFolder root := by rw [ready.path, folderOf_entry]
  cases spare : spareName naming (folderOf plan.path) plan.path volume with
  | ok draft => exact absurd ((exists_spareName_iff plan.path).mp ⟨draft, folder ▸ spare⟩) full
  | error fault =>
      have failed : publishBy naming plan.path (Utf8.encode plan.content) volume =
          ⟨[], volume, .error fault⟩ := by
        rw [publishBy_eq, spare]
      refine ⟨fault, ?_⟩
      simp [write, bind, Activity.andThen, Activity.tell, Activity.orElse, failed, Except.mapError]

/-! ## All playlists -/

/-- What writing playlists makes of a volume: for each path the last content that was written to it
stands at its entry, with the permissions that belong there, and nothing else has changed. -/
structure Written (before : Volume) (above : Location) (plans : List PlaylistPlan)
    (volume after : Volume) : Prop where
  /-- Only files were laid over sites. -/
  overlays : after.Overlays before
  /-- They have the permissions of what was found there. -/
  keeps : after.KeepsModes before
  /-- The last plan for a path is carried out. -/
  holds : ∀ path plan name, lastFor plans path = some plan → before.EntryAt path name above →
    after.node? (name :: above) =
      some (.file (before.modeVia name above) (Utf8.encode plan.content))
  /-- What is not the entry of a plan stays. -/
  frame : ∀ location, (∀ plan ∈ plans, ∀ name, before.EntryAt plan.path name above →
    location ≠ name :: above) → after.node? location = volume.node? location

theorem Written.nil (above : Location) (overlays : volume.Overlays before)
    (keeps : volume.KeepsModes before) : Written before above [] volume volume where
  overlays := overlays
  keeps := keeps
  holds := by
    intro path plan name last
    cases last
  frame _ _ := rfl

/-- If there is room for drafts, all playlists that are ready are written. -/
theorem writeAll_of_hasRoom (overlays : volume.Overlays before) (keeps : volume.KeepsModes before)
    (room : HasRoom naming (draftFolder root) before)
    (ready : ∀ plan ∈ plans, ∃ name, Ready before root above plan name) :
    (writeAll naming false plans volume).result = .ok () ∧
      (writeAll naming false plans volume).notices = plans.flatMap account ∧
      Written before above plans volume (writeAll naming false plans volume).volume := by
  induction plans generalizing volume with
  | nil => exact ⟨rfl, rfl, .nil above overlays keeps⟩
  | cons plan rest ih =>
      obtain ⟨name, here⟩ := ready plan List.mem_cons_self
      have wrote := write_of_ready overlays keeps room here
      have site := here.replaceable.site here.entry
      obtain ⟨done, told, later⟩ := ih (overlays.put site _ (Utf8.encode plan.content))
        (keeps.put here.entry.isFolderAt here.entry.short (Utf8.encode plan.content))
        fun plan member => ready plan (List.mem_cons_of_mem _ member)
      have node?_eq := node?_put volume (name :: above)
      simp only [writeAll, bind, Activity.andThen, wrote]
      refine ⟨done, by rw [told, List.flatMap_cons], later.overlays, later.keeps,
        fun path last entryName isLast entry => ?_, fun location outside => ?_⟩
      · rw [lastFor_cons] at isLast
        cases further : lastFor rest path with
        | some latest =>
            rw [further] at isLast
            cases isLast
            exact later.holds path last entryName further entry
        | none =>
            -- Nothing is written to this path any more, and so nothing to its entry.
            rw [further, Option.none_or] at isLast
            obtain ⟨rfl, rfl⟩ : plan.path = path ∧ plan = last := by simpa using isLast
            obtain ⟨rfl, -⟩ := here.entry.unique entry
            rw [later.frame, node?_eq _ _ (List.cons_ne_nil _ _), if_pos rfl]
            intro other member otherName otherEntry same
            obtain ⟨readyName, otherReady⟩ := ready other (List.mem_cons_of_mem _ member)
            obtain ⟨rfl, -⟩ := otherReady.entry.unique otherEntry
            cases same
            have again : other.path = plan.path := by rw [otherReady.path, here.path]
            simp [lastFor] at further
            exact further other member again
      · rw [later.frame location fun other member => outside other (List.mem_cons_of_mem _ member),
          node?_eq _ _ (List.cons_ne_nil _ _),
          if_neg (outside plan List.mem_cons_self name here.entry)]

/-- Without room for drafts, the first playlist cannot be written, and nothing changes. -/
theorem writeAll_of_not_hasRoom (full : ¬ HasRoom naming (draftFolder root) volume)
    (ready : Ready volume root above plan name) (rest : List PlaylistPlan) : ∃ fault,
    writeAll naming false (plan :: rest) volume =
      ⟨[.event (.writing plan.path)], volume, .error (.file plan.path fault)⟩ := by
  obtain ⟨fault, failed⟩ := write_of_not_hasRoom full ready
  refine ⟨fault, ?_⟩
  rw [writeAll, Activity.bind_of_error (by rw [failed]), failed]

/-- Saying what would be written leaves the volume as it was. -/
theorem writeAll_dryRun (naming : Naming) (plans : List PlaylistPlan) (volume : Volume) :
    writeAll naming true plans volume =
      ⟨plans.map fun plan => .event (.wouldWrite plan.path), volume, .ok ()⟩ := by
  induction plans with
  | nil => rfl
  | cons plan rest ih =>
      have said : write naming true plan volume =
          ⟨[.event (.wouldWrite plan.path)], volume, .ok ()⟩ := rfl
      rw [writeAll, Activity.bind_of_ok (by rw [said]), said, ih]
      rfl

end Playlist
end CardKeeper

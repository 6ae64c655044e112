import CardKeeper.Proofs.Playlist.DryRun
import CardKeeper.Proofs.Playlist.Rerun

/-!
# Generating playlists time after time

On a volume without links, what is written to playlists never makes a title or a disc.  So planning
finds the same playlists after any number of runs, and a run only changes how they compare with what
is there: `plans_runs`.
-/

namespace CardKeeper

/-- What a playlist is to hold, and where. -/
def PlaylistPlan.target (plan : PlaylistPlan) : Path × String :=
  (plan.path, plan.content)

namespace Playlist

open Volume Publish

variable {before after volume : Volume} {root : Path} {above : Location} {title : Name}
  {list current : List PlaylistPlan} {naming : Naming}

/-! ## Planning after a run -/

/-- A plan as it compares with what was written last to its path. -/
def renewed (list : List PlaylistPlan) (plan : PlaylistPlan) : PlaylistPlan :=
  { plan with
    status :=
      if ((lastFor (pending list) plan.path).getD plan).content = plan.content then .unchanged
      else .update }

theorem map_target_renewed (list : List PlaylistPlan) :
    (list.map (renewed list)).map PlaylistPlan.target = list.map PlaylistPlan.target := by
  rw [List.map_map]
  rfl

/-- A plan is up to date if the last plan that was carried out for its path has its content. -/
theorem status_renewed_iff {plan : PlaylistPlan} : (renewed list plan).status = .unchanged ↔
    ∀ last, lastFor (pending list) plan.path = some last → plan.content = last.content := by
  cases found : lastFor (pending list) plan.path with
  | none => simp [renewed, found]
  | some last => simp [renewed, found, eq_comm]

theorem status_renewed_ne (plan : PlaylistPlan) : (renewed list plan).status ≠ .create := by
  simp only [renewed]
  split <;> simp

/-- The titles that call for a playlist are the same after playlists were written. -/
theorem callers_written (written : Written before above (pending list) before after)
    (ready : ∀ plan ∈ list, ∃ title, Ready before root above plan (nameFor title))
    (direct : Direct before root list) (reached : before.locate true root = .ok above)
    (folder : before.isFolderAt above = true) :
    callers after root above = callers before root above := by
  rw [callers, callers, titles_overlay written.overlays reached folder]
  refine List.filter_congr fun title member => ?_
  rw [linesFor_written written ready direct (isFolder_of_mem_titles member)]

/-- Without links, planning after a run that succeeded finds the same playlists, each compared with
what was written last. -/
theorem plans_written (written : Written before above (pending list) before after)
    (ready : ∀ plan ∈ list, ∃ title, Ready before root above plan (nameFor title))
    (direct : Direct before root list) (reached : before.locate true root = .ok above)
    (planned : plans before root = .ok list) :
    plans after root = .ok (list.map (renewed list)) := by
  obtain ⟨place, placed, folder, called⟩ := plans_eq_ok_iff.mp planned
  obtain rfl : above = place := Except.ok.inj (reached.symm.trans placed)
  obtain ⟨still, opened⟩ := written.overlays.locate_folder_iff.mpr ⟨reached, folder⟩
  have again (title : Name) (calls : title ∈ callers before root above) :
      planFor after root title = (planFor before root title).map (renewed list) := by
    obtain ⟨plan, member, found⟩ := exists_result called calls
    obtain ⟨path, content, -⟩ := of_planFor found
    have lines := linesFor_written written ready direct ((mem_callers_iff reached).mp calls).1
    have reads := read_of_written written ready direct planned member
    rw [found, planFor, contentFor, lines, ← contentFor, ← path, ← content, status, reads]
    simp only [Except.map, renewed, Utf8.encode_inj]
  refine plans_eq_ok_iff.mpr ⟨above, still, opened, ?_⟩
  rw [callers_written written ready direct reached folder, List.map_congr_left again,
    ← Function.comp_def, ← List.map_map, called, List.map_map, List.map_map]
  rfl

/-- Planning after a run that succeeded finds the same playlists, none of them absent. -/
theorem plans_generateBy (free : volume.LinkFree []) (planned : plans volume root = .ok list)
    {report : PlaylistReport}
    (succeeded : (generateBy naming root false volume).result = .ok report) :
    plans (generateBy naming root false volume).volume root = .ok (list.map (renewed list)) := by
  obtain ⟨above, reached, -, ready, written⟩ := written_of_generateBy planned succeeded
  have direct : Direct volume root list :=
    direct_of_linkFree fun location target => free location List.nil_suffix target
  exact plans_written written ready direct reached planned

/-! ## Runs -/

/-- A run: how it names drafts, and whether it only says what it would write. -/
structure Run where
  /-- How drafts are named. -/
  naming : Naming
  /-- Whether nothing is written. -/
  dryRun : Bool

/-- What is left after some runs. -/
def afterRuns (root : Path) (runs : List Run) (volume : Volume) : Volume :=
  runs.foldl (fun volume run => (generateBy run.naming root run.dryRun volume).volume) volume

/-- There are no links, and planning finds playlists for these targets. -/
structure Steady (volume : Volume) (root : Path) (targets : List (Path × String)) : Prop where
  /-- No link stands anywhere. -/
  free : volume.LinkFree []
  /-- Planning succeeds. -/
  planned : ∃ list, plans volume root = .ok list ∧ list.map PlaylistPlan.target = targets

namespace Steady

variable {targets : List (Path × String)}

theorem generateBy (steady : Steady volume root targets) (naming : Naming) (dryRun : Bool) :
    Steady (generateBy naming root dryRun volume).volume root targets := by
  obtain ⟨free, list, planned, same⟩ := steady
  cases dryRun with
  | true =>
      rw [volume_generateBy_dryRun]
      exact ⟨free, list, planned, same⟩
  | false =>
      rcases generateBy_cases naming root volume with
        ⟨error, -, kept⟩ | ⟨found, above, -, succeeded, -, -, written⟩
      · rw [kept]
        exact ⟨free, list, planned, same⟩
      · exact ⟨free.overlay written.overlays, _, plans_generateBy free planned succeeded,
          (map_target_renewed list).trans same⟩

theorem afterRuns (steady : Steady volume root targets) (runs : List Run) :
    Steady (afterRuns root runs volume) root targets := by
  induction runs generalizing volume with
  | nil => exact steady
  | cons run rest ih => exact ih (steady.generateBy run.naming run.dryRun)

end Steady

/-- On a volume without links on which planning succeeds, it goes on to succeed after any runs, and
finds playlists with the same paths and contents in the same order.  A further real run that fails
leaves the plans as they are.  After one that succeeds no playlist is absent, and a plan is up to
date exactly if the last plan for its path that was not up to date before the run, if there is one,
has the same content. -/
theorem plans_runs (root : Path) (volume : Volume) (list : List PlaylistPlan)
    (free : volume.LinkFree []) (planned : plans volume root = .ok list) (runs : List Run) :
    let now := afterRuns root runs volume
    ∃ current, plans now root = .ok current ∧
      current.map PlaylistPlan.target = list.map PlaylistPlan.target ∧
      ∀ naming : Naming, let real := generateBy naming root false now
        match real.result with
        | .error _ => plans real.volume root = .ok current
        | .ok _ => ∃ next, plans real.volume root = .ok next ∧
            next.map PlaylistPlan.target = list.map PlaylistPlan.target ∧
            ∀ plan ∈ next, plan.status ≠ .create ∧
              (plan.status = .unchanged ↔ ∀ last,
                lastFor (pending current) plan.path = some last → plan.content = last.content) := by
  have steady : Steady volume root (list.map PlaylistPlan.target) := ⟨free, list, planned, rfl⟩
  obtain ⟨still, current, replanned, same⟩ := steady.afterRuns runs
  refine ⟨current, replanned, same, fun naming => ?_⟩
  rcases generateBy_cases naming root (afterRuns root runs volume) with
    ⟨error, failed, kept⟩ | ⟨found, above, -, succeeded, -⟩
  · simp only [failed, kept, replanned]
  · simp only [succeeded]
    refine ⟨_, plans_generateBy still replanned succeeded,
      (map_target_renewed current).trans same, fun plan member => ?_⟩
    obtain ⟨before, -, rfl⟩ := List.mem_map.mp member
    exact ⟨status_renewed_ne before, status_renewed_iff⟩

/-- Two titles whose playlists have the same name are planned again after a dry run and a real one,
and the later one is up to date. -/
theorem plans_runs_twoGames :
    let real := generate currentFolder false
      (afterRuns currentFolder [⟨.draft, true⟩] twoGames)
    ∃ next, plans real.volume currentFolder = .ok next ∧
      next.map PlaylistPlan.target =
        [(currentFolder.entry (nameFor game).bytes, ".Game/d1.cue"),
          (currentFolder.entry (nameFor game).bytes, "Game/d1.cue")] ∧
      ∀ plan ∈ next, plan.status ≠ .create ∧
        (plan.status = .unchanged ↔ plan.content = "Game/d1.cue") := by
  have free : twoGames.LinkFree [] := fun location _ => node?_ne_link (by decide) location
  have rehearsed : afterRuns currentFolder [⟨.draft, true⟩] twoGames = twoGames :=
    volume_generateBy_dryRun .draft currentFolder twoGames
  obtain ⟨current, replanned, -, real⟩ :=
    plans_runs currentFolder twoGames _ free plans_twoGames [⟨.draft, true⟩]
  have after := real .draft
  rw [rehearsed] at replanned after ⊢
  cases plans_twoGames.symm.trans replanned
  simp only [result_twoGames] at after
  obtain ⟨next, again, same, statuses⟩ := after
  refine ⟨next, again, same, fun plan member => ⟨(statuses plan member).1, ?_⟩⟩
  have target : plan.target ∈ next.map PlaylistPlan.target := List.mem_map_of_mem member
  have here : plan.path = currentFolder.entry (nameFor game).bytes := by
    rw [same] at target
    simp only [PlaylistPlan.target, List.map_cons, List.map_nil, List.mem_cons, Prod.mk.injEq,
      List.not_mem_nil, or_false] at target
    exact target.elim And.left And.left
  rw [(statuses plan member).2, here]
  simp [lastFor, pending]

/-- After a real run that fails, a playlist is still absent. -/
theorem create_after_run_far :
    farCard.LinkFree [] ∧ plans farCard farRoot = .ok [farPlan] ∧
      plans (generate farRoot false farCard).volume farRoot = .ok [farPlan] ∧
      farPlan.status = .create := by
  obtain ⟨plan, rest, fault, -, failed⟩ := generateBy_of_blocked plans_far blocked_far
  refine ⟨fun location _ => node?_ne_link (by decide) location, plans_far, ?_, rfl⟩
  rw [generate, failed, plans_far]

end Playlist
end CardKeeper

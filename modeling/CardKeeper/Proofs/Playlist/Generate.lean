import CardKeeper.Proofs.Playlist.Write

/-!
# Generating playlists is all or nothing

Whatever can keep a playlist from being written shows before the first of them is: planning fails,
or there is no room for drafts.  A run therefore either leaves the volume as it was, or carries out
every plan that it made: `generateBy_all_or_nothing`.
-/

namespace CardKeeper
namespace Playlist

open Volume Publish

variable {volume : Volume} {root : Path} {list : List PlaylistPlan} {naming : Naming}

/-! ## How a run ends -/

theorem generateBy_of_error (naming : Naming) (dryRun : Bool) {error : PlaylistError}
    (failed : plans volume root = .error error) :
    generateBy naming root dryRun volume = ⟨notices volume root, volume, .error error⟩ := by
  simp only [generateBy, bind, Activity.andThen, Activity.look, Activity.announce, Activity.demand,
    failed, List.nil_append, List.append_nil]

theorem generateBy_of_ok (naming : Naming) (dryRun : Bool)
    (planned : plans volume root = .ok list) :
    generateBy naming root dryRun volume =
      let written := writeAll naming dryRun (pending list) volume
      ⟨notices volume root ++ written.notices, written.volume,
        written.result.map fun _ => report list⟩ := by
  simp only [generateBy, bind, Activity.andThen, Activity.look, Activity.announce, Activity.demand,
    planned]
  cases (writeAll naming dryRun (pending list) volume).result with
  | error error => simp only [Except.map, List.nil_append]
  | ok value =>
      simp only [pure, Activity.done, Except.map, List.nil_append, List.append_nil]

/-- Some playlist has to be written, but there is no room for drafts. -/
def Blocked (naming : Naming) (root : Path) (volume : Volume) : Prop :=
  ∃ list, plans volume root = .ok list ∧ pending list ≠ [] ∧
    ¬ HasRoom naming (draftFolder root) volume

/-- A run that is blocked ends at the first playlist. -/
theorem generateBy_of_blocked (planned : plans volume root = .ok list)
    (blocked : Blocked naming root volume) : ∃ plan rest fault, pending list = plan :: rest ∧
      generateBy naming root false volume =
        ⟨notices volume root ++ [.event (.writing plan.path)], volume,
          .error (.file plan.path fault)⟩ := by
  obtain ⟨found, plans_eq, some, full⟩ := blocked
  cases planned.symm.trans plans_eq
  obtain ⟨above, -, ready⟩ := ready_of_plans planned
  obtain ⟨plan, rest, shape⟩ := List.exists_cons_of_ne_nil some
  obtain ⟨name, here⟩ := ready_of_mem_pending ready plan (shape ▸ List.mem_cons_self)
  obtain ⟨fault, failed⟩ := writeAll_of_not_hasRoom full here rest
  refine ⟨plan, rest, fault, shape, ?_⟩
  simp only [generateBy_of_ok naming false planned, shape, failed, Except.map]

/-- A run that is not blocked carries out the plans. -/
theorem generateBy_of_not_blocked (planned : plans volume root = .ok list)
    (free : ¬ Blocked naming root volume) : ∃ above, volume.locate true root = .ok above ∧
      (∀ plan ∈ list, ∃ title, Ready volume root above plan (nameFor title)) ∧
      (generateBy naming root false volume).result = .ok (report list) ∧
      (generateBy naming root false volume).notices =
        notices volume root ++ (pending list).flatMap account ∧
      Written volume above (pending list) volume (generateBy naming root false volume).volume := by
  obtain ⟨above, reached, ready⟩ := ready_of_plans planned
  refine ⟨above, reached, ready, ?_⟩
  rw [generateBy_of_ok naming false planned]
  by_cases nothing : pending list = []
  · rw [nothing]
    exact ⟨rfl, rfl, .nil above (.refl volume) (.refl volume)⟩
  · have room : HasRoom naming (draftFolder root) volume := by
      by_contra full
      exact free ⟨list, planned, nothing, full⟩
    obtain ⟨done, told, written⟩ :=
      writeAll_of_hasRoom (.refl volume) (.refl volume) room (ready_of_mem_pending ready)
    simp only [done, told, Except.map, true_and]
    exact written

/-- A run that succeeds has carried out its plans, and one that fails has done nothing. -/
theorem generateBy_cases (naming : Naming) (root : Path) (volume : Volume) :
    (∃ error, (generateBy naming root false volume).result = .error error ∧
        (generateBy naming root false volume).volume = volume) ∨
      ∃ list above, plans volume root = .ok list ∧
        (generateBy naming root false volume).result = .ok (report list) ∧
        volume.locate true root = .ok above ∧
        (∀ plan ∈ list, ∃ title, Ready volume root above plan (nameFor title)) ∧
        Written volume above (pending list) volume
          (generateBy naming root false volume).volume := by
  cases planned : plans volume root with
  | error error => exact .inl ⟨error, by rw [generateBy_of_error naming false planned], by
      rw [generateBy_of_error naming false planned]⟩
  | ok list =>
      by_cases blocked : Blocked naming root volume
      · obtain ⟨plan, rest, fault, -, failed⟩ := generateBy_of_blocked planned blocked
        exact .inl ⟨.file plan.path fault, by rw [failed], by rw [failed]⟩
      · obtain ⟨above, reached, ready, succeeded, -, written⟩ :=
          generateBy_of_not_blocked planned blocked
        exact .inr ⟨list, above, rfl, succeeded, reached, ready, written⟩

theorem volume_generateBy_dryRun (naming : Naming) (root : Path) (volume : Volume) :
    (generateBy naming root true volume).volume = volume := by
  cases planned : plans volume root with
  | error error => rw [generateBy_of_error naming true planned]
  | ok list => rw [generateBy_of_ok naming true planned, writeAll_dryRun]

/-- A run that succeeds has carried out the plans that were made. -/
theorem written_of_generateBy {naming : Naming} {report : PlaylistReport}
    (planned : plans volume root = .ok list)
    (succeeded : (generateBy naming root false volume).result = .ok report) :
    ∃ above, volume.locate true root = .ok above ∧ volume.isFolderAt above = true ∧
      (∀ plan ∈ list, ∃ title, Ready volume root above plan (nameFor title)) ∧
      Written volume above (pending list) volume (generateBy naming root false volume).volume := by
  rcases generateBy_cases naming root volume with
    ⟨error, failed, -⟩ | ⟨found, above, plans_eq, -, reached, ready, written⟩
  · cases failed.symm.trans succeeded
  · cases planned.symm.trans plans_eq
    obtain ⟨place, placed, folder, -⟩ := plans_eq_ok_iff.mp planned
    cases reached.symm.trans placed
    exact ⟨above, reached, folder, ready, written⟩

theorem pending_eq_nil_iff : pending list = [] ↔ ∀ plan ∈ list, plan.status = .unchanged := by
  simp [pending, List.filter_eq_nil_iff]

/-- A run succeeds exactly if planning does and there is either nothing to write or room for
drafts. -/
theorem generateBy_isOk_iff (naming : Naming) (root : Path) (volume : Volume) :
    (∃ report, (generateBy naming root false volume).result = .ok report) ↔
      ∃ list, plans volume root = .ok list ∧
        ((∀ plan ∈ list, plan.status = .unchanged) ∨
          HasRoom naming (draftFolder root) volume) := by
  cases planned : plans volume root with
  | error error => simp [generateBy_of_error naming false planned]
  | ok list =>
      have open_iff : ¬ Blocked naming root volume ↔
          pending list = [] ∨ HasRoom naming (draftFolder root) volume := by
        simp only [Blocked, planned, Except.ok.injEq, exists_eq_left', not_and, Classical.not_not]
        exact Decidable.imp_iff_not_or.trans (or_congr_left Classical.not_not)
      simp only [Except.ok.injEq, exists_eq_left', ← pending_eq_nil_iff, ← open_iff]
      constructor
      · rintro ⟨report, done⟩ blocked
        obtain ⟨plan, rest, fault, -, failed⟩ := generateBy_of_blocked planned blocked
        rw [failed] at done
        cases done
      · intro free
        obtain ⟨-, -, -, succeeded, -⟩ := generateBy_of_not_blocked planned free
        exact ⟨report list, succeeded⟩

/-! ## All or nothing -/

/-- Generating playlists is all or nothing.  It succeeds exactly if planning does and there is
either nothing to write or room for drafts.  If it fails, the volume is exactly what it was.  If it
succeeds, the report names the paths of the plans that were not up to date, in their order, and
counts the others; at each of these paths there is then a file with the content of the last plan for
it, and with the permissions of what the path led to before, or those of a new file; and nothing
else has changed. -/
theorem generateBy_all_or_nothing (naming : Naming) (root : Path) (volume : Volume) :
    let outcome := generateBy naming root false volume
    ((∃ report, outcome.result = .ok report) ↔ ∃ list, plans volume root = .ok list ∧
      ((∀ plan ∈ list, plan.status = .unchanged) ∨ HasRoom naming (draftFolder root) volume)) ∧
    match outcome.result with
    | .error _ => outcome.volume = volume
    | .ok report => ∃ list, plans volume root = .ok list ∧
        report.written =
          (list.filter fun plan => plan.status != .unchanged).map PlaylistPlan.path ∧
        report.unchanged = (list.filter fun plan => plan.status == .unchanged).length ∧
        (∀ path ∈ report.written, ∃ plan name above,
          lastFor (list.filter fun plan => plan.status != .unchanged) path = some plan ∧
          volume.EntryAt path name above ∧ outcome.volume.EntryAt path name above ∧
          outcome.volume.node? (name :: above) =
            some (.file (volume.modeFor path) (Utf8.encode plan.content)) ∧
          outcome.volume.status? path =
            .ok (.file (volume.modeFor path) (Utf8.encode plan.content))) ∧
        (∀ location, (∀ path ∈ report.written, ∀ name above, volume.EntryAt path name above →
          location ≠ name :: above) → outcome.volume.node? location = volume.node? location) ∧
        outcome.volume.current = volume.current := by
  refine ⟨generateBy_isOk_iff naming root volume, ?_⟩
  rcases generateBy_cases naming root volume with
    ⟨error, failed, same⟩ | ⟨list, above, planned, succeeded, -, ready, written⟩
  · simp only [failed]
    exact same
  · simp only [succeeded]
    refine ⟨list, planned, rfl, List.countP_eq_length_filter, ?_, ?_, written.overlays.current⟩
    · intro path member
      obtain ⟨plan, isPending, rfl⟩ := List.mem_map.mp member
      obtain ⟨last, isLast⟩ := exists_lastFor isPending
      obtain ⟨title, here⟩ := ready plan (List.mem_filter.mp isPending).1
      have entry := written.overlays.entryAt_iff.mpr here.entry
      have standing := written.holds plan.path last _ isLast here.entry
      rw [← here.replaceable.modeFor_eq_modeVia here.entry] at standing
      exact ⟨last, nameFor title, above, isLast, here.entry, entry, standing,
        entry.status?_file standing⟩
    · intro location outside
      refine written.frame location fun plan member name entry => ?_
      exact outside plan.path (List.mem_map_of_mem member) name above entry

end Playlist
end CardKeeper

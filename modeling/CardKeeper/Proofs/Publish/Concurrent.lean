import Mathlib
import CardKeeper.Proofs.Publish.Sound

/-!
# Publishing at the same time

However the steps of several writers are interleaved, a reader finds whole files, no draft is left
in the end, and the last draft that took the place of an entry stays.  To publish one file after
another is one of the interleavings (`run_oneByOne`), so where no two writers are after the same
entry, all of them end alike.
-/

namespace CardKeeper
namespace Publish

open Volume

variable {calls : List Publication} {call : Publication} {start : Volume} {progress : Progress}
  {writer : Nat} {location : Location}

namespace Sound

/-! ## What is known in the end -/

/-- A reader finds what was there at the start, or the whole data of one publication. -/
theorem read_eq (sound : Sound calls start progress) (plain : ∀ call ∈ calls, call.IsPlain start)
    (member : call ∈ calls) (on : call.isOn start location = true) :
    progress.volume.read call.path =
      match lastOn calls start location progress.renamed with
      | some other => .ok other.data
      | none => start.read call.path := by
  obtain ⟨name, above, rfl, entry, -, early⟩ := (plain call member).of_isOn on
  have later := (sound.overlays plain).entryAt_iff.mpr entry
  have here := sound.node?_of_isOn member on
  unfold standing at here
  cases last : lastOn calls start (name :: above) progress.renamed with
  | none =>
      rw [last] at here
      exact entry.read_eq later early here
  | some other =>
      rw [last] at here
      exact later.read_file here

variable (sound : Sound calls start progress) (ended : progress.Ended calls)

include sound ended

/-- No draft is left. -/
theorem node?_of_ended (location : Location) :
    progress.volume.node? location = standing calls start location progress.renamed := by
  refine sound.stands location fun writer own => ?_
  rcases Nat.lt_or_ge writer calls.length with within | beyond
  · have done := ended writer within
    cases stage : progress.stage writer with
    | waiting | looked | replaced | failed => simp [stage, Stage.draft?] at own
    | writing | written | undoing => simp [stage, Stage.isEnded] at done
  · rw [sound.idle writer (List.getElem?_eq_none beyond)] at own
    cases own

/-- Those have published for whose drafts there was room. -/
theorem mem_renamed_iff (found : calls[writer]? = some call) :
    writer ∈ progress.renamed ↔ call.Fits start := by
  have suits := sound.suits writer call found
  have done := ended writer (List.getElem?_eq_some_iff.mp found).1
  rw [sound.logged]
  cases stage : progress.stage writer with
  | waiting | looked | writing | written | undoing => simp [stage, Stage.isEnded] at done
  | replaced => simpa [stage, Suits] using suits
  | failed fault => simpa [stage, Suits] using suits

/-- Where only one publication is on an entry, the entry depends on that one alone. -/
theorem lastOn_iff (member : call ∈ calls) (on : call.isOn start location = true)
    (only : ∀ other ∈ calls, other.isOn start location = true → other = call)
    (last : Publication) :
    lastOn calls start location progress.renamed = some last ↔
      last = call ∧ call.Fits start := by
  constructor
  · intro found
    obtain rfl := only last (mem_of_lastOn found) (of_lastOn found).1
    obtain ⟨-, writer, logged, at_writer⟩ := of_lastOn found
    exact ⟨rfl, (sound.mem_renamed_iff ended at_writer).mp logged⟩
  · rintro ⟨rfl, fits⟩
    obtain ⟨writer, found⟩ := List.mem_iff_getElem?.mp member
    obtain ⟨other, last⟩ := exists_lastOn ((sound.mem_renamed_iff ended found).mpr fits) found on
    rw [last, only other (mem_of_lastOn last) (of_lastOn last).1]

/-- If no two publications are on one entry, every order and every interleaving of them ends with
the same files. -/
theorem node?_unique {order : List Publication} {after : Progress}
    (other : Sound order start after) (otherEnded : after.Ended order) (same : order.Perm calls)
    (distinct : (calls.map fun call => destination start call.path).Nodup) (location : Location) :
    progress.volume.node? location = after.volume.node? location := by
  rw [sound.node?_of_ended ended, other.node?_of_ended otherEnded]
  by_cases aimed : ∃ call ∈ calls, call.isOn start location = true
  · obtain ⟨call, member, on⟩ := aimed
    have only (other : Publication) (also : other ∈ calls)
        (there : other.isOn start location = true) : other = call :=
      List.inj_on_of_nodup_map distinct also member
        ((Publication.isOn_iff.mp there).trans (Publication.isOn_iff.mp on).symm)
    have here := sound.lastOn_iff ended member on only
    have there := other.lastOn_iff otherEnded (same.mem_iff.mpr member) on
      fun other also => only other (same.mem_iff.mp also)
    have equal : lastOn calls start location progress.renamed =
        lastOn order start location after.renamed :=
      Option.ext fun last => (here last).trans (there last).symm
    rw [standing, standing, equal]
  · have nobody (call : Publication) (member : call ∈ calls) : call.isOn start location = false :=
      Bool.eq_false_iff.mpr fun on => aimed ⟨call, member, on⟩
    rw [standing_of_forall nobody, standing_of_forall fun call member =>
      nobody call (same.mem_iff.mp member)]

end Sound

/-! ## One publication after another -/

/-- Publications one after another, whether or not they succeed. -/
def publishInTurn (calls : List Publication) (volume : Volume) : Volume :=
  calls.foldl (fun volume call => (publishBy call.naming call.path call.data volume).volume) volume

/-- The schedule by which each writer, from a number on, is done before the next one starts. -/
def oneByOne : List Publication → Nat → List (Nat × Nat)
  | [], _ => []
  | call :: rest, writer =>
      List.replicate 6 (writer, call.data.length) ++ oneByOne rest (writer + 1)

theorem run_oneByOne (done rest : List Publication) (progress : Progress)
    (ended : ∀ writer, writer < done.length → (progress.stage writer).isEnded = true)
    (waiting : ∀ writer, done.length ≤ writer → progress.stage writer = .waiting) :
    let after := progress.run (done ++ rest) (oneByOne rest done.length)
    after.volume = publishInTurn rest progress.volume ∧ after.Ended (done ++ rest) := by
  induction rest generalizing done progress with
  | nil => exact ⟨rfl, by simpa [Progress.Ended, Progress.run, oneByOne] using ended⟩
  | cons call rest ih =>
      have found : (done ++ call :: rest)[done.length]? = some call := by simp
      obtain ⟨volume, stage⟩ := run_alone progress found (waiting _ (Nat.le_refl _))
      have onward := ih (done ++ [call])
        (progress.run (done ++ call :: rest)
          (List.replicate 6 (done.length, call.data.length)))
        (fun writer before => ?_) (fun writer after => ?_)
      · simp only [List.append_assoc, List.singleton_append, List.length_append,
          List.length_singleton] at onward
        simp only [Progress.run, oneByOne, List.foldl_append] at onward ⊢
        simp only [Progress.run] at volume
        rw [volume] at onward
        exact onward
      · rw [stage]
        rw [List.length_append, List.length_singleton] at before
        by_cases here : writer = done.length
        · simp [here]
        · rw [Function.update_of_ne here]
          exact ended writer (by omega)
      · rw [stage]
        rw [List.length_append, List.length_singleton] at after
        rw [Function.update_of_ne (by omega)]
        exact waiting writer (by omega)

/-- Any number of writers publish at the same time, and their steps are taken in any order.  At
every moment an entry that is published reads as at the start, or as the whole data of a publication
on it, and everybody can still come to an end.  When everybody is done, no draft is left: nothing
but those entries has changed.  Those have published for whose drafts there was room, and an entry
holds the data of the last of them that was on it.  If no two are on one entry, the files are the
same as after the publications one after another, in any order. -/
theorem publish_concurrently (calls : List Publication) (start : Volume)
    (plain : ∀ call ∈ calls, call.IsPlain start) (apart : DraftsApart calls)
    (schedule : List (Nat × Nat)) :
    let progress := (Progress.start start).run calls schedule
    (∀ call ∈ calls, progress.volume.read call.path = start.read call.path ∨
      ∃ other ∈ calls, destination start other.path = destination start call.path ∧
        progress.volume.read call.path = .ok other.data) ∧
    (∃ schedule, (progress.run calls schedule).Ended calls) ∧
    (progress.Ended calls →
      (∀ location, (∀ call ∈ calls, destination start call.path ≠ .ok location) →
        progress.volume.node? location = start.node? location) ∧
      (∀ writer call, calls[writer]? = some call →
        (writer ∈ progress.renamed ↔ call.Fits start)) ∧
      (∀ call ∈ calls, ∀ location, destination start call.path = .ok location →
        progress.volume.read call.path =
          match lastOn calls start location progress.renamed with
          | some other => .ok other.data
          | none => start.read call.path) ∧
      ((calls.map fun call => destination start call.path).Nodup →
        ∀ order, order.Perm calls → ∀ location,
          progress.volume.node? location = (publishInTurn order start).node? location)) := by
  have sound := (Sound.of_start calls start).run plain apart schedule
  refine ⟨fun call member => ?_, exists_ended calls _, fun ended => ⟨fun location aside => ?_,
    fun writer call found => sound.mem_renamed_iff ended found, fun call member location on =>
    sound.read_eq plain member (Publication.isOn_iff.mpr on), fun distinct order same location =>
    ?_⟩⟩
  · obtain ⟨location, on⟩ := (plain call member).exists_isOn
    have read := sound.read_eq plain member on
    cases last : lastOn calls start location
        ((Progress.start start).run calls schedule).renamed with
    | none =>
        rw [last] at read
        exact .inl read
    | some other =>
        rw [last] at read
        refine .inr ⟨other, mem_of_lastOn last, ?_, read⟩
        exact (Publication.isOn_iff.mp (of_lastOn last).1).trans (Publication.isOn_iff.mp on).symm
  · rw [sound.node?_of_ended ended, standing_of_forall fun call member => ?_]
    rw [Bool.eq_false_iff, ne_eq, Publication.isOn_iff]
    exact aside call member
  · obtain ⟨volume, otherEnded⟩ := run_oneByOne [] order (.start start)
      (fun _ none => absurd none (Nat.not_lt_zero _)) (fun _ _ => rfl)
    have members (call : Publication) : call ∈ order ↔ call ∈ calls := same.mem_iff
    have other := (Sound.of_start order start).run
      (fun call member => plain call ((members call).mp member))
      (fun call member other wanted =>
        apart call ((members call).mp member) other ((members other).mp wanted))
      (oneByOne order 0)
    rw [sound.node?_unique ended other otherEnded same distinct location]
    exact congrArg (fun volume : Volume => volume.node? location) volume

/-- The drafts of the program are apart from all files that are not named like one of them. -/
theorem draftsApart_draft (named : ∀ call ∈ calls, call.naming = .draft)
    (unlike : ∀ call ∈ calls, ∀ name, call.path.fileName? = some name →
      ¬NamePattern.draft.start <+: name) : DraftsApart calls := by
  intro call member other wanted taken same
  obtain ⟨-, number, -, picked⟩ := NamePattern.draft.spare_not_mem taken 0
  refine unlike other wanted _ same ?_
  rw [named call member]
  simp only [Naming.draft, NamePattern.naming, picked, NamePattern.name, List.append_assoc]
  exact List.prefix_append _ _

/-- The name `a`. -/
def firstName : Name := ⟨[0x61], by decide⟩

/-- The name `b`. -/
def secondName : Name := ⟨[0x62], by decide⟩

/-- A file `a` and nothing else. -/
def oneFile : Volume where
  entries := [([firstName], .file 0o640 [1])]

/-- The file `a` is to be replaced, and `b` is to be made. -/
def twoFiles : List Publication :=
  [⟨⟨firstName.bytes⟩, [2, 3], .draft⟩, ⟨⟨secondName.bytes⟩, [4], .draft⟩]

/-- The two writers take turns, so that both have a draft at the same time. -/
def inTurns : List (Nat × Nat) :=
  [(0, 1), (1, 1), (0, 1), (1, 1), (0, 1), (1, 1), (0, 1), (1, 1), (1, 1), (0, 1), (0, 1)]

theorem destination_firstName : destination oneFile ⟨firstName.bytes⟩ = .ok [firstName] := by
  cbv

theorem destination_secondName : destination oneFile ⟨secondName.bytes⟩ = .ok [secondName] := by
  cbv

theorem isPlain_twoFiles : ∀ call ∈ twoFiles, call.IsPlain oneFile := by
  intro call member
  simp only [twoFiles, List.mem_cons, List.not_mem_nil, or_false] at member
  rcases member with rfl | rfl
  · obtain ⟨_, _, shape, entry, -⟩ := destination_eq_ok_iff.mp destination_firstName
    cases shape
    exact ⟨_, _, entry, .inr ⟨0o640, [1], by cbv⟩⟩
  · obtain ⟨_, _, shape, entry, -⟩ := destination_eq_ok_iff.mp destination_secondName
    cases shape
    exact ⟨_, _, entry, .inl (by cbv)⟩

theorem draftsApart_twoFiles : DraftsApart twoFiles := by
  refine draftsApart_draft (by simp [twoFiles]) fun call member name named => ?_
  simp only [twoFiles, List.mem_cons, List.not_mem_nil, or_false] at member
  rcases member with rfl | rfl
  · have own : some name = some firstName.bytes := named.symm.trans (by cbv)
    cases own
    decide
  · have own : some name = some secondName.bytes := named.symm.trans (by cbv)
    cases own
    decide

/-- Two files are published at the same time, and end as if one had been after the other. -/
theorem publish_inTurns :
    (∀ call ∈ twoFiles, call.IsPlain oneFile) ∧ DraftsApart twoFiles ∧
      let progress := (Progress.start oneFile).run twoFiles inTurns
      progress.Ended twoFiles ∧ progress.renamed = [0, 1] ∧
        progress.volume.read ⟨firstName.bytes⟩ = .ok [2, 3] ∧
        progress.volume.read ⟨secondName.bytes⟩ = .ok [4] ∧
        ∀ location, progress.volume.node? location =
          (publishInTurn twoFiles oneFile).node? location := by
  have ended : ((Progress.start oneFile).run twoFiles inTurns).Ended twoFiles := by
    intro writer within
    match writer, within with
    | 0, _ => cbv
    | 1, _ => cbv
  have distinct : (twoFiles.map fun call => destination oneFile call.path).Nodup := by
    simp only [twoFiles, List.map_cons, List.map_nil, destination_firstName,
      destination_secondName]
    decide
  obtain ⟨-, -, final⟩ :=
    publish_concurrently twoFiles oneFile isPlain_twoFiles draftsApart_twoFiles inTurns
  obtain ⟨-, -, -, alike⟩ := final ended
  exact ⟨isPlain_twoFiles, draftsApart_twoFiles, ended, by cbv, by cbv, by cbv,
    alike distinct twoFiles (List.Perm.refl _)⟩

end Publish
end CardKeeper

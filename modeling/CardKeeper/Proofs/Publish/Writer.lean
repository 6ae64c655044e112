import Mathlib
import CardKeeper.Proofs.Publish

/-!
# Writers that take turns

The steps of a publication are taken one at a time, and between any two of them other writers may
take theirs.  A schedule says whose turn it is and how many bytes that writer may append.  No
writer waits for another, so all of them can always come to an end (`exists_ended`), and a writer
that is never interrupted does exactly what `publishBy` does: `run_alone`.
-/

namespace CardKeeper
namespace Publish

open Volume

/-- What a writer is to publish, and how it names its draft. -/
structure Publication where
  path : Path
  data : Bytes
  naming : Naming

/-- How far a writer has come. -/
inductive Stage where
  /-- It has not started. -/
  | waiting
  /-- It knows the permissions to keep. -/
  | looked (mode : Option Nat)
  /-- Its draft is there, and this part of the data is still to be appended. -/
  | writing (mode : Option Nat) (draft : Location) (rest : Bytes)
  /-- Its draft is complete and has its permissions. -/
  | written (draft : Location)
  /-- Its draft could not take its place and is to be taken away. -/
  | undoing (draft : Location) (fault : Fault)
  /-- Its draft has taken its place. -/
  | replaced
  /-- It has failed. -/
  | failed (fault : Fault)

namespace Stage

/-- The draft of a writer, while there is one. -/
def draft? : Stage → Option Location
  | .writing _ draft _ | .written draft | .undoing draft _ => some draft
  | _ => none

/-- Whether a writer has nothing more to do. -/
def isEnded : Stage → Bool
  | .replaced | .failed _ => true
  | _ => false

/-- How a writer ends, given how the publication ends. -/
def ofResult : Except Fault Unit → Stage
  | .ok () => .replaced
  | .error fault => .failed fault

@[simp]
theorem isEnded_ofResult (result : Except Fault Unit) : (ofResult result).isEnded = true := by
  cases result <;> rfl

/-- What is still to be appended. -/
def rest : Stage → Bytes
  | .writing _ _ rest => rest
  | _ => []

/-- How many steps a writer has to take at most, if it appends all that is left in one of them. -/
def stepsLeft : Stage → ℕ
  | .waiting => 6
  | .looked _ => 5
  | .writing _ _ rest => if rest.isEmpty then 3 else 4
  | .written _ => 2
  | .undoing _ _ => 1
  | .replaced | .failed _ => 0

end Stage

/-- The next step of a writer, which may append so many bytes. -/
def advance (size : Nat) (call : Publication) (volume : Volume) : Stage → Stage × Volume
  | .waiting => (.looked (keptMode? volume call.path), volume)
  | .looked mode =>
      match spareName call.naming (folderOf call.path) call.path volume with
      | .error fault => (.failed fault, volume)
      | .ok (name, folder) =>
          (.writing mode (name :: folder) call.data,
            create Node.usualMask (name :: folder) volume)
  | .writing mode draft rest =>
      if rest.isEmpty then (.written draft, setMode draft mode volume)
      else (.writing mode draft (rest.drop size), append draft (rest.take size) volume)
  | .written draft =>
      match replace draft call.path volume with
      | .error fault => (.undoing draft fault, volume)
      | .ok after => (.replaced, after)
  | .undoing draft fault => (.failed fault, volume.erase draft)
  | .replaced => (.replaced, volume)
  | .failed fault => (.failed fault, volume)

/-- Where all writers are. -/
structure Progress where
  volume : Volume
  /-- How far each writer has come. -/
  stage : Nat → Stage
  /-- The writers whose drafts have taken their places, the last one first. -/
  renamed : List Nat

namespace Progress

/-- Nobody has started yet. -/
def start (volume : Volume) : Progress := ⟨volume, fun _ => .waiting, []⟩

/-- A writer takes its next step. -/
def turn (calls : List Publication) (progress : Progress) (writer size : Nat) : Progress :=
  match calls[writer]? with
  | none => progress
  | some call =>
      let before := progress.stage writer
      let (after, volume) := advance size call progress.volume before
      { volume
        stage := Function.update progress.stage writer after
        renamed :=
          match before, after with
          | .written _, .replaced => writer :: progress.renamed
          | _, _ => progress.renamed }

/-- The writers take their turns. -/
def run (calls : List Publication) (progress : Progress) (schedule : List (Nat × Nat)) :
    Progress :=
  schedule.foldl (fun progress next => progress.turn calls next.1 next.2) progress

end Progress

variable {calls : List Publication} {call : Publication} {writer : Nat}

/-! ## Coming to an end -/

/-- Whatever a step comes upon, it brings a writer nearer to its end. -/
theorem stepsLeft_advance (call : Publication) (volume : Volume) {stage : Stage}
    (busy : stage.isEnded = false) :
    (advance stage.rest.length call volume stage).1.stepsLeft < stage.stepsLeft := by
  cases stage with
  | waiting => exact Nat.lt_succ_self 5
  | looked mode =>
      rw [advance]
      cases spareName call.naming (folderOf call.path) call.path volume with
      | error fault => exact Nat.zero_lt_succ 4
      | ok draft =>
          simp only [Stage.stepsLeft]
          split <;> decide
  | writing mode draft rest =>
      by_cases nothing : rest = []
      · simp [advance, nothing, Stage.stepsLeft]
      · simp [advance, nothing, Stage.stepsLeft, Stage.rest]
  | written draft =>
      rw [advance]
      cases replace draft call.path volume with
      | error fault => exact Nat.lt_succ_self 1
      | ok after => exact Nat.zero_lt_succ 1
  | undoing draft fault => exact Nat.zero_lt_succ 0
  | replaced | failed => cases busy

/-- Everybody has nothing more to do. -/
def Progress.Ended (calls : List Publication) (progress : Progress) : Prop :=
  ∀ writer, writer < calls.length → (progress.stage writer).isEnded = true

/-- However far the writers have come, turns are left with which all of them come to an end. -/
theorem exists_ended (calls : List Publication) (progress : Progress) :
    ∃ schedule, (progress.run calls schedule).Ended calls := by
  generalize total : ∑ writer ∈ Finset.range calls.length, (progress.stage writer).stepsLeft = left
  induction left using Nat.strong_induction_on generalizing progress with
  | _ left ih =>
    by_cases ended : progress.Ended calls
    · exact ⟨[], ended⟩
    · simp only [Progress.Ended, not_forall, Bool.not_eq_true] at ended
      obtain ⟨writer, within, busy⟩ := ended
      let size := (progress.stage writer).rest.length
      let next := progress.turn calls writer size
      have stage : next.stage = Function.update progress.stage writer
          (advance size calls[writer] progress.volume (progress.stage writer)).1 := by
        simp [next, Progress.turn, List.getElem?_eq_getElem within]
      have nearer := stepsLeft_advance calls[writer] progress.volume busy
      have fewer : ∑ other ∈ Finset.range calls.length, (next.stage other).stepsLeft < left := by
        rw [← total]
        refine Finset.sum_lt_sum (fun other _ => ?_) ⟨writer, Finset.mem_range.mpr within, ?_⟩
        · by_cases own : other = writer
          · rw [stage, own, Function.update_self]
            exact nearer.le
          · rw [stage, Function.update_of_ne own]
        · rw [stage, Function.update_self]
          exact nearer
      obtain ⟨schedule, done⟩ := ih _ fewer next rfl
      exact ⟨(writer, size) :: schedule, done⟩

/-! ## A writer that is not interrupted -/

/-- Several steps of one writer, of which each may append so many bytes. -/
def advances (size : Nat) (call : Publication) : Nat → Stage × Volume → Stage × Volume
  | 0, state => state
  | count + 1, state => advances size call count (advance size call state.2 state.1)

/-- When one writer has turn after turn, only its own stage and the volume change. -/
theorem run_replicate (progress : Progress) (found : calls[writer]? = some call)
    (size count : Nat) :
    let final := advances size call count (progress.stage writer, progress.volume)
    let after := progress.run calls (List.replicate count (writer, size))
    after.volume = final.2 ∧ after.stage = Function.update progress.stage writer final.1 := by
  induction count generalizing progress with
  | zero => exact ⟨rfl, (Function.update_eq_self writer progress.stage).symm⟩
  | succ count ih =>
      obtain ⟨volume, stage⟩ := ih (progress.turn calls writer size)
      have next : ((progress.turn calls writer size).stage writer,
          (progress.turn calls writer size).volume) =
            advance size call progress.volume (progress.stage writer) := by
        simp [Progress.turn, found]
      have others : (progress.turn calls writer size).stage = Function.update progress.stage writer
          (advance size call progress.volume (progress.stage writer)).1 := by
        simp [Progress.turn, found]
      rw [next] at volume stage
      refine ⟨volume, stage.trans ?_⟩
      rw [others, Function.update_idem]
      rfl

/-- Six steps, each of which may append all of the data, are a whole publication. -/
theorem advances_waiting (call : Publication) (volume : Volume) :
    advances call.data.length call 6 (.waiting, volume) =
      let outcome := publishBy call.naming call.path call.data volume
      (.ofResult outcome.result, outcome.volume) := by
  rw [publishBy_eq]
  cases spare : spareName call.naming (folderOf call.path) call.path volume with
  | error fault => simp [advances, advance, spare, Stage.ofResult]
  | ok draft =>
      obtain ⟨name, folder⟩ := draft
      have below : name :: folder ≠ [] := List.cons_ne_nil _ _
      have fresh := fresh_of_spareName spare
      by_cases nothing : call.data = []
      · simp only [advances, advance, spare, nothing, List.isEmpty_nil, if_true,
          create_usualMask, setMode_put below, getD_keptMode?, replace_put fresh]
        cases destination (volume.put (name :: folder) (.file (volume.modeFor call.path) []))
            call.path with
        | error fault => simp [Except.map, erase_put fresh, Stage.ofResult]
        | ok target => simp [Except.map, Stage.ofResult]
      · have more : call.data.isEmpty = false := by simpa using nothing
        simp only [advances, advance, spare, more, Bool.false_eq_true, if_false, create_usualMask,
          append_put below, List.take_length, List.drop_length, List.isEmpty_nil, if_true,
          List.nil_append, setMode_put below, getD_keptMode?, replace_put fresh]
        cases destination (volume.put (name :: folder)
            (.file (volume.modeFor call.path) call.data)) call.path with
        | error fault => simp [Except.map, erase_put fresh, Stage.ofResult]
        | ok target => simp [Except.map, Stage.ofResult]

/-- A writer that is not interrupted does what publishing does. -/
theorem run_alone (progress : Progress) (found : calls[writer]? = some call)
    (waiting : progress.stage writer = .waiting) :
    let outcome := publishBy call.naming call.path call.data progress.volume
    let after := progress.run calls (List.replicate 6 (writer, call.data.length))
    after.volume = outcome.volume ∧
      after.stage = Function.update progress.stage writer (.ofResult outcome.result) := by
  obtain ⟨volume, stage⟩ := run_replicate progress found call.data.length 6
  rw [waiting, advances_waiting] at volume stage
  exact ⟨volume, stage⟩

end Publish
end CardKeeper

import CardKeeper.Event
import CardKeeper.Volume.Basic

/-!
# Activities

An activity works on a volume.  It gives notices as it goes, leaves a volume behind, and ends with
a result or an error.  What it has changed before an error stays changed, unless `withUndo` or
`cleaningUp` take it back.
-/

namespace CardKeeper

/-- What an activity did. -/
structure Outcome (ε α : Type) where
  /-- What it told, in order. -/
  notices : List Notice
  /-- What it left behind. -/
  volume : Volume
  /-- How it ended. -/
  result : Except ε α

/-- Work on a volume. -/
def Activity (ε α : Type) : Type :=
  Volume → Outcome ε α

namespace Activity

variable {ε δ α β : Type}

/-- The activity that does nothing and has a result. -/
def done (value : α) : Activity ε α := fun volume => ⟨[], volume, .ok value⟩

/-- The activity that does nothing and fails. -/
def fail (error : ε) : Activity ε α := fun volume => ⟨[], volume, .error error⟩

/-- One activity after another. -/
def andThen (first : Activity ε α) (next : α → Activity ε β) : Activity ε β := fun volume =>
  let before := first volume
  match before.result with
  | .error error => ⟨before.notices, before.volume, .error error⟩
  | .ok value =>
      let after := next value before.volume
      ⟨before.notices ++ after.notices, after.volume, after.result⟩

instance : Monad (Activity ε) where
  pure := done
  bind := andThen

/-- Tell an event. -/
def tell (event : Event) : Activity ε Unit := fun volume => ⟨[.event event], volume, .ok ()⟩

/-- Give notices. -/
def announce (notices : List Notice) : Activity ε Unit := fun volume => ⟨notices, volume, .ok ()⟩

/-- Look at the volume. -/
def look (view : Volume → α) : Activity ε α := fun volume => ⟨[], volume, .ok (view volume)⟩

/-- Look at the volume, which may show that nothing can be done. -/
def demand (view : Volume → Except ε α) : Activity ε α := fun volume => ⟨[], volume, view volume⟩

/-- Change the volume, unless that fails. -/
def change (step : Volume → Except ε Volume) : Activity ε Unit := fun volume =>
  match step volume with
  | .ok after => ⟨[], after, .ok ()⟩
  | .error error => ⟨[], volume, .error error⟩

/-- An activity with its errors seen as errors of another kind. -/
def orElse (activity : Activity δ α) (report : δ → ε) : Activity ε α := fun volume =>
  let outcome := activity volume
  ⟨outcome.notices, outcome.volume, outcome.result.mapError report⟩

/-- An activity whose failure is followed by an undoing. -/
def withUndo (undo : Volume → Volume) (activity : Activity ε α) : Activity ε α := fun volume =>
  let outcome := activity volume
  match outcome.result with
  | .ok _ => outcome
  | .error _ => { outcome with volume := undo outcome.volume }

/-- An activity after which the volume is cleaned up, however it ends. -/
def cleaningUp (cleanup : Volume → Volume) (activity : Activity ε α) : Activity ε α :=
  fun volume =>
    let outcome := activity volume
    ⟨outcome.notices, cleanup outcome.volume, outcome.result⟩

/-- An activity whose error is kept as its result, so that work goes on. -/
def attempt (activity : Activity δ α) : Activity ε (Except δ α) := fun volume =>
  let outcome := activity volume
  ⟨outcome.notices, outcome.volume, .ok outcome.result⟩

end Activity
end CardKeeper

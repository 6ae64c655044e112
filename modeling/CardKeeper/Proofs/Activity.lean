import CardKeeper.Activity
import CardKeeper.Proofs.Results

/-!
# Activities one after another

An activity that is made of two succeeds if both do, each on the volume that it finds.
-/

namespace CardKeeper

/-- The lines among some notices. -/
def linesOf (notices : List Notice) : List String :=
  notices.filterMap fun notice =>
    match notice with
    | .line text => some text
    | _ => none

theorem linesOf_append (left right : List Notice) :
    linesOf (left ++ right) = linesOf left ++ linesOf right :=
  List.filterMap_append

theorem linesOf_events (events : List Event) : linesOf (events.map .event) = [] := by
  rw [linesOf, List.filterMap_map]
  exact List.filterMap_eq_nil_iff.mpr fun _ _ => rfl

theorem linesOf_lines {α : Type} (text : α → String) (list : List α) :
    linesOf (list.map fun item => .line (text item)) = list.map text := by
  rw [linesOf, List.filterMap_map]
  exact congrFun List.filterMap_eq_map list

namespace Activity

variable {ε α β : Type} {first : Activity ε α} {next : α → Activity ε β} {volume : Volume}
  {value : α} {error : ε}

theorem bind_of_ok (done : (first volume).result = .ok value) :
    (first >>= next) volume =
      ⟨(first volume).notices ++ (next value (first volume).volume).notices,
        (next value (first volume).volume).volume, (next value (first volume).volume).result⟩ := by
  simp only [bind, andThen, done]

theorem bind_of_error (failed : (first volume).result = .error error) :
    (first >>= next) volume = ⟨(first volume).notices, (first volume).volume, .error error⟩ := by
  simp only [bind, andThen, failed]

theorem volume_bind (done : (first volume).result = .ok value) :
    ((first >>= next) volume).volume = (next value (first volume).volume).volume := by
  rw [bind_of_ok done]

theorem of_bind_ok {result : β} (done : ((first >>= next) volume).result = .ok result) :
    ∃ value, (first volume).result = .ok value ∧
      (next value (first volume).volume).result = .ok result := by
  cases ended : (first volume).result with
  | error error =>
      rw [bind_of_error ended] at done
      cases done
  | ok value =>
      rw [bind_of_ok ended] at done
      exact ⟨value, rfl, done⟩

theorem of_withUndo_ok {undo : Volume → Volume} {activity : Activity ε α}
    (done : (withUndo undo activity volume).result = .ok value) :
    (activity volume).result = .ok value := by
  unfold withUndo at done
  cases ended : (activity volume).result with
  | error error => simp [ended] at done
  | ok result => simpa [ended] using done

/-- Some property of the volume is kept by work that fails. -/
def FailsWithin (keeps : Volume → Prop) (activity : Activity ε α) : Prop :=
  ∀ volume error, keeps volume → (activity volume).result = .error error →
    keeps (activity volume).volume

/-- Work whose first part keeps a property in any case keeps it if the second part does. -/
theorem FailsWithin.bind {keeps : Volume → Prop}
    (kept : ∀ volume, keeps volume → keeps (first volume).volume)
    (rest : ∀ value, (next value).FailsWithin keeps) : (first >>= next).FailsWithin keeps := by
  intro volume error holds failed
  cases ended : (first volume).result with
  | error cause =>
      rw [bind_of_error ended]
      exact kept volume holds
  | ok value =>
      rw [bind_of_ok ended] at failed ⊢
      exact rest value _ error (kept volume holds) failed

end Activity
end CardKeeper

import CardKeeper.Command.Reader
import CardKeeper.Proofs.Results

/-!
# What a command line that is read asks for

The switches and values after a word are checked when nothing more belongs to it, so a command that
is read has what it needs.
-/

namespace CardKeeper

/-- A command has what it needs. -/
def Command.IsComplete : Command → Prop
  | .thumbnail _ _ _ sources => sources ≠ []
  | _ => True

namespace Command

variable {scope : Scope} {reading checked : Reading} {trailing : Bool} {arguments : List String}
  {command : Command} {invocation : Invocation}

/-- Two dashes set off a long name. -/
theorem readArgument_long {argument : String} {name : List Char}
    (dashes : argument.toList = '-' :: '-' :: name) :
    reading.readArgument scope argument = reading.readLong scope name := by
  simp only [Reading.readArgument, dashes]

/-- One dash sets off letters. -/
theorem readArgument_letters {argument : String} {letter : Char} {letters : List Char}
    (dash : argument.toList = '-' :: letter :: letters) (single : letter ≠ '-') :
    reading.readArgument scope argument = reading.readLetters scope (letter :: letters) := by
  rw [Reading.readArgument, dash]
  split
  · next same => exact absurd (List.cons.inj (List.cons.inj same).2).1 single
  · next same =>
      cases same
      rfl
  · next other => exact absurd rfl (other letter letters)

/-- What has been read after a word passes if it settles, no word is missing, no two of the flags
that exclude each other are among it, and there are the values that are needed. -/
theorem check_eq_ok_iff {followed : Bool} :
    reading.check scope followed = .ok checked ↔
      reading.settle scope = .ok checked ∧ (followed = true ∨ scope.isGroup = false) ∧
        (checked.seen.filter fun switch => switch = .quiet || switch = .verbose).length ≤ 1 ∧
        (scope = .thumbnail → checked.values ≠ []) := by
  rw [Reading.check, bind_eq_ok_iff]
  constructor
  · rintro ⟨settled, took, done⟩
    split at done
    · cases done
    · next complete =>
        have followedOr : followed = true ∨ scope.isGroup = false := by
          cases followed <;> simp_all
        split at done
        · cases done
        · next single =>
            split at done
            · cases done
            · next given =>
                cases done
                refine ⟨took, followedOr, ?_, by simpa using given⟩
                match found : checked.seen.filter _ with
                | [] => simp
                | [_] => simp
                | first :: second :: rest => exact absurd found (single first second rest)
  · rintro ⟨took, complete, single, given⟩
    refine ⟨checked, took, ?_⟩
    rw [if_neg (by rcases complete with rfl | whole <;> simp_all)]
    split
    · next several =>
        rw [several, List.length_cons, List.length_cons] at single
        omega
    · rw [if_neg (by simpa using given)]

/-- Only thumbnails need values. -/
theorem values_ne_nil_of_check (done : reading.check .thumbnail false = .ok checked) :
    checked.values ≠ [] :=
  (check_eq_ok_iff.mp done).2.2.2 rfl

theorem isComplete_of_check (done : reading.check scope false = .ok checked)
    (asked : checked.command? scope = some command) : command.IsComplete := by
  cases scope with
  | thumbnail =>
      cases asked
      simpa [IsComplete] using values_ne_nil_of_check done
  | missingImgs | m3u | configShow | configPath =>
      cases asked
      trivial
  | program | config => cases asked

/-- A command that is read has what it needs, whatever the words before it. -/
theorem isComplete_of_readFrom (done : readFrom scope reading trailing arguments = .ok invocation) :
    invocation.command.IsComplete := by
  fun_induction readFrom scope reading trailing arguments generalizing invocation with
  | case1 =>
      obtain ⟨checked, passed, done⟩ := bind_eq_ok_iff.mp done
      split at done
      · next asked =>
          cases done
          exact isComplete_of_check passed asked
      · cases done
  | case2 _ _ _ _ ih =>
      obtain ⟨_, -, done⟩ := bind_eq_ok_iff.mp done
      exact ih _ done
  | case3 _ _ _ _ _ _ _ _ ih =>
      obtain ⟨inner, within, done⟩ := bind_eq_ok_iff.mp done
      obtain ⟨_, -, rfl⟩ := map_eq_ok_iff.mp done
      have complete : inner.command.IsComplete := ih within
      exact complete
  | case4 => cases done
  | case5 _ _ _ _ _ _ _ _ _ ih => exact ih done
  | case6 _ _ _ _ _ _ _ _ _ ih =>
      obtain ⟨_, -, done⟩ := bind_eq_ok_iff.mp done
      exact ih _ done

theorem isComplete_of_read (done : read arguments = .ok invocation) :
    invocation.command.IsComplete :=
  isComplete_of_readFrom done

end Command
end CardKeeper

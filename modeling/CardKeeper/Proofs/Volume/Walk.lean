import CardKeeper.Proofs.Path.Entry
import CardKeeper.Volume.Walk

/-!
# Following a path segment by segment

At each segment, following a path either ends or goes on from another place: `walk_cons`.  All
that holds of whole walks follows from what `turn` does at one segment, by `walk_induction`.  A
walk along more segments goes on where the first ones led (`walk_append`), and the number of links
that may be followed matters only when it is used up (`walk_of_le`).
-/

namespace CardKeeper
namespace Volume

/-! ## One segment -/

/-- What following a path does at one segment. -/
inductive Turn where
  /-- It ends with a fault. -/
  | stop (fault : Fault)
  /-- It ends at a link that is not followed. -/
  | arrive (location : Location)
  /-- It goes on from a location along segments, and may still follow so many links. -/
  | go (links : Nat) (here : Location) (segments : List Bytes)

/-- What following a path does at an entry, by what stands there. -/
def enter (follow : Bool) (links : Nat) (location : Location) (rest : List Bytes) :
    Option Node → Turn
  | none => .stop .notFound
  | some (.link target) =>
      if rest.isEmpty && !follow then .arrive location
      else if target.bytes.isEmpty then .stop .notFound
      else
        match links with
        | 0 => .stop .tooManyLinks
        | links + 1 => .go links (start target location.tail) (target.segments ++ rest)
  | some _ => .go links location rest

/-- What following a path does at a segment. -/
def turn (volume : Volume) (follow : Bool) (links : Nat) (here : Location) (segment : Bytes)
    (rest : List Bytes) : Turn :=
  if !volume.isFolderAt here then .stop .notDirectory
  else if Path.isFiller segment then .go links here rest
  else if segment = [Path.dot, Path.dot] then .go links here.tail rest
  else if nameLimit < segment.length then .stop .nameTooLong
  else
    match Name.ofBytes? segment with
    | none => .stop .notFound
    | some name => enter follow links (name :: here) rest (volume.node? (name :: here))

variable {volume : Volume} {follow : Bool} {links : Nat} {here : Location} {segment : Bytes}
  {rest : List Bytes}

theorem walk_nil (volume : Volume) (follow : Bool) (links : Nat) (here : Location) :
    volume.walk follow links here [] = .ok here := by
  rw [walk]

theorem walk_cons (volume : Volume) (follow : Bool) (links : Nat) (here : Location)
    (segment : Bytes) (rest : List Bytes) :
    volume.walk follow links here (segment :: rest) =
      match volume.turn follow links here segment rest with
      | .stop fault => .error fault
      | .arrive location => .ok location
      | .go links here segments => volume.walk follow links here segments := by
  rw [walk, turn]
  by_cases closed : (!volume.isFolderAt here) = true
  · simp only [if_pos closed]
  by_cases filler : Path.isFiller segment = true
  · simp only [if_neg closed, if_pos filler]
  by_cases up : segment = [Path.dot, Path.dot]
  · simp only [if_neg closed, if_neg filler, if_pos up]
  by_cases long : nameLimit < segment.length
  · simp only [if_neg closed, if_neg filler, if_neg up, if_pos long]
  simp only [if_neg closed, if_neg filler, if_neg up, if_neg long]
  cases Name.ofBytes? segment with
  | none => rfl
  | some name =>
      cases standing : volume.node? (name :: here) with
      | none => simp only [standing, enter]
      | some node =>
          cases node with
          | folder mode => simp only [standing, enter]
          | file mode content => simp only [standing, enter]
          | link target =>
              simp only [standing, enter, List.tail_cons]
              by_cases final : (rest.isEmpty && !follow) = true
              · simp only [if_pos final]
              by_cases blank : target.bytes.isEmpty = true
              · simp only [if_neg final, if_pos blank]
              simp only [if_neg final, if_neg blank]
              cases links <;> rfl

/-! ## What a segment leaves -/

/-- A segment uses up a link or itself. -/
theorem turn_decreases {left : Nat} {there : Location} {segments : List Bytes}
    (onward : volume.turn follow links here segment rest = .go left there segments) :
    left < links ∨ left = links ∧ segments.length = rest.length := by
  simp only [turn, enter] at onward
  repeat' split at onward
  all_goals cases onward
  all_goals simp

/-- A statement about whole walks holds if it goes back from where a segment leads to. -/
theorem walk_induction (volume : Volume) (follow : Bool)
    {motive : Nat → Location → List Bytes → Prop}
    (nil : ∀ links here, motive links here [])
    (cons : ∀ links here segment rest,
      (∀ left there segments, volume.turn follow links here segment rest =
        .go left there segments → motive left there segments) →
      motive links here (segment :: rest))
    (links : Nat) (here : Location) (segments : List Bytes) : motive links here segments := by
  -- A link that is followed leaves fewer links, whatever its path adds to the segments.
  induction links using Nat.strongRecOn generalizing here segments with
  | ind links fewer =>
      induction count : segments.length using Nat.strongRecOn generalizing here segments with
      | ind count shorter =>
          cases segments with
          | nil => exact nil links here
          | cons segment rest =>
              refine cons links here segment rest fun left there onwardSegments onward => ?_
              rcases turn_decreases onward with less | ⟨rfl, same⟩
              · exact fewer left less there onwardSegments
              · exact shorter rest.length (by simp [← count]) there onwardSegments same

theorem turn_links_le {left : Nat} {there : Location} {segments : List Bytes}
    (onward : volume.turn follow links here segment rest = .go left there segments) :
    left ≤ links := by
  rcases turn_decreases onward with less | ⟨same, -⟩ <;> omega

/-- A link that is followed is no place to arrive at. -/
theorem turn_ne_arrive (location : Location) :
    volume.turn true links here segment rest ≠ .arrive location := by
  intro arrived
  simp only [turn, enter, Bool.not_true, Bool.and_false, Bool.false_eq_true, if_false] at arrived
  repeat' split at arrived
  all_goals cases arrived

/-- What is done at a segment that others follow does not depend on what they are. -/
theorem turn_append_go {more : List Bytes} (some : more ≠ []) {left : Nat} {there : Location}
    {segments : List Bytes}
    (onward : volume.turn true links here segment rest = .go left there segments) :
    volume.turn follow links here segment (rest ++ more) = .go left there (segments ++ more) := by
  have open_ : (rest ++ more).isEmpty = false := by simp [some]
  simp only [turn, enter, open_, Bool.not_true, Bool.and_false, Bool.false_and, Bool.false_eq_true,
    if_false] at onward ⊢
  repeat' split at onward
  all_goals cases onward
  all_goals simp_all

theorem turn_append_stop {more : List Bytes} (some : more ≠ []) {fault : Fault}
    (stopped : volume.turn true links here segment rest = .stop fault) :
    volume.turn follow links here segment (rest ++ more) = .stop fault := by
  have open_ : (rest ++ more).isEmpty = false := by simp [some]
  simp only [turn, enter, open_, Bool.not_true, Bool.and_false, Bool.false_and, Bool.false_eq_true,
    if_false] at stopped ⊢
  repeat' split at stopped
  all_goals cases stopped
  all_goals simp_all

theorem enter_follow (links : Nat) (location : Location) (rest : List Bytes)
    (standing : Option Node) :
    enter true links location rest standing = enter false links location rest standing ∨
      ∃ target, standing = some (.link target) ∧
        enter false links location rest standing = .arrive location := by
  match standing with
  | none => exact .inl rfl
  | some (.file _ _) => exact .inl rfl
  | some (.folder _) => exact .inl rfl
  | some (.link target) =>
      cases final : rest.isEmpty with
      | true => exact .inr ⟨target, rfl, by simp [enter, final]⟩
      | false => exact .inl (by simp [enter, final])

/-- Whether a last link is followed matters only at a link. -/
theorem turn_follow (volume : Volume) (links : Nat) (here : Location) (segment : Bytes)
    (rest : List Bytes) :
    volume.turn true links here segment rest = volume.turn false links here segment rest ∨
      ∃ location target, volume.turn false links here segment rest = .arrive location ∧
        volume.node? location = some (.link target) := by
  unfold turn
  split
  · exact .inl rfl
  split
  · exact .inl rfl
  split
  · exact .inl rfl
  split
  · exact .inl rfl
  cases Name.ofBytes? segment with
  | none => exact .inl rfl
  | some name =>
      rcases enter_follow links (name :: here) rest (volume.node? (name :: here)) with
        same | ⟨target, standing, arrived⟩
      · exact .inl same
      · exact .inr ⟨name :: here, target, arrived, standing⟩

/-! ## Whole walks -/

/-- A walk ends alike whether or not a last link is followed, unless it ends at a link. -/
theorem walk_follow (volume : Volume) (links : Nat) (here : Location) (segments : List Bytes) :
    volume.walk true links here segments = volume.walk false links here segments ∨
      ∃ location target, volume.walk false links here segments = .ok location ∧
        volume.node? location = some (.link target) := by
  induction links, here, segments using walk_induction volume false with
  | nil links here => exact .inl (by rw [walk_nil, walk_nil])
  | cons links here segment rest ih =>
      rw [walk_cons, walk_cons]
      rcases turn_follow volume links here segment rest with
        same | ⟨location, target, arrived, standing⟩
      · rw [same]
        cases onward : volume.turn false links here segment rest with
        | stop fault => exact .inl rfl
        | arrive location => exact .inl rfl
        | go left there segments => exact ih left there segments onward
      · rw [arrived]
        exact .inr ⟨location, target, rfl, standing⟩

/-- A walk along more segments goes on where the first ones led. -/
theorem walk_append {there : Location} {front : List Bytes}
    (reached : volume.walk true links here front = .ok there) :
    ∃ left ≤ links, ∀ follow rest, rest ≠ [] →
      volume.walk follow links here (front ++ rest) = volume.walk follow left there rest := by
  induction links, here, front using walk_induction volume true with
  | nil links here =>
      rw [walk_nil] at reached
      cases reached
      exact ⟨links, Nat.le_refl _, fun _ _ _ => rfl⟩
  | cons links here segment front ih =>
      rw [walk_cons] at reached
      cases onward : volume.turn true links here segment front with
      | stop fault => simp [onward] at reached
      | arrive location => exact absurd onward (turn_ne_arrive location)
      | go left next segments =>
          rw [onward] at reached
          obtain ⟨final, final_le, same⟩ := ih left next segments onward reached
          refine ⟨final, Nat.le_trans final_le (turn_links_le onward), fun follow rest some => ?_⟩
          rw [List.cons_append, walk_cons, turn_append_go some onward]
          exact same follow rest some

/-- A walk along more segments fails where the first ones fail. -/
theorem walk_append_error {fault : Fault} {front : List Bytes} (some : rest ≠ [])
    (failed : volume.walk true links here front = .error fault) :
    volume.walk follow links here (front ++ rest) = .error fault := by
  induction links, here, front using walk_induction volume true with
  | nil links here =>
      rw [walk_nil] at failed
      cases failed
  | cons links here segment front ih =>
      rw [walk_cons] at failed
      rw [List.cons_append, walk_cons]
      cases onward : volume.turn true links here segment front with
      | stop other =>
          rw [onward] at failed
          rw [turn_append_stop some onward]
          exact failed
      | arrive location => exact absurd onward (turn_ne_arrive location)
      | go left next segments =>
          rw [onward] at failed
          rw [turn_append_go some onward]
          exact ih left next segments onward failed

/-- An entry that does not use up the links is passed the same way with more of them. -/
theorem enter_add (more : Nat) {location : Location} {standing : Option Node}
    (enough : enter follow links location rest standing ≠ .stop .tooManyLinks) :
    enter follow (links + more) location rest standing =
      match enter follow links location rest standing with
      | .go left there segments => .go (left + more) there segments
      | other => other := by
  cases standing with
  | none => rfl
  | some node =>
      cases node with
      | folder mode => rfl
      | file mode content => rfl
      | link target =>
          simp only [enter] at enough ⊢
          by_cases final : (rest.isEmpty && !follow) = true
          · simp only [if_pos final]
          by_cases blank : target.bytes.isEmpty = true
          · simp only [if_neg final, if_pos blank]
          simp only [if_neg final, if_neg blank] at enough ⊢
          cases links with
          | zero => exact absurd rfl enough
          | succ links => simp only [Nat.add_right_comm links 1 more]

theorem turn_add (more : Nat)
    (enough : volume.turn follow links here segment rest ≠ .stop .tooManyLinks) :
    volume.turn follow (links + more) here segment rest =
      match volume.turn follow links here segment rest with
      | .go left there segments => .go (left + more) there segments
      | other => other := by
  simp only [turn] at enough ⊢
  by_cases closed : (!volume.isFolderAt here) = true
  · simp only [if_pos closed]
  by_cases filler : Path.isFiller segment = true
  · simp only [if_neg closed, if_pos filler]
  by_cases up : segment = [Path.dot, Path.dot]
  · simp only [if_neg closed, if_neg filler, if_pos up]
  by_cases long : nameLimit < segment.length
  · simp only [if_neg closed, if_neg filler, if_neg up, if_pos long]
  simp only [if_neg closed, if_neg filler, if_neg up, if_neg long] at enough ⊢
  cases named : Name.ofBytes? segment with
  | none => rfl
  | some name =>
      rw [named] at enough
      exact enter_add more enough

/-- Only walks that use up their links are other walks with more of them. -/
theorem walk_of_le {more : Nat} {segments : List Bytes} (links_le : links ≤ more)
    (enough : volume.walk follow links here segments ≠ .error .tooManyLinks) :
    volume.walk follow more here segments = volume.walk follow links here segments := by
  obtain ⟨extra, rfl⟩ := Nat.exists_eq_add_of_le links_le
  induction links, here, segments using walk_induction volume follow with
  | nil links here => rw [walk_nil, walk_nil]
  | cons links here segment rest ih =>
      rw [walk_cons] at enough
      rw [walk_cons, walk_cons, turn_add]
      · cases onward : volume.turn follow links here segment rest with
        | stop fault => rfl
        | arrive location => rfl
        | go left there segments =>
            rw [onward] at enough
            exact ih left there segments onward enough (Nat.le_add_right _ _)
      · intro stopped
        rw [stopped] at enough
        exact enough rfl

/-! ## The last segment -/

/-- What is done at a name depends on what stands there. -/
theorem turn_name {name : Name} (folder : volume.isFolderAt here = true)
    (short : name.bytes.length ≤ nameLimit) :
    volume.turn follow links here name.bytes rest =
      enter follow links (name :: here) rest (volume.node? (name :: here)) := by
  simp [turn, folder, name.ne_up, Nat.not_lt.mpr short]

theorem turn_outside (outside : volume.isFolderAt here = false) :
    volume.turn follow links here segment rest = .stop .notDirectory := by
  simp [turn, outside]

/-- A walk along a segment starts in a folder if it leads anywhere. -/
theorem isFolderAt_of_walk_cons {there : Location}
    (reached : volume.walk follow links here (segment :: rest) = .ok there) :
    volume.isFolderAt here = true := by
  cases folder : volume.isFolderAt here with
  | true => rfl
  | false => simp [walk_cons, turn_outside folder] at reached

theorem turn_long {name : Name} (long : nameLimit < name.bytes.length)
    (folder : volume.isFolderAt here = true) :
    volume.turn follow links here name.bytes rest = .stop .nameTooLong := by
  simp [turn, folder, name.ne_up, long]

/-- A path ends where a name is too long or nothing stands. -/
theorem of_walk_name {name : Name} {there : Location}
    (reached : volume.walk follow links here (name.bytes :: rest) = .ok there) :
    name.bytes.length ≤ nameLimit ∧ (volume.node? (name :: here)).isSome = true := by
  have folder := isFolderAt_of_walk_cons reached
  rw [walk_cons] at reached
  rcases Nat.lt_or_ge nameLimit name.bytes.length with long | short
  · rw [turn_long long folder] at reached
    cases reached
  · refine ⟨short, ?_⟩
    rw [turn_name folder short] at reached
    cases standing : volume.node? (name :: here) with
    | none => simp [standing, enter] at reached
    | some node => rfl

/-- A file ends every path that comes upon it. -/
theorem walk_file {name : Name} {mode : Nat} {content : Bytes}
    (folder : volume.isFolderAt here = true) (short : name.bytes.length ≤ nameLimit)
    (standing : volume.node? (name :: here) = some (.file mode content)) :
    volume.walk true links here (name.bytes :: rest) =
      if rest = [] then .ok (name :: here) else .error .notDirectory := by
  rw [walk_cons, turn_name folder short, standing]
  simp only [enter]
  cases rest with
  | nil => rw [walk_nil, if_pos rfl]
  | cons segment rest =>
      have outside : volume.isFolderAt (name :: here) = false := by
        rw [isFolderAt, standing]
        rfl
      rw [walk_cons, turn_outside outside, if_neg (List.cons_ne_nil _ _)]

theorem walk_single_of_filler (filler : Path.isFiller segment = true) :
    volume.walk follow links here [segment] =
      if volume.isFolderAt here then .ok here else .error .notDirectory := by
  cases folder : volume.isFolderAt here <;> simp [walk_cons, turn, folder, filler, walk_nil]

theorem walk_replicate_filler (filler : Path.isFiller segment = true)
    (folder : volume.isFolderAt here = true) (count : Nat) :
    volume.walk follow links here (List.replicate count segment ++ rest) =
      volume.walk follow links here rest := by
  induction count with
  | zero => rfl
  | succ count ih =>
      rw [List.replicate_succ, List.cons_append, walk_cons]
      simp [turn, folder, filler, ih]

/-- Filler behind a path asks for a folder. -/
theorem walk_concat_of_filler (filler : Path.isFiller segment = true) {there : Location}
    {front : List Bytes} :
    volume.walk follow links here (front ++ [segment]) = .ok there ↔
      volume.walk true links here front = .ok there ∧ volume.isFolderAt there = true := by
  cases reached : volume.walk true links here front with
  | error fault =>
      rw [walk_append_error (List.cons_ne_nil _ _) reached]
      simp
  | ok place =>
      obtain ⟨left, -, same⟩ := walk_append reached
      rw [same follow [segment] (List.cons_ne_nil _ _), walk_single_of_filler filler]
      cases folder : volume.isFolderAt place with
      | true =>
          simp only [if_true, Except.ok.injEq]
          exact ⟨fun equal => ⟨equal, equal ▸ folder⟩, fun both => both.1⟩
      | false =>
          simp only [Bool.false_eq_true, if_false, Except.ok.injEq, reduceCtorEq, false_iff]
          rintro ⟨rfl, folder'⟩
          simp [folder] at folder'

/-- A slash behind a path asks for a folder. -/
theorem walk_concat_filler {there : Location} {front : List Bytes} :
    volume.walk follow links here (front ++ [[]]) = .ok there ↔
      volume.walk true links here front = .ok there ∧ volume.isFolderAt there = true :=
  walk_concat_of_filler rfl

/-- A walk that ends in a name goes through the folder that the segments before it lead to. -/
theorem walk_concat_name {there : Location} {front : List Bytes} {name : Name}
    (reached : volume.walk follow links here (front ++ [name.bytes]) = .ok there) :
    ∃ folder, volume.walk true links here (front ++ [[]]) = .ok folder ∧
      name.bytes.length ≤ nameLimit ∧ (volume.node? (name :: folder)).isSome = true := by
  cases before : volume.walk true links here front with
  | error fault =>
      rw [walk_append_error (List.cons_ne_nil _ _) before] at reached
      cases reached
  | ok folder =>
      obtain ⟨left, -, same⟩ := walk_append before
      rw [same follow [name.bytes] (List.cons_ne_nil _ _)] at reached
      exact ⟨folder, walk_concat_filler.mpr ⟨before, isFolderAt_of_walk_cons reached⟩,
        of_walk_name reached⟩

end Volume
end CardKeeper

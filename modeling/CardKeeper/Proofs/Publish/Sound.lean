import Mathlib
import CardKeeper.Proofs.Publish.Writer

/-!
# What writers know of each other

Writers that take turns in any order do not disturb each other.  Every draft is a file of its own
where nothing stood, so the volume is known at each moment: at a draft stands what its writer has
appended so far, and everywhere else what stood there at the start or the whole data of the last
writer whose draft took the place of that entry.  This is the invariant `Sound`, which every turn
keeps: `Sound.run`.

Nobody looks after the drafts of the others.  All that is asked for is that no draft is named like a
file that is published.
-/

namespace CardKeeper

namespace Publish

open Volume

variable {calls : List Publication} {call other : Publication} {start : Volume}
  {progress : Progress} {writer : Nat} {location draft : Location}

namespace Publication

/-- The path of a publication asks for an entry of a folder at which a file or nothing stands. -/
def IsPlain (call : Publication) (volume : Volume) : Prop :=
  ∃ name above, volume.EntryAt call.path name above ∧
    (volume.node? (name :: above) = none ∨
      ∃ mode content, volume.node? (name :: above) = some (.file mode content))

/-- Whether a publication is to replace the entry at a location. -/
def isOn (volume : Volume) (location : Location) (call : Publication) : Bool :=
  destination volume call.path = .ok location

/-- There is room for the draft of a publication. -/
def Fits (call : Publication) (volume : Volume) : Prop :=
  HasRoom call.naming (folderOf call.path) volume

theorem isOn_iff : call.isOn start location = true ↔
    destination start call.path = .ok location := by
  simp [isOn]

/-- What is known of the entry that a plain publication replaces. -/
theorem IsPlain.of_isOn (plain : call.IsPlain start) (on : call.isOn start location = true) :
    ∃ name above, location = name :: above ∧ start.EntryAt call.path name above ∧
      start.Site name above ∧
      (start.node? location = none ∨
        ∃ mode content, start.node? location = some (.file mode content)) := by
  obtain ⟨name, above, rfl, entry, -⟩ := destination_eq_ok_iff.mp (isOn_iff.mp on)
  obtain ⟨_, _, own, stands⟩ := plain
  obtain ⟨rfl, rfl⟩ := entry.unique own
  refine ⟨_, _, rfl, entry, Replaceable.site ?_ entry, stands⟩
  rcases stands with nothing | ⟨mode, content, file⟩
  · exact .inr (entry.read_none nothing)
  · exact .inl ⟨content, entry.read_file file⟩

theorem IsPlain.exists_isOn (plain : call.IsPlain start) :
    ∃ location, call.isOn start location = true := by
  obtain ⟨name, above, entry, stands⟩ := plain
  refine ⟨name :: above, isOn_iff.mpr (destination_eq_ok_iff.mpr ⟨name, above, rfl, entry, ?_⟩)⟩
  rcases stands with nothing | ⟨mode, content, file⟩
  · simp [isFolderAt, nothing]
  · simp [isFolderAt, file, Node.isFolder]

end Publication

/-- No draft is named like a file that is published. -/
def DraftsApart (calls : List Publication) : Prop :=
  ∀ call ∈ calls, ∀ other ∈ calls, ∀ taken,
    other.path.fileName? ≠ some (call.naming.pick taken).bytes

/-- The publication on a location whose draft was the last to take its place. -/
def lastOn (calls : List Publication) (start : Volume) (location : Location)
    (renamed : List Nat) : Option Publication :=
  renamed.findSome? fun writer => calls[writer]?.filter (·.isOn start location)

/-- What stands at a location where there is no draft. -/
def standing (calls : List Publication) (start : Volume) (location : Location)
    (renamed : List Nat) : Option Node :=
  match lastOn calls start location renamed with
  | some call => some (.file (start.modeFor call.path) call.data)
  | none => start.node? location

theorem of_lastOn {renamed : List Nat}
    (last : lastOn calls start location renamed = some call) :
    call.isOn start location = true ∧ ∃ writer ∈ renamed, calls[writer]? = some call := by
  obtain ⟨writer, member, found⟩ := List.exists_of_findSome?_eq_some last
  obtain ⟨at_writer, on⟩ := Option.filter_eq_some_iff.mp found
  exact ⟨on, writer, member, at_writer⟩

theorem mem_of_lastOn {renamed : List Nat}
    (last : lastOn calls start location renamed = some call) : call ∈ calls := by
  obtain ⟨-, writer, -, found⟩ := of_lastOn last
  exact List.mem_of_getElem? found

theorem exists_lastOn {renamed : List Nat} (member : writer ∈ renamed)
    (found : calls[writer]? = some call) (on : call.isOn start location = true) :
    ∃ other, lastOn calls start location renamed = some other := by
  rw [← Option.isSome_iff_exists, lastOn, List.findSome?_isSome_iff]
  exact ⟨writer, member, by simp [found, on]⟩

theorem standing_of_forall {renamed : List Nat}
    (nobody : ∀ call ∈ calls, call.isOn start location = false) :
    standing calls start location renamed = start.node? location := by
  unfold standing
  cases last : lastOn calls start location renamed with
  | none => rfl
  | some call =>
      have on := (of_lastOn last).1
      simp [nobody call (mem_of_lastOn last)] at on

theorem standing_cons (found : calls[writer]? = some call) (renamed : List Nat) :
    standing calls start location (writer :: renamed) =
      if call.isOn start location then some (.file (start.modeFor call.path) call.data)
      else standing calls start location renamed := by
  unfold standing lastOn
  rw [List.findSome?_cons, found, Option.filter_some]
  cases call.isOn start location <;> rfl

/-! ## What a stage says -/

/-- What a stage says of the writer and of its draft. -/
def Suits (start volume : Volume) (call : Publication) : Stage → Prop
  | .waiting => True
  | .looked kept => kept.getD Node.fileMode = start.modeFor call.path
  | .writing kept draft rest =>
      kept.getD Node.fileMode = start.modeFor call.path ∧ call.Fits start ∧
        ∃ written, written ++ rest = call.data ∧
          volume.node? draft = some (.file Node.fileMode written)
  | .written draft =>
      call.Fits start ∧ volume.node? draft = some (.file (start.modeFor call.path) call.data)
  | .undoing _ _ => False
  | .replaced => call.Fits start
  | .failed _ => ¬call.Fits start

/-- A stage says nothing of what is not its draft. -/
theorem Suits.congr {before after : Volume} {stage : Stage} (suits : Suits start before call stage)
    (same : ∀ draft, stage.draft? = some draft → after.node? draft = before.node? draft) :
    Suits start after call stage := by
  cases stage with
  | waiting | looked | replaced | failed => exact suits
  | undoing draft fault => exact suits.elim
  | writing kept draft rest =>
      obtain ⟨keeps, fits, written, whole, stands⟩ := suits
      exact ⟨keeps, fits, written, whole, (same draft rfl).trans stands⟩
  | written draft =>
      obtain ⟨fits, stands⟩ := suits
      exact ⟨fits, (same draft rfl).trans stands⟩

/-- A draft is a file. -/
theorem Suits.file {volume : Volume} {stage : Stage} (suits : Suits start volume call stage)
    (own : stage.draft? = some draft) :
    ∃ mode content, volume.node? draft = some (.file mode content) := by
  cases stage with
  | waiting | looked | replaced | failed => cases own
  | undoing place fault => exact suits.elim
  | writing kept place rest =>
      cases own
      obtain ⟨-, -, written, -, stands⟩ := suits
      exact ⟨_, written, stands⟩
  | written place =>
      cases own
      exact ⟨_, _, suits.2⟩

/-! ## The invariant -/

/-- A place for a draft: nothing stood there at the start, and nobody is to publish there. -/
structure IsDraftPlace (calls : List Publication) (start : Volume) (draft : Location) : Prop where
  below : draft ≠ []
  fresh : start.node? draft = none
  aside : ∀ call ∈ calls, call.isOn start draft = false

/-- What is known after any turns. -/
structure Sound (calls : List Publication) (start : Volume) (progress : Progress) : Prop where
  /-- Relative paths start where they did. -/
  current : progress.volume.current = start.current
  /-- Each writer and its draft are as its stage says. -/
  suits : ∀ writer call, calls[writer]? = some call →
    Suits start progress.volume call (progress.stage writer)
  /-- Nobody else is at work. -/
  idle : ∀ writer, calls[writer]? = none → progress.stage writer = .waiting
  /-- Drafts are in places of their own. -/
  places : ∀ writer draft, (progress.stage writer).draft? = some draft →
    IsDraftPlace calls start draft
  /-- No two writers share a draft. -/
  apart : ∀ left right draft, (progress.stage left).draft? = some draft →
    (progress.stage right).draft? = some draft → left = right
  /-- Away from the drafts everything is as at the start or as published. -/
  stands : ∀ location, (∀ writer, (progress.stage writer).draft? ≠ some location) →
    progress.volume.node? location = standing calls start location progress.renamed
  /-- The writers whose drafts have taken their places are known. -/
  logged : ∀ writer, writer ∈ progress.renamed ↔ progress.stage writer = .replaced

namespace Sound

theorem of_start (calls : List Publication) (start : Volume) :
    Sound calls start (.start start) where
  current := rfl
  suits _ _ _ := trivial
  idle _ _ := rfl
  places _ _ own := nomatch own
  apart _ _ _ own := nomatch own
  stands _ _ := rfl
  logged writer := by simp [Progress.start]

/-- The drafts and the published files are laid over sites. -/
theorem overlays (sound : Sound calls start progress)
    (plain : ∀ call ∈ calls, call.IsPlain start) : progress.volume.Overlays start where
  current := sound.current
  cases location := by
    by_cases drafted : ∃ writer, (progress.stage writer).draft? = some location
    · obtain ⟨writer, own⟩ := drafted
      have place := sound.places writer location own
      cases location with
      | nil => exact absurd rfl place.below
      | cons name above =>
          cases found : calls[writer]? with
          | none =>
              rw [sound.idle writer found] at own
              cases own
          | some call =>
              exact .inr ⟨name, above, rfl, .of_fresh place.fresh,
                (sound.suits writer call found).file own⟩
    · rw [sound.stands location fun writer own => drafted ⟨writer, own⟩, standing]
      cases last : lastOn calls start location progress.renamed with
      | none => exact .inl rfl
      | some call =>
          obtain ⟨name, above, shape, -, site, -⟩ :=
            (plain call (mem_of_lastOn last)).of_isOn (of_lastOn last).1
          exact .inr ⟨name, above, shape, site, _, _, rfl⟩

/-- At an entry that is published stands a file or nothing, as at the start or as published. -/
theorem node?_of_isOn (sound : Sound calls start progress) (member : call ∈ calls)
    (on : call.isOn start location = true) :
    progress.volume.node? location = standing calls start location progress.renamed := by
  refine sound.stands location fun writer own => ?_
  simp [(sound.places writer location own).aside call member] at on

/-- Permissions that belong to what is published have not changed. -/
theorem modeFor_eq (sound : Sound calls start progress)
    (plain : ∀ call ∈ calls, call.IsPlain start) (member : call ∈ calls) :
    progress.volume.modeFor call.path = start.modeFor call.path := by
  obtain ⟨location, on⟩ := (plain call member).exists_isOn
  obtain ⟨name, above, rfl, entry, -, early⟩ := (plain call member).of_isOn on
  have later := (sound.overlays plain).entryAt_iff.mpr entry
  have here := sound.node?_of_isOn member on
  rw [entry.modeFor_eq early]
  unfold standing at here
  cases last : lastOn calls start (name :: above) progress.renamed with
  | none =>
      rw [last] at here
      rw [later.modeFor_eq (here ▸ early), modeReached, modeReached, here]
  | some other =>
      rw [last] at here
      obtain ⟨_, _, shape, own, -⟩ :=
        (plain other (mem_of_lastOn last)).of_isOn (of_lastOn last).1
      cases shape
      rw [later.modeFor_eq (.inr ⟨_, _, here⟩), modeReached, here, ← own.modeFor_eq early]
      rfl

/-! ## What a turn keeps -/

/-- A turn keeps what is known if it suits its own writer and spares the drafts of the others. -/
theorem step (sound : Sound calls start progress) (found : calls[writer]? = some call)
    {stage : Stage} {after : Volume} {renamed : List Nat}
    (current : after.current = progress.volume.current) (suits : Suits start after call stage)
    (place : ∀ draft, stage.draft? = some draft → IsDraftPlace calls start draft ∧
      ∀ other, other ≠ writer → (progress.stage other).draft? ≠ some draft)
    (spared : ∀ other, other ≠ writer → ∀ draft, (progress.stage other).draft? = some draft →
      after.node? draft = progress.volume.node? draft)
    (stands : ∀ location,
      (∀ other, other ≠ writer → (progress.stage other).draft? ≠ some location) →
        stage.draft? ≠ some location →
          after.node? location = standing calls start location renamed)
    (logged : ∀ other, other ∈ renamed ↔
      Function.update progress.stage writer stage other = .replaced) :
    Sound calls start ⟨after, Function.update progress.stage writer stage, renamed⟩ := by
  have own : Function.update progress.stage writer stage writer = stage :=
    Function.update_self _ _ _
  have theirs (other : Nat) (differs : other ≠ writer) :
      Function.update progress.stage writer stage other = progress.stage other :=
    Function.update_of_ne differs _ _
  refine ⟨current.trans sound.current, fun other their at_other => ?_, fun other nobody => ?_,
    fun other draft drafted => ?_, fun left right draft onLeft onRight => ?_,
    fun location free => ?_, logged⟩
  · by_cases same : other = writer
    · subst same
      rw [found] at at_other
      cases at_other
      simpa only [own] using suits
    · simp only [theirs other same]
      exact (sound.suits other their at_other).congr (spared other same)
  · have differs : other ≠ writer := fun same => by simp [← same, nobody] at found
    exact (theirs other differs).trans (sound.idle other nobody)
  · by_cases same : other = writer
    · subst same
      exact (place draft (by simpa only [own] using drafted)).1
    · exact sound.places other draft (by simpa only [theirs other same] using drafted)
  · by_cases isLeft : left = writer <;> by_cases isRight : right = writer
    · rw [isLeft, isRight]
    · simp only [isLeft, own, theirs right isRight] at onLeft onRight
      exact absurd onRight ((place draft onLeft).2 right isRight)
    · simp only [isRight, own, theirs left isLeft] at onLeft onRight
      exact absurd onLeft ((place draft onRight).2 left isLeft)
    · simp only [theirs left isLeft, theirs right isRight] at onLeft onRight
      exact sound.apart left right draft onLeft onRight
  · refine stands location (fun other differs drafted => ?_) fun drafted => ?_
    · exact free other (by simpa only [theirs other differs] using drafted)
    · exact free writer (by simpa only [own] using drafted)

theorem logged_update (sound : Sound calls start progress) {stage : Stage}
    (before : progress.stage writer ≠ .replaced) (after : stage ≠ .replaced) (other : Nat) :
    other ∈ progress.renamed ↔ Function.update progress.stage writer stage other = .replaced := by
  rw [sound.logged]
  by_cases same : other = writer
  · simp [same, before, after]
  · simp [same]

/-- A turn of a writer that has no draft, and makes none, keeps what is known. -/
theorem step_aside (sound : Sound calls start progress) (found : calls[writer]? = some call)
    {stage : Stage} (before : (progress.stage writer).draft? = none)
    (unlogged : progress.stage writer ≠ .replaced) (after : stage.draft? = none)
    (unfinished : stage ≠ .replaced) (suits : Suits start progress.volume call stage) :
    Sound calls start
      ⟨progress.volume, Function.update progress.stage writer stage, progress.renamed⟩ := by
  refine sound.step found rfl suits (fun draft own => ?_) (fun _ _ _ _ => rfl)
    (fun location free _ => ?_) (sound.logged_update unlogged unfinished)
  · simp [after] at own
  · refine sound.stands location fun other own => ?_
    by_cases same : other = writer
    · simp [same, before] at own
    · exact free other same own

/-- A turn that only writes the draft of its own writer keeps what is known. -/
theorem step_draft (sound : Sound calls start progress) (found : calls[writer]? = some call)
    {stage : Stage} (unlogged : progress.stage writer ≠ .replaced)
    (mine : ∀ place, (progress.stage writer).draft? = some place → place = draft)
    (after : stage.draft? = some draft) (place : IsDraftPlace calls start draft)
    (free : ∀ other, other ≠ writer → (progress.stage other).draft? ≠ some draft)
    {mode : Nat} {content : Bytes}
    (suits : Suits start (progress.volume.put draft (.file mode content)) call stage) :
    Sound calls start ⟨progress.volume.put draft (.file mode content),
      Function.update progress.stage writer stage, progress.renamed⟩ := by
  have unfinished : stage ≠ .replaced := by
    rintro rfl
    cases after
  refine sound.step found rfl suits (fun theirs own => ?_) (fun other differs theirs own => ?_)
    (fun location others notMine => ?_) (sound.logged_update unlogged unfinished)
  · rw [after] at own
    cases own
    exact ⟨place, free⟩
  · have elsewhere : theirs ≠ draft := fun same => free other differs (same ▸ own)
    rw [node?_put_of_ne place.below elsewhere]
  · have elsewhere : location ≠ draft := fun same => notMine (same ▸ after)
    rw [node?_put_of_ne place.below elsewhere]
    refine sound.stands location fun other own => ?_
    by_cases same : other = writer
    · exact elsewhere (mine location (same ▸ own))
    · exact others other same own

/-- A draft that takes the place of its entry keeps what is known. -/
theorem step_replaced (sound : Sound calls start progress) (found : calls[writer]? = some call)
    (written : progress.stage writer = .written draft)
    (on : call.isOn start location = true) (below : location ≠ []) :
    Sound calls start
      ⟨(progress.volume.erase draft).put location
          (.file (start.modeFor call.path) call.data),
        Function.update progress.stage writer .replaced, writer :: progress.renamed⟩ := by
  have own : (progress.stage writer).draft? = some draft := by rw [written]; rfl
  have place := sound.places writer draft own
  have fits : call.Fits start := by
    have suits := sound.suits writer call found
    rw [written] at suits
    exact suits.1
  have member := List.mem_of_getElem? found
  refine sound.step found rfl fits (fun _ drafted => nomatch drafted)
    (fun other differs theirs drafted => ?_) (fun target others _ => ?_) (fun other => ?_)
  · have aside := (sound.places other theirs drafted).aside call member
    have elsewhere : theirs ≠ location := by
      rintro rfl
      simp [aside] at on
    have notMine : theirs ≠ draft := by
      rintro rfl
      exact differs (sound.apart other writer theirs drafted own)
    rw [node?_put_of_ne below elsewhere, node?_erase _ _ _ place.below, if_neg notMine]
  · rw [standing_cons found, node?_put _ _ _ _ below, node?_erase _ _ _ place.below]
    by_cases here : target = location
    · rw [if_pos here, here, if_pos on]
    have off : call.isOn start target = false := by
      rw [Bool.eq_false_iff, ne_eq, Publication.isOn_iff]
      intro there
      rw [Publication.isOn_iff.mp on] at there
      cases there
      exact here rfl
    rw [if_neg here, off, if_neg Bool.false_ne_true]
    by_cases gone : target = draft
    · -- Where the draft was, nothing stands again, as at the start.
      rw [if_pos gone, gone, standing_of_forall place.aside, place.fresh]
    · rw [if_neg gone]
      refine sound.stands target fun other drafted => ?_
      by_cases same : other = writer
      · rw [same, own] at drafted
        cases drafted
        exact gone rfl
      · exact others other same drafted
  · rw [List.mem_cons, sound.logged]
    by_cases same : other = writer
    · simp [same]
    · simp [same]

/-- A spare name leads to a place for a draft, which nobody else has. -/
theorem draftPlace (sound : Sound calls start progress)
    (plain : ∀ call ∈ calls, call.IsPlain start) (apart : DraftsApart calls)
    (member : call ∈ calls) {name : Name} {above : Location}
    (spare : spareName call.naming (folderOf call.path) call.path progress.volume =
      .ok (name, above)) :
    IsDraftPlace calls start (name :: above) ∧
      ∀ other, (progress.stage other).draft? ≠ some (name :: above) := by
  have fresh := fresh_of_spareName spare
  obtain ⟨-, -, taken, picked, -⟩ := of_spareName spare
  have free (other : Nat) : (progress.stage other).draft? ≠ some (name :: above) := by
    intro own
    cases found : calls[other]? with
    | none =>
        rw [sound.idle other found] at own
        cases own
    | some call =>
        obtain ⟨mode, content, file⟩ := (sound.suits other call found).file own
        rw [fresh] at file
        cases file
  have aside (goal : Publication) (wanted : goal ∈ calls) :
      goal.isOn start (name :: above) = false := by
    rw [Bool.eq_false_iff]
    intro on
    obtain ⟨_, _, shape, entry, -⟩ := (plain goal wanted).of_isOn on
    cases shape
    refine apart call member goal wanted taken ?_
    rw [entry.fileName?_eq, picked]
  refine ⟨⟨List.cons_ne_nil _ _, ?_, aside⟩, free⟩
  rw [← fresh, sound.stands _ free, standing_of_forall aside]

section Turn

variable (sound : Sound calls start progress) (plain : ∀ call ∈ calls, call.IsPlain start)
  (apart : DraftsApart calls) (found : calls[writer]? = some call) (size : Nat)

include sound plain found

theorem turn_waiting (stage : progress.stage writer = .waiting) :
    Sound calls start (progress.turn calls writer size) := by
  have keeps := (getD_keptMode? progress.volume call.path).trans
    (sound.modeFor_eq plain (List.mem_of_getElem? found))
  simp only [Progress.turn, found, stage, advance]
  exact sound.step_aside found (by rw [stage]; rfl) (by simp [stage]) rfl (by simp) keeps

include apart in
/-- A writer makes its draft, or finds that there is no room for it. -/
theorem turn_looked {kept : Option Nat} (stage : progress.stage writer = .looked kept) :
    Sound calls start (progress.turn calls writer size) := by
  have member := List.mem_of_getElem? found
  have overlays := sound.overlays plain
  have suits := sound.suits writer call found
  rw [stage] at suits
  simp only [Progress.turn, found, stage, advance]
  cases spare : spareName call.naming (folderOf call.path) call.path progress.volume with
  | error fault =>
      have full : ¬call.Fits start := by
        rw [Publication.Fits, ← hasRoom_overlay overlays, ← exists_spareName_iff call.path]
        rintro ⟨draft, other⟩
        rw [spare] at other
        cases other
      exact sound.step_aside found (by rw [stage]; rfl) (by simp [stage]) rfl (by simp) full
  | ok draft =>
      obtain ⟨name, above⟩ := draft
      have fits : call.Fits start :=
        (hasRoom_overlay overlays).mp ((exists_spareName_iff call.path).mp ⟨_, spare⟩)
      obtain ⟨place, free⟩ := sound.draftPlace plain apart member spare
      refine sound.step_draft found (by simp [stage]) (fun place own => ?_) rfl place
        (fun other _ => free other) ⟨suits, fits, [], rfl, ?_⟩
      · rw [stage] at own
        cases own
      · rw [node?_put_self place.below, Node.newMode_usualMask]

omit plain in
/-- A writer adds to its draft, or gives it its permissions. -/
theorem turn_writing {kept : Option Nat} {rest : Bytes}
    (stage : progress.stage writer = .writing kept draft rest) :
    Sound calls start (progress.turn calls writer size) := by
  have own : (progress.stage writer).draft? = some draft := by rw [stage]; rfl
  have place := sound.places writer draft own
  have mine (other : Location) (also : (progress.stage writer).draft? = some other) :
      other = draft := by
    rw [own] at also
    exact (Option.some.inj also).symm
  have free (other : Nat) (differs : other ≠ writer) :
      (progress.stage other).draft? ≠ some draft :=
    fun also => differs (sound.apart other writer draft also own)
  have unlogged : progress.stage writer ≠ .replaced := by simp [stage]
  have suits := sound.suits writer call found
  rw [stage] at suits
  obtain ⟨keeps, fits, written, whole, stands⟩ := suits
  simp only [Progress.turn, found, stage, advance]
  split
  · next nothing =>
      rw [List.isEmpty_iff] at nothing
      rw [nothing, List.append_nil] at whole
      rw [setMode_eq place.below stands, keeps, whole]
      refine sound.step_draft found unlogged mine rfl place free ⟨fits, ?_⟩
      rw [node?_put_self place.below]
  · rw [append_eq stands]
    refine sound.step_draft found unlogged mine rfl place free
      ⟨keeps, fits, written ++ rest.take size, ?_, ?_⟩
    · rw [List.append_assoc, List.take_append_drop, whole]
    · rw [node?_put_self place.below]

/-- The draft of a writer takes the place of its entry, and nothing can keep it from that. -/
theorem turn_written (stage : progress.stage writer = .written draft) :
    Sound calls start (progress.turn calls writer size) := by
  obtain ⟨location, on⟩ := (plain call (List.mem_of_getElem? found)).exists_isOn
  obtain ⟨name, above, rfl, -⟩ := (plain call (List.mem_of_getElem? found)).of_isOn on
  have asked := (destination_overlay (sound.overlays plain)).mpr (Publication.isOn_iff.mp on)
  have suits := sound.suits writer call found
  rw [stage] at suits
  have replaced : replace draft call.path progress.volume =
      .ok ((progress.volume.erase draft).put (name :: above)
        (.file (start.modeFor call.path) call.data)) := by
    simp only [replace, asked, Except.bind, suits.2]
  simp only [Progress.turn, found, stage, advance, replaced]
  exact sound.step_replaced found stage on (List.cons_ne_nil _ _)

end Turn

/-- Every turn keeps what is known. -/
theorem turn (sound : Sound calls start progress) (plain : ∀ call ∈ calls, call.IsPlain start)
    (apart : DraftsApart calls) (writer size : Nat) :
    Sound calls start (progress.turn calls writer size) := by
  cases found : calls[writer]? with
  | none => simpa only [Progress.turn, found] using sound
  | some call =>
      cases stage : progress.stage writer with
      | waiting => exact sound.turn_waiting plain found size stage
      | looked kept => exact sound.turn_looked plain apart found size stage
      | writing kept draft rest => exact sound.turn_writing found size stage
      | written draft => exact sound.turn_written plain found size stage
      | undoing draft fault =>
          have suits := sound.suits writer call found
          rw [stage] at suits
          exact suits.elim
      | replaced =>
          have same := Function.update_eq_self writer progress.stage
          rw [stage] at same
          simpa only [Progress.turn, found, stage, advance, same] using sound
      | failed fault =>
          have same := Function.update_eq_self writer progress.stage
          rw [stage] at same
          simpa only [Progress.turn, found, stage, advance, same] using sound

/-- Every schedule keeps what is known. -/
theorem run (sound : Sound calls start progress) (plain : ∀ call ∈ calls, call.IsPlain start)
    (apart : DraftsApart calls) (schedule : List (Nat × Nat)) :
    Sound calls start (progress.run calls schedule) := by
  induction schedule generalizing progress with
  | nil => exact sound
  | cons next rest ih => exact ih (sound.turn plain apart next.1 next.2)

end Sound
end Publish
end CardKeeper

import Mathlib
import CardKeeper.Proofs.Activity
import CardKeeper.Proofs.Publish
import CardKeeper.Thumbnail

/-!
# A thumbnail is published when it is finished, or not at all

The tools are only known not to change anything but the file they are given to write.  Whatever they
make of the staging file, no other entry changes before the finished picture is published: `Staged`
is what both tools preserve.  The staging file goes away however the work ends, so that a failure
leaves the volume as it was: `generate_publishes_finished`.
-/

namespace CardKeeper

namespace Volume

/-- If a path asks for an entry, there is a file or nothing at it. -/
def IsPlain (volume : Volume) (path : Path) : Prop :=
  ∀ name above, volume.EntryAt path name above →
    volume.node? (name :: above) = none ∨
      ∃ mode content, volume.node? (name :: above) = some (.file mode content)

/-- A volume differs from an earlier one at most in the file that a path asks for. -/
structure ChangesOnly (path : Path) (before after : Volume) : Prop where
  current : after.current = before.current
  plain : ∀ name above, before.EntryAt path name above →
    after.node? (name :: above) = none ∨
      ∃ mode content, after.node? (name :: above) = some (.file mode content)
  frame : ∀ location, (∀ name above, before.EntryAt path name above → location ≠ name :: above) →
    after.node? location = before.node? location

/-- The same tree, seen from the same folder. -/
structure Same (after before : Volume) : Prop where
  current : after.current = before.current
  node? : ∀ location, after.node? location = before.node? location

end Volume

/-- A call of one of the image tools. -/
inductive ToolCall where
  | resize (source target : Path) (crop : Option Crop) (size : Size)
  | optimize (path : Path) (options : OptimizeOptions)
  deriving DecidableEq

namespace ImageTools

open Volume

/-- The tools change nothing but the file they are given to write.  They may fail, write what they
like to it, or delete it. -/
structure Confined (tools : ImageTools) : Prop where
  resize : ∀ source target crop size volume, volume.IsPlain target →
    ChangesOnly target volume (tools.resize source target crop size volume).volume
  optimize : ∀ path options volume, volume.IsPlain path →
    ChangesOnly path volume (tools.optimize path options volume).volume

/-- The tools, which tell of each call in a line and of nothing else. -/
def recording (say : ToolCall → String) (tools : ImageTools) : ImageTools where
  resize source target crop size volume :=
    { tools.resize source target crop size volume with
      notices := [.line (say (.resize source target crop size))] }
  optimize path options volume :=
    { tools.optimize path options volume with
      notices := [.line (say (.optimize path options))] }

end ImageTools

namespace ThumbnailRequest

open Volume Publish

variable {before after volume : Volume} {temporary : Path} {name : Name} {folder : Location}
  {tools : ImageTools} {request : ThumbnailRequest} {staging : Path}

/-! ## The staging file -/

/-- A volume differs from an earlier one at most in the staging file. -/
structure Staged (before : Volume) (name : Name) (folder : Location) (after : Volume) : Prop where
  current : after.current = before.current
  plain : after.node? (name :: folder) = none ∨
    ∃ mode content, after.node? (name :: folder) = some (.file mode content)
  frame : ∀ location, location ≠ name :: folder → after.node? location = before.node? location

namespace Staged

theorem put (before : Volume) (name : Name) (folder : Location) (mode : Nat) (content : Bytes) :
    Staged before name folder (before.put (name :: folder) (.file mode content)) where
  current := rfl
  plain := by
    right
    exact ⟨mode, content, by rw [node?_put_self (List.cons_ne_nil _ _)]⟩
  frame location differs := by
    rw [node?_put_of_ne (List.cons_ne_nil _ _) differs]

theorem overlays (staged : Staged before name folder after)
    (fresh : before.node? (name :: folder) = none) : after.Overlays before where
  current := staged.current
  cases location := by
    by_cases here : location = name :: folder
    · subst here
      rcases staged.plain with nothing | ⟨mode, content, file⟩
      · exact .inl (nothing.trans fresh.symm)
      · exact .inr ⟨name, folder, rfl, .of_fresh fresh, mode, content, file⟩
    · exact .inl (staged.frame location here)

/-- Where a staging file may stand, there is a file or nothing. -/
theorem isPlain (staged : Staged before name folder after)
    (only : ∀ other above, after.EntryAt staging other above → other :: above = name :: folder) :
    after.IsPlain staging := by
  intro other above entry
  rw [only other above entry]
  exact staged.plain

/-- A tool that changes only the staging file leaves a volume that differs only in it. -/
theorem step {later : Volume} (staged : Staged before name folder after)
    (only : ∀ other above, after.EntryAt staging other above → other :: above = name :: folder)
    (changes : ChangesOnly staging after later) : Staged before name folder later where
  current := changes.current.trans staged.current
  plain := by
    by_cases asked : ∃ other above, after.EntryAt staging other above
    · obtain ⟨other, above, entry⟩ := asked
      rw [← only other above entry]
      exact changes.plain other above entry
    · have kept := changes.frame (name :: folder)
        fun other above entry => absurd ⟨other, above, entry⟩ asked
      rw [kept]
      exact staged.plain
  frame location differs := by
    have kept := changes.frame location
      fun other above entry same => differs (same.trans (only other above entry))
    rw [kept, staged.frame location differs]

/-- Without the staging file the volume is what it was. -/
theorem same_erase (staged : Staged before name folder after)
    (fresh : before.node? (name :: folder) = none) :
    (after.erase (name :: folder)).Same before where
  current := staged.current
  node? location := by
    rw [node?_erase _ _ _ (List.cons_ne_nil _ _)]
    by_cases here : location = name :: folder
    · rw [if_pos here, here, fresh]
    · rw [if_neg here, staged.frame location here]

end Staged

/-! ## The steps of the work -/

theorem generate_of_fault {fault : Fault}
    (full : spareName .staging temporary request.output volume = .error fault) :
    request.generate tools temporary volume = ⟨[], volume, .error (.file temporary fault)⟩ := by
  simp only [generate, bind, Activity.andThen, Activity.demand, full, Except.mapError]

/-- With room for a staging file, the work is done on a volume with the file, which goes away. -/
theorem generate_of_room
    (found : spareName .staging temporary request.output volume = .ok (name, folder)) :
    request.generate tools temporary volume =
      Activity.cleaningUp (fun volume => volume.erase (name :: folder))
        (process tools request ((volume.absolute temporary).entry name.bytes))
        (volume.put (name :: folder) (.file stagingMode [])) := by
  simp only [generate, bind, Activity.andThen, Activity.demand, found, Except.mapError,
    Activity.look, Activity.cleaningUp, Activity.change, List.nil_append]

/-- The work stops at the first step that fails. -/
theorem process_eq (tools : ImageTools) (request : ThumbnailRequest) (staging : Path)
    (volume : Volume) :
    process tools request staging volume =
      let resized := tools.resize request.source staging request.crop? .thumbnail volume
      let told := .event (.resizing request.source .thumbnail request.crop?) :: resized.notices
      match resized.result with
      | .error error => ⟨told, resized.volume, .error (.tool error)⟩
      | .ok () =>
          let optimized := tools.optimize staging request.options resized.volume
          let told := told ++ optimized.notices
          match optimized.result with
          | .error error => ⟨told, optimized.volume, .error (.tool error)⟩
          | .ok () =>
              match optimized.volume.read staging with
              | .error fault => ⟨told, optimized.volume, .error (.file staging fault)⟩
              | .ok content =>
                  let published := publish request.output content optimized.volume
                  match published.result with
                  | .error fault =>
                      ⟨told ++ published.notices, published.volume,
                        .error (.file request.output fault)⟩
                  | .ok () =>
                      ⟨told ++ published.notices, published.volume, .ok request.output⟩ := by
  simp only [process, bind, Activity.andThen, Activity.tell, Activity.orElse, Activity.demand]
  cases resized : (tools.resize request.source staging request.crop? .thumbnail volume).result with
  | error error => simp [Except.mapError]
  | ok value =>
      simp only [Except.mapError]
      cases (tools.optimize staging request.options
          (tools.resize request.source staging request.crop? .thumbnail volume).volume).result with
      | error error => simp
      | ok value =>
          simp only
          cases (tools.optimize staging request.options
              (tools.resize request.source staging request.crop? .thumbnail
                volume).volume).volume.read staging with
          | error fault => simp
          | ok content =>
              simp only
              cases (publish request.output content (tools.optimize staging request.options
                  (tools.resize request.source staging request.crop? .thumbnail
                    volume).volume).volume).result with
              | error fault => simp
              | ok value => simp [pure, Activity.done]

/-- What fails of a request that is made is never the request. -/
theorem generate_ne_request (tools : ImageTools) (temporary : Path) (request : ThumbnailRequest)
    (volume : Volume) (wrong : RequestError) :
    (request.generate tools temporary volume).result ≠ .error (.request wrong) := by
  cases found : spareName .staging temporary request.output volume with
  | error fault =>
      rw [generate_of_fault found]
      exact nofun
  | ok draft =>
      rw [generate_of_room found, Activity.cleaningUp, process_eq]
      dsimp only
      repeat' split
      all_goals exact nofun

/-- The work has a result exactly if every step succeeds. -/
theorem process_eq_ok_iff (tools : ImageTools) (request : ThumbnailRequest) (staging : Path)
    (volume : Volume) (path : Path) :
    (process tools request staging volume).result = .ok path ↔
      let resized := tools.resize request.source staging request.crop? .thumbnail volume
      let optimized := tools.optimize staging request.options resized.volume
      path = request.output ∧ resized.result = .ok () ∧ optimized.result = .ok () ∧
        ∃ content, optimized.volume.read staging = .ok content ∧
          (publish request.output content optimized.volume).result = .ok () := by
  rw [process_eq]
  cases resizing : (tools.resize request.source staging request.crop? .thumbnail volume).result with
  | error error => simp [resizing]
  | ok value =>
      simp only [resizing, true_and]
      generalize (tools.resize request.source staging request.crop? .thumbnail volume).volume =
        middle
      cases optimizing : (tools.optimize staging request.options middle).result with
      | error error => simp
      | ok value =>
          simp only [true_and]
          generalize (tools.optimize staging request.options middle).volume = last
          cases reading : last.read staging with
          | error fault => simp
          | ok content =>
              cases publishing : (publish request.output content last).result with
              | error fault => simp [publishing]
              | ok value => simp [publishing, eq_comm]

/-- The calls of the tools that are made for a request. -/
def callsFor (request : ThumbnailRequest) (staging : Path) (resized : Bool) : List ToolCall :=
  .resize request.source staging request.crop? .thumbnail ::
    if resized then [.optimize staging request.options] else []

theorem linesOf_publish (path : Path) (content : Bytes) (volume : Volume) :
    linesOf (publish path content volume).notices = [] := by
  rw [publish, publishBy_eq]
  cases spareName .draft (folderOf path) path volume with
  | error fault => rfl
  | ok draft =>
      simp only
      split <;> rfl

/-- What the tools tell does not matter to the work. -/
theorem process_recording (say : ToolCall → String) (tools : ImageTools)
    (request : ThumbnailRequest) (staging : Path) (volume : Volume) :
    let told := process (tools.recording say) request staging volume
    let work := process tools request staging volume
    told.result = work.result ∧ told.volume = work.volume ∧
      linesOf told.notices = (callsFor request staging
        (tools.resize request.source staging request.crop? .thumbnail volume).result.isOk).map
          say := by
  simp only [process_eq, ImageTools.recording, callsFor]
  cases (tools.resize request.source staging request.crop? .thumbnail volume).result with
  | error error => exact ⟨rfl, rfl, rfl⟩
  | ok value =>
      simp only
      generalize (tools.resize request.source staging request.crop? .thumbnail volume).volume =
        middle
      cases (tools.optimize staging request.options middle).result with
      | error error => exact ⟨rfl, rfl, rfl⟩
      | ok value =>
          simp only
          generalize (tools.optimize staging request.options middle).volume = last
          cases last.read staging with
          | error fault => exact ⟨rfl, rfl, rfl⟩
          | ok content =>
              have silent := linesOf_publish request.output content last
              simp only
              cases (publish request.output content last).result with
              | error fault =>
                  refine ⟨rfl, rfl, ?_⟩
                  simp only [linesOf, List.filterMap_append] at silent ⊢
                  rw [silent]
                  rfl
              | ok value =>
                  refine ⟨rfl, rfl, ?_⟩
                  simp only [linesOf, List.filterMap_append] at silent ⊢
                  rw [silent]
                  rfl

/-! ## What the work leaves behind -/

/-- Where a staging file is made for a request. -/
structure Room (volume : Volume) (temporary : Path) (request : ThumbnailRequest) (name : Name)
    (folder : Location) : Prop where
  fresh : volume.node? (name :: folder) = none
  reached : volume.locate true (volume.absolute temporary) = .ok folder
  isFolder : volume.isFolderAt folder = true
  apart : request.output.fileName? ≠ some name.bytes

theorem room_of_spareName
    (found : spareName .staging temporary request.output volume = .ok (name, folder)) :
    Room volume temporary request name folder := by
  obtain ⟨reached, isFolder, -, -, apart⟩ := of_spareName found
  exact ⟨fresh_of_spareName found, reached, isFolder, apart⟩

namespace Room

variable (room : Room volume temporary request name folder)

include room

/-- The path of the staging file asks for no other entry while only the file itself changes. -/
theorem only (staged : Staged volume name folder after) (other : Name) (above : Location)
    (entry : after.EntryAt ((volume.absolute temporary).entry name.bytes) other above) :
    other :: above = name :: folder := by
  have early := (staged.overlays room.fresh).entryAt_iff.mp entry
  obtain ⟨rfl, rfl⟩ := eq_of_entryAt_entry room.reached room.isFolder early
  rfl

theorem staged_resize (confined : tools.Confined) (staged : Staged volume name folder after)
    (source : Path) (crop : Option Crop) (size : Size) :
    Staged volume name folder
      (tools.resize source ((volume.absolute temporary).entry name.bytes) crop size
        after).volume := by
  have only := room.only staged
  exact staged.step only (confined.resize _ _ _ _ _ (staged.isPlain only))

theorem staged_optimize (confined : tools.Confined) (staged : Staged volume name folder after)
    (options : OptimizeOptions) :
    Staged volume name folder
      (tools.optimize ((volume.absolute temporary).entry name.bytes) options after).volume := by
  have only := room.only staged
  exact staged.step only (confined.optimize _ _ _ (staged.isPlain only))

/-- Work that fails changes at most the staging file. -/
theorem staged_of_error (confined : tools.Confined) (staged : Staged volume name folder after)
    {error : ThumbnailError}
    (failed : (process tools request ((volume.absolute temporary).entry name.bytes)
      after).result = .error error) :
    Staged volume name folder
      (process tools request ((volume.absolute temporary).entry name.bytes) after).volume := by
  have resized := room.staged_resize confined staged request.source request.crop? .thumbnail
  have optimized := room.staged_optimize confined resized request.options
  rw [process_eq] at failed ⊢
  cases resizing : (tools.resize request.source
      ((volume.absolute temporary).entry name.bytes) request.crop? .thumbnail after).result with
  | error error => simpa only [resizing] using resized
  | ok value =>
      simp only [resizing] at failed ⊢
      cases optimizing : (tools.optimize ((volume.absolute temporary).entry name.bytes)
          request.options (tools.resize request.source
            ((volume.absolute temporary).entry name.bytes) request.crop? .thumbnail
              after).volume).result with
      | error error => simpa only [optimizing] using optimized
      | ok value =>
          simp only [optimizing] at failed ⊢
          split
          · exact optimized
          · next content reading =>
              simp only [reading] at failed
              split
              · next fault publishing =>
                  rw [publish, volume_of_publishBy_error publishing]
                  exact optimized
              · next publishing =>
                  simp only [publishing] at failed
                  cases failed

/-- Work that succeeds puts the content of the staging file where the output asks for it, and has
changed nothing else but the staging file. -/
theorem published_of_ok (confined : tools.Confined) (staged : Staged volume name folder after)
    {path : Path}
    (done : (process tools request ((volume.absolute temporary).entry name.bytes)
      after).result = .ok path) :
    let staging := (volume.absolute temporary).entry name.bytes
    let resized := tools.resize request.source staging request.crop? .thumbnail after
    let left := (tools.optimize staging request.options resized.volume).volume
    ∃ content other above, left.read staging = .ok content ∧
      volume.EntryAt request.output other above ∧ Staged volume name folder left ∧
      (process tools request staging after).volume =
        left.put (other :: above) (.file (left.modeFor request.output) content) := by
  have resized := room.staged_resize confined staged request.source request.crop? .thumbnail
  have optimized := room.staged_optimize confined resized request.options
  obtain ⟨-, resizing, optimizing, content, reading, publishing⟩ :=
    (process_eq_ok_iff tools request _ after path).mp done
  obtain ⟨space, other, above, entry, closed⟩ :=
    (publishBy_eq_ok_iff .draft request.output content _).mp publishing
  obtain ⟨draft, spare⟩ := (exists_spareName_iff request.output).mpr space
  have published : publishBy .draft request.output content _ = _ :=
    publishBy_of_entryAt spare entry closed
  have early := (optimized.overlays room.fresh).entryAt_iff.mp entry
  refine ⟨content, other, above, reading, early, optimized, ?_⟩
  rw [process_eq]
  simp only [resizing, optimizing, reading, publish, published]

/-- The output is not the staging file. -/
theorem output_ne {other : Name} {above : Location}
    (entry : volume.EntryAt request.output other above) : other :: above ≠ name :: folder := by
  intro same
  cases same
  exact room.apart entry.fileName?_eq

end Room

/-- Making a thumbnail publishes the finished picture, or nothing.  Without room for a staging file
no tool is called.  Otherwise the resizing tool is called once, and the optimizing one only after it
has succeeded, on the same staging file.  The output is given exactly if both succeed, the staging
file can still be read, and its content can be published.  Then the entry that the output asks for
is a file with that content, and nothing else has changed.  In every other case nothing has changed
at all, and no staging file is left. -/
theorem generate_publishes_finished (tools : ImageTools) (confined : tools.Confined)
    (say : ToolCall → String) (temporary : Path) (request : ThumbnailRequest) (volume : Volume) :
    let outcome := request.generate tools temporary volume
    let told := request.generate (tools.recording say) temporary volume
    told.result = outcome.result ∧ told.volume = outcome.volume ∧
    match spareName .staging temporary request.output volume with
    | .error fault =>
        linesOf told.notices = [] ∧ outcome.result = .error (.file temporary fault) ∧
          outcome.volume = volume
    | .ok (name, folder) =>
        let staging := (volume.absolute temporary).entry name.bytes
        let staged := volume.put (name :: folder) (.file 0o600 [])
        let crop := if request.pico8 then some ⟨128, 128, 16, 24⟩ else none
        let options := ⟨request.fast, true, true⟩
        let resized := tools.resize request.source staging crop ⟨250, 360⟩ staged
        let optimized := tools.optimize staging options resized.volume
        let left := optimized.volume
        linesOf told.notices =
            (ToolCall.resize request.source staging crop ⟨250, 360⟩ ::
              if resized.result.isOk then [.optimize staging options] else []).map say ∧
          (∀ path, outcome.result = .ok path ↔
            path = request.output ∧ resized.result = .ok () ∧ optimized.result = .ok () ∧
              ∃ content, left.read staging = .ok content ∧
                (publish request.output content left).result = .ok ()) ∧
          match outcome.result with
          | .error _ => outcome.volume.Same volume
          | .ok _ => ∃ content other above, left.read staging = .ok content ∧
              volume.EntryAt request.output other above ∧
              outcome.volume.node? (other :: above) =
                some (.file (left.modeFor request.output) content) ∧
              (∀ location, location ≠ other :: above →
                outcome.volume.node? location = volume.node? location) ∧
              outcome.volume.current = volume.current := by
  cases found : spareName .staging temporary request.output volume with
  | error fault =>
      rw [generate_of_fault found, generate_of_fault found]
      exact ⟨rfl, rfl, rfl, rfl, rfl⟩
  | ok draft =>
      obtain ⟨name, folder⟩ := draft
      have room := room_of_spareName found
      have start := Staged.put volume name folder stagingMode []
      rw [generate_of_room found, generate_of_room found]
      simp only [Activity.cleaningUp]
      obtain ⟨sameResult, sameVolume, lines⟩ := process_recording say tools request
        ((volume.absolute temporary).entry name.bytes)
        (volume.put (name :: folder) (.file stagingMode []))
      refine ⟨sameResult, by rw [sameVolume], lines, process_eq_ok_iff tools request _ _, ?_⟩
      cases ended : (process tools request ((volume.absolute temporary).entry name.bytes)
          (volume.put (name :: folder) (.file stagingMode []))).result with
      | error error => exact (room.staged_of_error confined start ended).same_erase room.fresh
      | ok path =>
          obtain ⟨content, other, above, reading, entry, staged, work⟩ :=
            room.published_of_ok confined start ended
          have differs := room.output_ne entry
          have same := staged.same_erase room.fresh
          refine ⟨content, other, above, reading, entry, ?_, fun location elsewhere => ?_, ?_⟩
          · rw [work, node?_erase _ _ _ (List.cons_ne_nil _ _), if_neg differs,
              node?_put_self (List.cons_ne_nil _ _)]
            rfl
          · rw [← same.node? location, work, node?_erase _ _ _ (List.cons_ne_nil _ _),
              node?_erase _ _ _ (List.cons_ne_nil _ _),
              node?_put_of_ne (List.cons_ne_nil _ _) elsewhere]
          · rw [work]
            exact staged.current

/-! ## Tools that write what they are told to -/

/-- Put a file with this content at the entry that a path asks for. -/
def overwrite (path : Path) (content : Bytes) : Activity ToolError Unit := fun volume =>
  match destination volume path with
  | .error fault => ⟨[], volume, .error (.unstartable "overwrite" fault)⟩
  | .ok location => ⟨[], volume.put location (.file Node.fileMode content), .ok ()⟩

/-- Tools of which each writes one content to whatever file it is given. -/
def overwriting (resized optimized : Bytes) : ImageTools where
  resize _ target _ _ := overwrite target resized
  optimize path _ := overwrite path optimized

theorem changesOnly_overwrite (content : Bytes) (plain : volume.IsPlain staging) :
    ChangesOnly staging volume (overwrite staging content volume).volume := by
  unfold overwrite
  cases found : destination volume staging with
  | error fault => exact ⟨rfl, plain, fun location outside => rfl⟩
  | ok location =>
      obtain ⟨name, above, rfl, entry, closed⟩ := destination_eq_ok_iff.mp found
      refine ⟨rfl, fun other folder asked => .inr ⟨Node.fileMode, content, ?_⟩,
        fun location outside => ?_⟩
      · obtain ⟨rfl, rfl⟩ := entry.unique asked
        rw [node?_put_self (List.cons_ne_nil _ _)]
      · rw [node?_put_of_ne (List.cons_ne_nil _ _) (outside name above entry)]

theorem confined_overwriting (resized optimized : Bytes) :
    (overwriting resized optimized).Confined where
  resize _ _ _ _ _ plain := changesOnly_overwrite resized plain
  optimize _ _ _ plain := changesOnly_overwrite optimized plain

/-- The name `t`. -/
def temporaryName : Name := ⟨[0x74], by decide⟩

/-- The name `a.png`. -/
def pictureName : Name := ⟨[0x61, 0x2E, 0x70, 0x6E, 0x67], by decide⟩

/-- A picture beside a folder for temporary files. -/
def onePicture : Volume where
  entries := [([temporaryName], .folder Node.folderMode), ([pictureName], .file 0o640 [1])]

/-- The picture is to be replaced by its own thumbnail. -/
def inPlace : ThumbnailRequest := ⟨⟨pictureName.bytes⟩, ⟨pictureName.bytes⟩, true, true⟩

/-- A picture is replaced by its thumbnail, and nothing else changes. -/
theorem generate_inPlace :
    (overwriting [2] [3]).Confined ∧
      let outcome := inPlace.generate (overwriting [2] [3]) ⟨temporaryName.bytes⟩ onePicture
      outcome.result = .ok inPlace.output ∧
        outcome.volume.node? [pictureName] = some (.file 0o640 [3]) ∧
        ∀ location, location ≠ [pictureName] →
          outcome.volume.node? location = onePicture.node? location := by
  have confined := confined_overwriting [2] [3]
  have publishes := generate_publishes_finished _ confined (fun _ => "") ⟨temporaryName.bytes⟩
    inPlace onePicture
  have found : spareName .staging ⟨temporaryName.bytes⟩ inPlace.output onePicture =
      .ok (NamePattern.staging.name 0, [temporaryName]) := by cbv
  have done : (inPlace.generate (overwriting [2] [3]) ⟨temporaryName.bytes⟩ onePicture).result =
      .ok inPlace.output := by cbv
  simp only [found, done] at publishes
  obtain ⟨-, -, -, -, content, name, above, -, entry, -, frame, -⟩ := publishes
  have asked : destination onePicture inPlace.output = .ok [pictureName] := by cbv
  obtain ⟨other, folder, place, own, -⟩ := destination_eq_ok_iff.mp asked
  obtain ⟨rfl, rfl⟩ := own.unique entry
  rw [← place] at frame
  exact ⟨confined, done, by cbv, frame⟩

end ThumbnailRequest
end CardKeeper

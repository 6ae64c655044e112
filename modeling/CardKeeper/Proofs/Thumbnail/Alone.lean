import CardKeeper.Proofs.Activity
import CardKeeper.Proofs.Thumbnail
import CardKeeper.Proofs.Volume.Reading

/-!
# What a thumbnail depends on

Tools whose work is determined by what they read finish the same picture on two volumes on which
the source reads the same: `finished?_congr`.  A request succeeds exactly if a picture is finished
and can be published, and then nothing changes but the entry that the output asks for:
`publishes_of_isOk`.
-/

namespace CardKeeper

/-! ## Tools that are determined by what they read -/

namespace Volume

/-- A path asks for an entry at which there is a file, or nothing. -/
def Offers (volume : Volume) (path : Path) : Prop :=
  volume.IsPlain path ∧ ∃ location, volume.Asks path location

end Volume

namespace ImageTools

/-- What a call of a tool comes to: whether it succeeds, and what its target holds then. -/
def made (target : Path) (outcome : Outcome ToolError Unit) : Bool × Option Bytes :=
  (outcome.result.isOk, outcome.volume.content? target)

/-- What the tools make of a target is determined by the source's path and content, by the options
and by what the target holds. -/
structure Determined (tools : ImageTools) : Prop where
  resize : ∃ work : Path → Option Bytes → Option Crop → Size → Option Bytes → Bool × Option Bytes,
    ∀ source target crop size (volume : Volume), volume.Offers target →
      made target (tools.resize source target crop size volume) =
        work source (volume.content? source) crop size (volume.content? target)
  optimize : ∃ work : OptimizeOptions → Option Bytes → Bool × Option Bytes,
    ∀ path options (volume : Volume), volume.Offers path →
      made path (tools.optimize path options volume) = work options (volume.content? path)

end ImageTools

namespace ThumbnailRequest

open Volume Publish

variable {before after volume left right : Volume} {temporary : Path} {name : Name}
  {folder : Location} {tools : ImageTools} {request : ThumbnailRequest} {staging : Path}
  {content : Bytes}

/-- What both tools have made of the staging file, if they succeed. -/
def finished? (tools : ImageTools) (request : ThumbnailRequest) (staging : Path)
    (volume : Volume) : Option Bytes :=
  let resized := tools.resize request.source staging request.crop? .thumbnail volume
  let optimized := tools.optimize staging request.options resized.volume
  if resized.result.isOk && optimized.result.isOk then optimized.volume.content? staging else none

theorem finished?_eq_some_iff : request.finished? tools staging volume = some content ↔
    let resized := tools.resize request.source staging request.crop? .thumbnail volume
    let optimized := tools.optimize staging request.options resized.volume
    resized.result = .ok () ∧ optimized.result = .ok () ∧
      optimized.volume.read staging = .ok content := by
  simp only [finished?, Option.ite_none_right_eq_some, Bool.and_eq_true, isOk_unit_iff,
    content?_eq_some_iff, and_assoc]

/-- A file at a path can be replaced, or made. -/
def Publishable (volume : Volume) (path : Path) : Prop :=
  HasRoom .draft (folderOf path) volume ∧ ∃ name above,
    volume.EntryAt path name above ∧ volume.isFolderAt (name :: above) = false

theorem publish_eq_ok_iff (path : Path) (data : Bytes) (volume : Volume) :
    (publish path data volume).result = .ok () ↔ Publishable volume path :=
  publishBy_eq_ok_iff .draft path data volume

/-- A file with some content took the place of the entry that a path asks for. -/
structure Publishes (before : Volume) (path : Path) (content : Bytes) (after : Volume) : Prop where
  /-- Relative paths start where they did. -/
  current : after.current = before.current
  /-- The path asks for an entry that is no folder. -/
  asked : ∃ name above, before.EntryAt path name above ∧
    before.isFolderAt (name :: above) = false
  /-- The file is there, with the permissions that belong there. -/
  laid : ∀ location, before.Asks path location →
    after.node? location = some (.file (before.modeReached (.ok location)) content)
  /-- Nothing else changed. -/
  frame : ∀ location, ¬ before.Asks path location →
    after.node? location = before.node? location

/-- Without links a file that is published is laid over a site. -/
theorem Publishes.overlays {path : Path} (publishes : Publishes after path content left)
    (overlays : after.Overlays before) (free : before.LinkFree []) : left.Overlays before := by
  obtain ⟨name, above, entry, closed⟩ := publishes.asked
  rw [overlays.entryAt_iff] at entry
  rw [overlays.isFolderAt_eq] at closed
  refine ⟨publishes.current.trans overlays.current, fun location => ?_⟩
  by_cases asks : after.Asks path location
  · obtain rfl := entry.eq_of_asks (overlays.asks_iff.mp asks)
    exact .inr ⟨name, above, rfl, entry.site free closed, _, content, publishes.laid _ asks⟩
  · rw [publishes.frame location asks]
    exact overlays.cases location

theorem publishable_overlay (overlays : after.Overlays before) (path : Path) :
    Publishable after path ↔ Publishable before path := by
  simp only [Publishable, hasRoom_overlay overlays, overlays.entryAt_iff, overlays.isFolderAt_eq]

theorem Staged.offers (staged : Staged before name folder after)
    (fresh : before.node? (name :: folder) = none) (entry : before.EntryAt staging name folder) :
    after.Offers staging := by
  have still := (staged.overlays fresh).entryAt_iff.mpr entry
  refine ⟨staged.isPlain fun other above asked => ?_, name :: folder, still.asks⟩
  exact still.eq_of_asks asked.asks

theorem content?_put (fresh : before.node? (name :: folder) = none)
    (entry : before.EntryAt staging name folder) (mode : Nat) (content : Bytes) :
    (before.put (name :: folder) (.file mode content)).content? staging = some content := by
  have overlays := (Staged.put before name folder mode content).overlays fresh
  exact content?_eq_some_iff.mpr ((overlays.entryAt_iff.mpr entry).read_file
    (node?_put_self (List.cons_ne_nil _ _) before _))

/-- The staging file does not matter to the permissions of an output. -/
theorem Staged.modeFor_eq {path : Path} {other : Name} {above : Location}
    (staged : Staged before name folder after) (fresh : before.node? (name :: folder) = none)
    (free : before.LinkFree []) (entry : before.EntryAt path other above)
    (closed : before.isFolderAt (other :: above) = false)
    (differs : other :: above ≠ name :: folder) :
    after.modeFor path = before.modeReached (.ok (other :: above)) := by
  have still := (staged.overlays fresh).entryAt_iff.mpr entry
  have kept := staged.frame _ differs
  rw [still.modeFor_eq (kept ▸ free.plain closed), modeReached, modeReached, kept]

namespace Room

variable (room : Room volume temporary request name folder)

include room

/-- A staging file that can be read is an entry that its path asks for. -/
theorem entryAt_of_content (staged : Staged volume name folder after)
    (some : after.content? ((volume.absolute temporary).entry name.bytes) = some content) :
    volume.EntryAt ((volume.absolute temporary).entry name.bytes) name folder := by
  obtain ⟨location, mode, found, -⟩ := read_eq_ok_iff.mp (content?_eq_some_iff.mp some)
  obtain ⟨above, -, -, entry, -⟩ := entryAt_of_locate (bytes_ne_nil_of_locate room.reached) found
  have early := (staged.overlays room.fresh).entryAt_iff.mp entry
  obtain ⟨-, rfl⟩ := eq_of_entryAt_entry room.reached room.isFolder early
  exact early

theorem staged_finished (confined : tools.Confined) :
    let staging := (volume.absolute temporary).entry name.bytes
    let start := volume.put (name :: folder) (.file stagingMode [])
    let resized := tools.resize request.source staging request.crop? .thumbnail start
    Staged volume name folder start ∧ Staged volume name folder resized.volume ∧
      Staged volume name folder (tools.optimize staging request.options resized.volume).volume := by
  have start := Staged.put volume name folder stagingMode []
  have resized := room.staged_resize confined start request.source request.crop? .thumbnail
  exact ⟨start, resized, room.staged_optimize confined resized request.options⟩

/-- Nothing is finished in a staging file whose path cannot be used. -/
theorem finished?_eq_none (confined : tools.Confined)
    (outside : ¬ volume.EntryAt ((volume.absolute temporary).entry name.bytes) name folder) :
    request.finished? tools ((volume.absolute temporary).entry name.bytes)
      (volume.put (name :: folder) (.file stagingMode [])) = none := by
  obtain ⟨-, -, staged⟩ := room.staged_finished confined
  cases finished : request.finished? tools ((volume.absolute temporary).entry name.bytes)
      (volume.put (name :: folder) (.file stagingMode [])) with
  | none => rfl
  | some content =>
      have reading := content?_eq_some_iff.mpr (finished?_eq_some_iff.mp finished).2.2
      exact absurd (room.entryAt_of_content staged reading) outside

/-- A thumbnail is made exactly if it is finished and can be published. -/
theorem isOk_generate_iff (confined : tools.Confined)
    (found : spareName .staging temporary request.output volume = .ok (name, folder)) :
    (request.generate tools temporary volume).result.isOk = true ↔
      (∃ content, request.finished? tools ((volume.absolute temporary).entry name.bytes)
        (volume.put (name :: folder) (.file stagingMode [])) = some content) ∧
          Publishable volume request.output := by
  obtain ⟨-, -, staged⟩ := room.staged_finished confined
  rw [generate_of_room found, isOk_iff]
  simp only [Activity.cleaningUp, process_eq_ok_iff, finished?_eq_some_iff, publish_eq_ok_iff,
    publishable_overlay (staged.overlays room.fresh)]
  constructor
  · rintro ⟨path, -, resizing, optimizing, content, reading, publishable⟩
    exact ⟨⟨content, resizing, optimizing, reading⟩, publishable⟩
  · rintro ⟨⟨content, resizing, optimizing, reading⟩, publishable⟩
    exact ⟨_, rfl, resizing, optimizing, content, reading, publishable⟩

/-- A thumbnail that is made takes the place of the entry that the output asks for. -/
theorem publishes (confined : tools.Confined) (free : volume.LinkFree [])
    (found : spareName .staging temporary request.output volume = .ok (name, folder))
    (finished : request.finished? tools ((volume.absolute temporary).entry name.bytes)
      (volume.put (name :: folder) (.file stagingMode [])) = some content)
    (made : (request.generate tools temporary volume).result.isOk = true) :
    Publishes volume request.output content (request.generate tools temporary volume).volume := by
  obtain ⟨path, done⟩ := isOk_iff.mp made
  rw [generate_of_room found] at done ⊢
  simp only [Activity.cleaningUp] at done ⊢
  obtain ⟨start, -, -⟩ := room.staged_finished confined
  obtain ⟨other, last, above, reading, entry, staged, work⟩ :=
    room.published_of_ok confined start done
  have read := (finished?_eq_some_iff.mp finished).2.2
  obtain rfl : content = other := Except.ok.inj (read.symm.trans reading)
  obtain ⟨-, spare, place, again, closed⟩ := ((room.isOk_generate_iff confined found).mp made).2
  obtain ⟨rfl, rfl⟩ := again.unique entry
  have differs := room.output_ne entry
  rw [staged.modeFor_eq room.fresh free entry closed differs] at work
  refine ⟨work ▸ staged.current, ⟨last, above, entry, closed⟩, fun location asked => ?_,
    fun location outside => ?_⟩
  · obtain rfl := entry.eq_of_asks asked
    rw [node?_erase _ _ _ (List.cons_ne_nil _ _), if_neg differs, work,
      node?_put_self (List.cons_ne_nil _ _)]
  · have elsewhere : location ≠ last :: above := fun same => outside (same ▸ entry.asks)
    rw [← (staged.same_erase room.fresh).node? location, work,
      node?_erase _ _ _ (List.cons_ne_nil _ _), node?_erase _ _ _ (List.cons_ne_nil _ _),
      node?_put_of_ne (List.cons_ne_nil _ _) elsewhere]

end Room

/-- A thumbnail that is not made leaves everything as it was. -/
theorem same_of_failed (confined : tools.Confined)
    (failed : (request.generate tools temporary volume).result.isOk = false) :
    (request.generate tools temporary volume).volume.Same volume := by
  cases found : spareName .staging temporary request.output volume with
  | error fault =>
      rw [generate_of_fault found]
      exact ⟨rfl, fun _ => rfl⟩
  | ok draft =>
      obtain ⟨name, folder⟩ := draft
      have room := room_of_spareName found
      rw [generate_of_room found] at failed ⊢
      simp only [Activity.cleaningUp] at failed ⊢
      cases ended : (process tools request ((volume.absolute temporary).entry name.bytes)
          (volume.put (name :: folder) (.file stagingMode []))).result with
      | ok path => simp [ended, Except.isOk, Except.toBool] at failed
      | error error =>
          have start := Staged.put volume name folder stagingMode []
          exact (room.staged_of_error confined start ended).same_erase room.fresh

/-- A thumbnail that is made is published. -/
theorem publishes_of_isOk (confined : tools.Confined) (free : volume.LinkFree [])
    (made : (request.generate tools temporary volume).result.isOk = true) :
    ∃ content, Publishes volume request.output content
      (request.generate tools temporary volume).volume := by
  cases found : spareName .staging temporary request.output volume with
  | error fault =>
      rw [generate_of_fault found] at made
      cases made
  | ok draft =>
      obtain ⟨name, folder⟩ := draft
      have room := room_of_spareName found
      obtain ⟨content, finished⟩ := ((room.isOk_generate_iff confined found).mp made).1
      exact ⟨content, room.publishes confined free found finished made⟩

/-! ## Determined work -/

/-- What is finished depends on the source and on whether the staging file can be written. -/
theorem finished?_congr (confined : tools.Confined) (determined : tools.Determined)
    (leftRoom : Room left temporary request name folder)
    (rightRoom : Room right temporary request name folder)
    (absolute : left.absolute temporary = right.absolute temporary)
    (entry : left.EntryAt ((right.absolute temporary).entry name.bytes) name folder ↔
      right.EntryAt ((right.absolute temporary).entry name.bytes) name folder)
    (source : (left.put (name :: folder) (.file stagingMode [])).content? request.source =
      (right.put (name :: folder) (.file stagingMode [])).content? request.source) :
    request.finished? tools ((left.absolute temporary).entry name.bytes)
        (left.put (name :: folder) (.file stagingMode [])) =
      request.finished? tools ((right.absolute temporary).entry name.bytes)
        (right.put (name :: folder) (.file stagingMode [])) := by
  by_cases usable : right.EntryAt ((right.absolute temporary).entry name.bytes) name folder
  · have usableLeft := entry.mpr usable
    obtain ⟨leftStart, leftResized, -⟩ := leftRoom.staged_finished confined
    obtain ⟨rightStart, rightResized, -⟩ := rightRoom.staged_finished confined
    rw [absolute] at leftResized ⊢
    obtain ⟨resizing, resize⟩ := determined.resize
    obtain ⟨optimizing, optimize⟩ := determined.optimize
    -- Both staging files start out empty.
    have empty : (left.put (name :: folder) (.file stagingMode [])).content?
          ((right.absolute temporary).entry name.bytes) =
        (right.put (name :: folder) (.file stagingMode [])).content?
          ((right.absolute temporary).entry name.bytes) := by
      rw [content?_put leftRoom.fresh usableLeft, content?_put rightRoom.fresh usable]
    have resized := resize request.source _ request.crop? .thumbnail _
      (leftStart.offers leftRoom.fresh usableLeft)
    rw [source, empty, ← resize request.source _ request.crop? .thumbnail _
      (rightStart.offers rightRoom.fresh usable)] at resized
    obtain ⟨same, content⟩ := Prod.mk.inj resized
    have optimized := optimize _ request.options _ (leftResized.offers leftRoom.fresh usableLeft)
    rw [content, ← optimize _ request.options _ (rightResized.offers rightRoom.fresh usable)]
      at optimized
    obtain ⟨sameToo, contentToo⟩ := Prod.mk.inj optimized
    simp only [finished?, same, sameToo, contentToo]
  · rw [rightRoom.finished?_eq_none confined usable]
    rw [← entry, ← absolute] at usable
    exact leftRoom.finished?_eq_none confined usable

end ThumbnailRequest
end CardKeeper

import CardKeeper.Proofs.Path.Extension
import CardKeeper.Proofs.Thumbnail.Batch

/-!
# Sources that share an output

A batch may hold sources that differ only in their extensions, and then it publishes several
thumbnails at one entry.  The last of them stays.  A request overwrites a later source only in this
way, because what a thumbnail is published at has the extension of thumbnails, and a source with
that extension is its own output: `eq_source_of_meets`.  So every request that shares its output
with no other one leaves there the thumbnail of its source as it stood before the batch.
-/

namespace CardKeeper

/-! ## Tools that do not fail -/

/-- What tools make of pictures. -/
structure Craft where
  /-- A resized picture, by the path and the content of its source. -/
  resize (source : Path) (content : Bytes) (crop : Option Crop) (size : Size) : Bytes
  /-- An optimized file. -/
  optimize (options : OptimizeOptions) (content : Bytes) : Bytes

/-- The thumbnail of a request whose source has some content. -/
def Craft.thumbnail (craft : Craft) (request : ThumbnailRequest) (content : Bytes) : Bytes :=
  craft.optimize request.options
    (craft.resize request.source content request.crop? .thumbnail)

/-- The tools never fail where there are files to read and to write. -/
structure ImageTools.Reliable (tools : ImageTools) (craft : Craft) : Prop where
  /-- A source that can be read is resized into an empty file. -/
  resize : ∀ source target crop size (volume : Volume) content,
    volume.Offers target → volume.content? target = some [] →
      volume.content? source = some content →
        made target (tools.resize source target crop size volume) =
          (true, some (craft.resize source content crop size))
  /-- A file that can be read is optimized. -/
  optimize : ∀ path options (volume : Volume) content,
    volume.Offers path → volume.content? path = some content →
      made path (tools.optimize path options volume) =
        (true, some (craft.optimize options content))

namespace ThumbnailRequest

open Volume Publish

variable {before after volume : Volume} {temporary : Path} {name : Name} {folder : Location}
  {location : Location} {tools : ImageTools} {craft : Craft} {request other : ThumbnailRequest}
  {requests earlier : List ThumbnailRequest} {content : Bytes}

/-! ## Outputs next to their sources -/

/-- Two requests publish at one entry. -/
def Shares (volume : Volume) (left right : ThumbnailRequest) : Prop :=
  ∃ location, volume.Asks left.output location ∧ volume.Asks right.output location

/-- The thumbnail goes next to the source. -/
def IsBeside (request : ThumbnailRequest) : Prop :=
  request.output = request.source.withExtension Card.imageExtension

/-- No two requests of a batch publish at one entry, and none overwrites the source of a later one.
-/
def Protected (volume : Volume) (batch : List ThumbnailRequest) : Prop :=
  batch.Pairwise fun left right => ¬ Shares volume left right ∧
    ∀ location, volume.Asks left.output location → ¬ volume.Meets right.source location

/-- Each request of a batch leaves at its output the thumbnail of its source as it stood before. -/
def Faithful (craft : Craft) (batch : List ThumbnailRequest) (before after : Volume) : Prop :=
  ∀ request ∈ batch, ∀ content, before.content? request.source = some content →
    ∀ location, before.Asks request.output location → after.node? location =
      some (.file (before.modeReached (.ok location)) (craft.thumbnail request content))

/-- Requests that ask for different entries share none. -/
theorem not_shares_of_ne {left right : Location} (leftAsks : volume.Asks request.output left)
    (rightAsks : volume.Asks other.output right) (differs : left ≠ right) :
    ¬ Shares volume request other := by
  rintro ⟨location, first, second⟩
  obtain ⟨_, _, rfl, leftEntry⟩ := leftAsks
  obtain ⟨_, _, rfl, rightEntry⟩ := rightAsks
  exact differs ((leftEntry.eq_of_asks first).symm.trans (rightEntry.eq_of_asks second))

/-- A source at which a thumbnail is published is its own output. -/
theorem eq_source_of_meets (free : volume.LinkFree []) (otherBeside : other.IsBeside)
    (asks : volume.Asks other.output location) (closed : volume.isFolderAt location = false)
    (beside : request.IsBeside) (named : request.output.fileName? ≠ none)
    (meets : volume.Meets request.source location) :
    request.output = request.source ∧ volume.Asks request.output location := by
  rw [IsBeside] at otherBeside beside
  rw [otherBeside] at asks
  rw [beside] at named ⊢
  obtain ⟨name, above, rfl, entry⟩ := asks
  obtain ⟨stem, proper, split⟩ :=
    Path.exists_stem_of_withExtension (by decide) entry.fileName?_eq
  have ownName : request.source.fileName? ≠ none := fun unnamed =>
    named (by rw [Path.withExtension_of_unnamed unnamed, unnamed])
  obtain ⟨_, _, same, own⟩ := meets.asks free closed ownName
  cases same
  obtain ⟨front, ends, -⟩ := own.leads
  have kept := Path.withExtension_eq_self ends split proper (by decide) named
  rw [kept]
  exact ⟨rfl, own.asks⟩

/-! ## A batch that is ready -/

/-- In the folder for temporary files a staging file can be reached by its path, whichever names are
taken of those that stand there and those of the outputs. -/
def Roomy (volume : Volume) (temporary : Path) (requests : List ThumbnailRequest) : Prop :=
  ∃ folder, volume.locate true (volume.absolute temporary) = .ok folder ∧
    ∀ taken : List Name, (∀ name ∈ taken, name ∈ volume.names folder ∨
        ∃ request ∈ requests, request.output.fileName? = some name.bytes) →
      volume.EntryAt ((volume.absolute temporary).entry (Naming.staging.pick taken).bytes)
        (Naming.staging.pick taken) folder

/-- All sources of a batch can be read, and all that it writes can be written. -/
structure Ready (volume : Volume) (temporary : Path) (requests : List ThumbnailRequest) :
    Prop where
  /-- There are no links. -/
  free : volume.LinkFree []
  /-- A source leads to a file. -/
  readable : ∀ request ∈ requests, ∃ content, volume.content? request.source = some content
  /-- An output can be published. -/
  writable : ∀ request ∈ requests, Publishable volume request.output
  /-- There is room for staging files. -/
  roomy : Roomy volume temporary requests

/-- Files were laid at outputs of requests, with the permissions that belong there, and nothing
else changed. -/
structure Laid (before : Volume) (requests : List ThumbnailRequest) (after : Volume) : Prop where
  overlays : after.Overlays before
  modes : ∀ location, after.modeReached (.ok location) = before.modeReached (.ok location)
  frame : ∀ location, (∀ request ∈ requests, ¬ before.Asks request.output location) →
    after.node? location = before.node? location

theorem Laid.nil (volume : Volume) : Laid volume [] volume where
  overlays := .refl volume
  modes _ := rfl
  frame _ _ := rfl

/-- A staging file finds its name, and can be reached by it, also after other requests. -/
theorem Laid.exists_spareName (laid : Laid before earlier after) (within : earlier ⊆ requests)
    (ready : Ready before temporary requests) (member : request ∈ requests) :
    ∃ name folder, spareName .staging temporary request.output after = .ok (name, folder) ∧
      after.EntryAt ((after.absolute temporary).entry name.bytes) name folder := by
  obtain ⟨folder, reached, usable⟩ := ready.roomy
  have absolute := laid.overlays.absolute_eq temporary
  have first := usable [] (by simp)
  have sample : Naming.staging.pick [] = Naming.staging.sample := by
    change NamePattern.staging.spare [] 0 = _
    rw [NamePattern.spare, if_neg List.not_mem_nil]
    rfl
  rw [sample] at first
  obtain ⟨still, opened⟩ :=
    laid.overlays.locate_folder_iff.mpr ⟨reached, first.isFolderAt⟩
  refine ⟨_, folder, spareName_eq_ok_iff.mpr
    ⟨absolute ▸ first.accepted, absolute ▸ still, opened, rfl⟩, ?_⟩
  rw [absolute]
  refine laid.overlays.entryAt_iff.mpr (usable _ fun name taken => ?_)
  rcases List.mem_append.mp taken with own | standing
  · obtain ⟨bytes, named, made⟩ := Option.bind_eq_some_iff.mp (Option.mem_toList.mp own)
    rw [(Name.ofBytes?_eq_some_iff name).mp made] at named
    exact .inr ⟨request, member, named⟩
  · by_cases asked : ∃ other ∈ earlier, before.Asks other.output (name :: folder)
    · obtain ⟨other, early, _, _, same, entry⟩ := asked
      cases same
      exact .inr ⟨other, within early, entry.fileName?_eq⟩
    · rw [mem_names, laid.frame _ fun other early asks => asked ⟨other, early, asks⟩,
        ← mem_names] at standing
      exact .inl standing

/-- A file reads the same beside a new one. -/
theorem content?_put_fresh {source : Path} (free : volume.LinkFree [])
    (fresh : volume.node? (name :: folder) = none) (mode : Nat) (data : Bytes)
    (found : volume.content? source = some content) :
    (volume.put (name :: folder) (.file mode data)).content? source = some content := by
  obtain ⟨location, old, reached, standing⟩ := read_eq_ok_iff.mp (content?_eq_some_iff.mp found)
  have overlays := (Overlays.refl volume).put (.of_fresh fresh) mode data
  have elsewhere : location ≠ name :: folder := by
    rintro rfl
    rw [fresh] at standing
    cases standing
  rw [← node?_put_of_ne (List.cons_ne_nil name folder) elsewhere volume (.file mode data)]
    at standing
  exact content?_eq_some_iff.mpr (((overlays.meets_iff free).mpr (.inr reached)).read_file
    standing)

/-- Reliable tools finish the thumbnail of a source that can be read. -/
theorem Room.finished?_eq (room : Room volume temporary request name folder)
    (confined : tools.Confined) (reliable : tools.Reliable craft) (free : volume.LinkFree [])
    (entry : volume.EntryAt ((volume.absolute temporary).entry name.bytes) name folder)
    (found : volume.content? request.source = some content) :
    request.finished? tools ((volume.absolute temporary).entry name.bytes)
      (volume.put (name :: folder) (.file stagingMode [])) =
        some (craft.thumbnail request content) := by
  obtain ⟨start, resized, -⟩ := room.staged_finished confined
  have resizing := reliable.resize request.source _ request.crop? .thumbnail _ content
    (start.offers room.fresh entry) (content?_put room.fresh entry _ _)
    (content?_put_fresh free room.fresh _ _ found)
  obtain ⟨done, made⟩ := Prod.mk.inj resizing
  have optimizing := reliable.optimize _ request.options _ _ (resized.offers room.fresh entry) made
  obtain ⟨doneToo, madeToo⟩ := Prod.mk.inj optimizing
  simp only [finished?, done, doneToo, madeToo, Bool.and_self, if_true, Craft.thumbnail]

/-! ## One request after another -/

/-- A request of a batch that is ready is published, whatever came before it. -/
theorem Laid.publishes (laid : Laid before earlier after) (within : earlier ⊆ requests)
    (confined : tools.Confined) (reliable : tools.Reliable craft)
    (ready : Ready before temporary requests) (member : request ∈ requests)
    (found : after.content? request.source = some content) :
    let outcome := request.generate tools temporary after
    outcome.result.isOk = true ∧
      Publishes after request.output (craft.thumbnail request content) outcome.volume := by
  have free := ready.free.overlay laid.overlays
  obtain ⟨name, folder, spare, entry⟩ := laid.exists_spareName within ready member
  have room := room_of_spareName spare
  have finished := room.finished?_eq confined reliable free entry found
  have publishable := (publishable_overlay laid.overlays _).mpr (ready.writable request member)
  have made := (room.isOk_generate_iff confined spare).mpr ⟨⟨_, finished⟩, publishable⟩
  exact ⟨made, room.publishes confined free spare finished made⟩

/-- A thumbnail that is published is laid over its output. -/
theorem Laid.append {left : Volume} (laid : Laid before earlier after)
    (free : before.LinkFree []) (publishes : Publishes after request.output content left) :
    Laid before (earlier ++ [request]) left where
  overlays := publishes.overlays laid.overlays free
  modes location := by
    by_cases asks : after.Asks request.output location
    · rw [← laid.modes, modeReached, publishes.laid location asks]
      rfl
    · rw [← laid.modes, modeReached, modeReached, publishes.frame location asks]
  frame location outside := by
    have elsewhere := outside request (List.mem_append_right _ List.mem_cons_self)
    rw [publishes.frame location (laid.overlays.asks_iff.not.mpr elsewhere),
      laid.frame location fun other early => outside other (List.mem_append_left _ early)]

/-- A request of a batch that overwrites the source of another one shares its output. -/
theorem Ready.eq_source (ready : Ready volume temporary requests)
    (beside : ∀ request ∈ requests, request.IsBeside) (otherMember : other ∈ requests)
    (member : request ∈ requests) (asks : volume.Asks other.output location)
    (meets : volume.Meets request.source location) :
    request.output = request.source ∧ Shares volume other request := by
  obtain ⟨-, name, above, entry, closed⟩ := ready.writable other otherMember
  obtain ⟨-, _, _, own, -⟩ := ready.writable request member
  rw [← entry.eq_of_asks asks] at closed
  have named : request.output.fileName? ≠ none := by simp [own.fileName?_eq]
  obtain ⟨same, also⟩ := eq_source_of_meets ready.free (beside other otherMember) asks closed
    (beside request member) named meets
  exact ⟨same, location, asks, also⟩

/-- Sources are only in danger where outputs are shared. -/
theorem Ready.protected_iff (ready : Ready volume temporary requests)
    (beside : ∀ request ∈ requests, request.IsBeside) :
    Protected volume requests ↔ requests.Pairwise fun left right => ¬ Shares volume left right := by
  constructor
  · exact List.Pairwise.imp And.left
  · refine List.Pairwise.imp_of_mem fun {left right} first second alone => ⟨alone, ?_⟩
    intro location asks meets
    exact alone (ready.eq_source beside first second asks meets).2

/-- A source reads as before the batch, unless it is its own output and shares it. -/
theorem Laid.content?_source (laid : Laid before earlier after) (within : earlier ⊆ requests)
    (ready : Ready before temporary requests) (beside : ∀ request ∈ requests, request.IsBeside)
    (member : request ∈ requests) :
    after.content? request.source = before.content? request.source ∨
      request.output = request.source ∧ ∃ other ∈ earlier, Shares before other request := by
  by_cases overwritten : ∃ other ∈ earlier, ∃ location, before.Asks other.output location ∧
      before.Meets request.source location
  · obtain ⟨other, early, location, asks, meets⟩ := overwritten
    obtain ⟨same, shares⟩ := ready.eq_source beside (within early) member asks meets
    exact .inr ⟨same, other, early, shares⟩
  · refine .inl (laid.overlays.content?_congr (.refl before) ready.free fun location meets => ?_)
    exact laid.frame location fun other early asks =>
      overwritten ⟨other, early, location, asks, meets⟩

end ThumbnailRequest

namespace Program

open Volume Publish ThumbnailRequest

variable {before after volume : Volume} {temporary : Path} {tools : ImageTools} {craft : Craft}
  {batch earlier : List ThumbnailRequest} {request : ThumbnailRequest}

/-- A batch that is ready is made whole, and only at the outputs of its requests. -/
theorem makeThumbnails_laid (rest : List ThumbnailRequest) (confined : tools.Confined)
    (reliable : tools.Reliable craft) (ready : Ready before temporary batch)
    (laid : Laid before earlier after) (within : earlier ++ rest ⊆ batch) :
    let outcome := makeThumbnails tools temporary rest after
    outcome.result = .ok 0 ∧ Laid before (earlier ++ rest) outcome.volume ∧
      ∀ location, (∀ request ∈ rest, ¬ before.Asks request.output location) →
        outcome.volume.node? location = after.node? location := by
  induction rest generalizing earlier after with
  | nil => exact ⟨rfl, by simpa [makeThumbnails, Activity.done] using laid, fun _ _ => rfl⟩
  | cons request rest ih =>
      have early : earlier ⊆ batch := (List.append_subset.mp within).1
      have member : request ∈ batch := within (by simp)
      obtain ⟨content, found⟩ := laid.overlays.exists_content? (ready.readable request member)
      obtain ⟨made, publishes⟩ := laid.publishes early confined reliable ready member found
      have all : earlier ++ request :: rest = earlier ++ [request] ++ rest := by simp
      rw [all] at within ⊢
      obtain ⟨counted, last, kept⟩ := ih (laid.append ready.free publishes) within
      obtain ⟨left, ended⟩ := makeThumbnails_cons tools temporary request rest after
      simp only
      rw [left, ended, counted, failsAlone, made]
      refine ⟨rfl, last, fun location outside => ?_⟩
      rw [kept location fun other later => outside other (List.mem_cons_of_mem _ later)]
      have elsewhere := outside request List.mem_cons_self
      exact publishes.frame location (laid.overlays.asks_iff.not.mpr elsewhere)

theorem makeThumbnails_append (tools : ImageTools) (temporary : Path)
    (earlier rest : List ThumbnailRequest) (volume : Volume) :
    (makeThumbnails tools temporary (earlier ++ rest) volume).volume =
      (makeThumbnails tools temporary rest
        (makeThumbnails tools temporary earlier volume).volume).volume := by
  induction earlier generalizing volume with
  | nil => rfl
  | cons request earlier ih =>
      rw [List.cons_append, (makeThumbnails_cons tools temporary request _ volume).1, ih,
        (makeThumbnails_cons tools temporary request earlier volume).1]

/-- A request of a batch finds its source as before the batch, unless the source is its own output
and shared, and what it makes of the source stays, unless a later request shares the output. -/
theorem makeThumbnails_turn (confined : tools.Confined) (reliable : tools.Reliable craft)
    (ready : Ready volume temporary batch) (beside : ∀ request ∈ batch, request.IsBeside)
    {earlier later : List ThumbnailRequest} (split : batch = earlier ++ request :: later) :
    let turn := (makeThumbnails tools temporary earlier volume).volume
    ∃ content, turn.content? request.source = some content ∧
      (volume.content? request.source = some content ∨
        request.output = request.source ∧ ∃ other ∈ earlier, Shares volume other request) ∧
      ((∀ other ∈ later, ¬ Shares volume request other) →
        ∀ location, volume.Asks request.output location →
          (makeThumbnails tools temporary batch volume).volume.node? location =
            some (.file (volume.modeReached (.ok location))
              (craft.thumbnail request content))) := by
  have early : earlier ⊆ batch := by simp [split]
  have member : request ∈ batch := by simp [split]
  obtain ⟨-, laid, -⟩ :=
    makeThumbnails_laid earlier confined reliable ready (.nil volume) early
  obtain ⟨content, found⟩ := laid.overlays.exists_content? (ready.readable request member)
  obtain ⟨-, publishes⟩ := laid.publishes early confined reliable ready member found
  refine ⟨content, found, ?_, fun alone location asks => ?_⟩
  · exact (laid.content?_source early ready beside member).imp_left fun same =>
      same.symm.trans found
  · obtain ⟨-, -, kept⟩ := makeThumbnails_laid later confined reliable ready
      (laid.append ready.free publishes) (by simp [split])
    rw [split, makeThumbnails_append, (makeThumbnails_cons _ _ _ _ _).1,
      kept location fun other member also => alone other member ⟨location, asks, also⟩,
      publishes.laid location (laid.overlays.asks_iff.mpr asks), laid.modes]

/-- A batch that is protected from itself leaves what it is asked for. -/
theorem faithful_of_protected (confined : tools.Confined) (reliable : tools.Reliable craft)
    (ready : Ready volume temporary batch) (beside : ∀ request ∈ batch, request.IsBeside)
    (safe : Protected volume batch) :
    Faithful craft batch volume (makeThumbnails tools temporary batch volume).volume := by
  intro request member content found location asks
  obtain ⟨earlier, later, split⟩ := List.append_of_mem member
  obtain ⟨turned, -, same, laid⟩ := makeThumbnails_turn confined reliable ready beside split
  rw [Protected, split] at safe
  obtain ⟨-, behind, across⟩ := List.pairwise_append.mp safe
  obtain ⟨behind, -⟩ := List.pairwise_cons.mp behind
  rcases same with same | ⟨-, other, early, shares⟩
  · obtain rfl : content = turned := Option.some.inj (found.symm.trans same)
    exact laid (fun other late => (behind other late).1) location asks
  · exact absurd shares (across other early request List.mem_cons_self).1

/-- Several sources are accepted without an output only, and then all of them are. -/
theorem requests_eq_ok_iff {output : Option Path} {fast pico8 : Bool} {sources : List Path}
    (several : 1 < sources.length) :
    requests output fast pico8 sources = .ok batch ↔ output = none ∧
      batch = sources.map fun source =>
        ⟨source, source.withExtension Card.imageExtension, fast, pico8⟩ := by
  cases output with
  | some output => simp [requests, several]
  | none => simp [requests_none, eq_comm]

theorem beside_of_accepted {output : Option Path} {fast pico8 : Bool} {sources : List Path}
    (several : 1 < sources.length) (accepted : requests output fast pico8 sources = .ok batch) :
    ∀ request ∈ batch, request.IsBeside := by
  rw [((requests_eq_ok_iff several).mp accepted).2]
  intro request member
  obtain ⟨source, -, rfl⟩ := List.mem_map.mp member
  rfl

/-! ## Pictures of one name -/

/-- The copy of a picture, which is not optimized. -/
def copies : Craft where
  resize _ content _ _ := content
  optimize _ content := content

theorem reliable_copying : copying.Reliable copies where
  resize source target crop size volume content offers _ found := by
    simp only [copying, found]
    exact made_overwrite offers content
  optimize path options volume content _ found := by
    simp only [copying, ImageTools.made, Activity.done, found]
    rfl

/-- The name `a.jpg`. -/
def photoName : Name := ⟨[0x61, 0x2E, 0x6A, 0x70, 0x67], by decide⟩

/-- The name `a.gif`. -/
def drawingName : Name := ⟨[0x61, 0x2E, 0x67, 0x69, 0x66], by decide⟩

/-- The name `c.gif`. -/
def otherName : Name := ⟨[0x63, 0x2E, 0x67, 0x69, 0x66], by decide⟩

/-- Three pictures beside a folder for temporary files, two of them with one stem. -/
def threePictures : Volume where
  entries := [([temporaryName], .folder Node.folderMode), ([photoName], .file 0o640 [1]),
    ([drawingName], .file 0o640 [2]), ([otherName], .file 0o640 [3])]

/-- The request for the thumbnail of a picture. -/
def requestFor (source : Name) : ThumbnailRequest :=
  ⟨⟨source.bytes⟩, (Path.mk source.bytes).withExtension Card.imageExtension, true, false⟩

/-- Staging files of the pictures find their first name. -/
theorem roomy_threePictures {requests : List ThumbnailRequest}
    (others : ∀ request ∈ requests,
      request.output.fileName? ≠ some (NamePattern.staging.name 0).bytes) :
    Roomy threePictures ⟨temporaryName.bytes⟩ requests := by
  refine ⟨[temporaryName], by cbv, fun taken allowed => ?_⟩
  have free : NamePattern.staging.name 0 ∉ taken := by
    intro member
    rcases allowed _ member with standing | ⟨request, among, same⟩
    · revert standing
      decide
    · exact others request among same
  have first : Naming.staging.pick taken = NamePattern.staging.name 0 := by
    change NamePattern.staging.spare taken 0 = _
    rw [NamePattern.spare, if_neg free]
  have asked : destination threePictures ((threePictures.absolute ⟨temporaryName.bytes⟩).entry
      (NamePattern.staging.name 0).bytes) =
        .ok [NamePattern.staging.name 0, temporaryName] := by cbv
  obtain ⟨name, above, place, entry, -⟩ := destination_eq_ok_iff.mp asked
  obtain ⟨rfl, rfl⟩ := List.cons.inj place
  rw [first]
  exact entry

/-- Every batch of the pictures is ready. -/
theorem ready_threePictures (sources : List Name)
    (some : ∀ source ∈ sources, source ∈ [photoName, drawingName, otherName]) :
    Ready threePictures ⟨temporaryName.bytes⟩ (sources.map requestFor) where
  free location _ := node?_ne_link (by decide) location
  readable request member := by
    obtain ⟨source, among, rfl⟩ := List.mem_map.mp member
    have one := some source among
    simp only [List.mem_cons, List.not_mem_nil, or_false] at one
    rcases one with rfl | rfl | rfl
    · exact ⟨[1], by cbv⟩
    · exact ⟨[2], by cbv⟩
    · exact ⟨[3], by cbv⟩
  writable request member := by
    obtain ⟨source, among, rfl⟩ := List.mem_map.mp member
    have one := some source among
    simp only [List.mem_cons, List.not_mem_nil, or_false] at one
    refine (publish_eq_ok_iff _ [] _).mp ?_
    rcases one with rfl | rfl | rfl <;> cbv
  roomy := roomy_threePictures fun request member => by
    obtain ⟨source, among, rfl⟩ := List.mem_map.mp member
    have one := some source among
    simp only [List.mem_cons, List.not_mem_nil, or_false] at one
    rcases one with rfl | rfl | rfl <;> decide

theorem asks_requestFor {source goal : Name}
    (asked : destination threePictures (requestFor source).output = .ok [goal]) :
    threePictures.Asks (requestFor source).output [goal] := by
  obtain ⟨name, above, place, entry, -⟩ := destination_eq_ok_iff.mp asked
  exact place ▸ entry.asks

/-! ## Accepted batches -/

/-- A batch of several sources that is accepted, on a volume without links, with tools that do not
fail and outputs that can be written, is made whole, and changes nothing but its outputs.  It is
protected from itself exactly if no two of its requests share an output, and then each leaves the
thumbnail of its source as it stood before.  In every case the source of a request whose turn it is
reads as it did before the batch, unless the source is its own output and an earlier request had the
same one; and the entry at which a request publishes holds in the end the thumbnail of what its
source then was, unless a later request has the same output. -/
theorem makeAll_accepted (tools : ImageTools) (craft : Craft) (confined : tools.Confined)
    (reliable : tools.Reliable craft) (temporary : Path) (volume : Volume) (output : Option Path)
    (fast pico8 : Bool) (sources : List Path) (batch : List ThumbnailRequest)
    (several : 1 < sources.length) (accepted : requests output fast pico8 sources = .ok batch)
    (ready : Ready volume temporary batch) :
    let outcome := makeAll tools temporary batch volume
    exitCode outcome.result = 0 ∧
    (Protected volume batch ↔ batch.Pairwise fun left right => ¬ Shares volume left right) ∧
    (Protected volume batch → Faithful craft batch volume outcome.volume) ∧
    (∀ earlier request later, batch = earlier ++ request :: later →
      let turn := (makeThumbnails tools temporary earlier volume).volume
      ∃ content, turn.content? request.source = some content ∧
        (volume.content? request.source = some content ∨
          request.output = request.source ∧ ∃ other ∈ earlier, Shares volume other request) ∧
        ((∀ other ∈ later, ¬ Shares volume request other) →
          ∀ location, volume.Asks request.output location →
            outcome.volume.node? location =
              some (.file (volume.modeReached (.ok location))
                (craft.thumbnail request content)))) ∧
    (∀ location, (∀ request ∈ batch, ¬ volume.Asks request.output location) →
      outcome.volume.node? location = volume.node? location) ∧
    outcome.volume.current = volume.current := by
  have beside := beside_of_accepted several accepted
  obtain ⟨counted, last, -⟩ := makeThumbnails_laid batch confined reliable ready
    (.nil volume) (List.Subset.refl _)
  obtain ⟨left, code⟩ := makeAll_of_count counted
  intro outcome
  rw [show outcome.volume = _ from left]
  refine ⟨code, ready.protected_iff beside, faithful_of_protected confined reliable ready beside,
    fun earlier request later split => ?_, last.frame, last.overlays.current⟩
  exact makeThumbnails_turn confined reliable ready beside split

/-- Pictures with different stems have their own thumbnails in the end. -/
theorem makeAll_accepted_apart :
    let batch := [photoName, otherName].map requestFor
    let outcome := makeAll copying ⟨temporaryName.bytes⟩ batch threePictures
    requests none true false [⟨photoName.bytes⟩, ⟨otherName.bytes⟩] = .ok batch ∧
      exitCode outcome.result = 0 ∧ Protected threePictures batch ∧
      outcome.volume.node? [pictureName] = some (.file Node.fileMode [1]) ∧
      outcome.volume.node? [copyName] = some (.file Node.fileMode [3]) := by
  intro batch outcome
  have accepted : requests none true false [⟨photoName.bytes⟩, ⟨otherName.bytes⟩] = .ok batch :=
    rfl
  obtain ⟨code, safe, faithful, -⟩ := makeAll_accepted copying copies confined_copying
    reliable_copying ⟨temporaryName.bytes⟩ threePictures none true false
    [⟨photoName.bytes⟩, ⟨otherName.bytes⟩] batch (by decide) accepted
    (ready_threePictures [photoName, otherName] (by decide))
  have photo : threePictures.Asks (requestFor photoName).output [pictureName] :=
    asks_requestFor (by cbv)
  have other : threePictures.Asks (requestFor otherName).output [copyName] :=
    asks_requestFor (by cbv)
  have apart : Protected threePictures batch :=
    safe.mpr (List.pairwise_pair.mpr (not_shares_of_ne photo other (by decide)))
  have thumbnails := faithful apart
  exact ⟨accepted, code, apart,
    thumbnails (requestFor photoName) (by simp [batch]) [1] (by cbv) _ photo,
    thumbnails (requestFor otherName) (by simp [batch]) [3] (by cbv) _ other⟩

/-- Pictures with one stem have one thumbnail in the end, that of the last one. -/
theorem makeAll_accepted_oneStem :
    let batch := [photoName, drawingName].map requestFor
    let outcome := makeAll copying ⟨temporaryName.bytes⟩ batch threePictures
    requests none true false [⟨photoName.bytes⟩, ⟨drawingName.bytes⟩] = .ok batch ∧
      copying.Confined ∧ copying.Reliable copies ∧
      Ready threePictures ⟨temporaryName.bytes⟩ batch ∧ exitCode outcome.result = 0 ∧
      ¬ Protected threePictures batch ∧
      outcome.volume.node? [pictureName] = some (.file Node.fileMode [2]) ∧
      ¬ Faithful copies batch threePictures outcome.volume := by
  intro batch outcome
  have ready := ready_threePictures [photoName, drawingName] (by decide)
  have accepted : requests none true false [⟨photoName.bytes⟩, ⟨drawingName.bytes⟩] = .ok batch :=
    rfl
  obtain ⟨counted, -⟩ := makeThumbnails_laid batch confined_copying reliable_copying
    ready (.nil _) (List.Subset.refl _)
  obtain ⟨left, code⟩ := makeAll_of_count counted
  have photo : threePictures.Asks (requestFor photoName).output [pictureName] :=
    asks_requestFor (by cbv)
  have drawing : threePictures.Asks (requestFor drawingName).output [pictureName] :=
    asks_requestFor (by cbv)
  obtain ⟨content, -, same, laid⟩ := makeThumbnails_turn confined_copying reliable_copying ready
    (beside_of_accepted (by decide) accepted)
    (show batch = [requestFor photoName] ++ requestFor drawingName :: [] from rfl)
  have read : threePictures.content? (requestFor drawingName).source = some [2] := by cbv
  have last : outcome.volume.node? [pictureName] = some (.file Node.fileMode [2]) := by
    rcases same with same | ⟨inPlace, -⟩
    · obtain rfl : content = [2] := Option.some.inj (same.symm.trans read)
      rw [show outcome.volume = _ from left]
      exact laid (fun request member => absurd member List.not_mem_nil) _ drawing
    · revert inPlace
      decide
  refine ⟨accepted, confined_copying, reliable_copying, ready, code, fun safe => ?_, last,
    fun faithful => ?_⟩
  · exact (List.pairwise_pair.mp safe).1 ⟨_, photo, drawing⟩
  · have first := faithful (requestFor photoName) (by simp [batch]) [1] (by cbv) _ photo
    rw [last] at first
    cases first

end Program
end CardKeeper

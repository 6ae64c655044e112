import CardKeeper.Program
import CardKeeper.Proofs.Thumbnail.Alone

/-!
# Thumbnails in a batch

No request has an output that another one uses, so a request that comes after others finds its
source and its staging file as it does alone.  It therefore fares as it does alone, and publishes
what it publishes alone: `Replaced.step`.  What becomes of the volume is described without a word on
the order of the requests, so the order does not matter.
-/

namespace CardKeeper

/-! ## Spare names -/

namespace NamePattern

variable {pattern : NamePattern} {left right : List Name}

/-- The spare name is the first one that is free. -/
theorem spare_first (pattern : NamePattern) (taken : List Name) (count : Nat) :
    ∃ number, count ≤ number ∧ pattern.spare taken count = pattern.name number ∧
      pattern.name number ∉ taken ∧
        ∀ other, count ≤ other → other < number → pattern.name other ∈ taken := by
  fun_induction spare pattern taken count with
  | case1 taken count used ih =>
      obtain ⟨number, above, equal, free, before⟩ := ih
      refine ⟨number, by omega, equal, fun member => ?_, fun other least less => ?_⟩
      · refine free ((List.mem_erase_of_ne fun same => ?_).mpr member)
        have := pattern.name_injective same
        omega
      · by_cases here : other = count
        · rw [here]
          exact used
        · exact List.mem_of_mem_erase (before other (by omega) less)
  | case2 taken count free =>
      exact ⟨count, Nat.le_refl _, rfl, free, fun other least less => by omega⟩

/-- The spare name stays when other names are taken. -/
theorem spare_of_more (more : ∀ number, pattern.name number ∈ left → pattern.name number ∈ right)
    (free : pattern.spare left 0 ∉ right) : pattern.spare right 0 = pattern.spare left 0 := by
  obtain ⟨first, -, equal, -, taken⟩ := pattern.spare_first left 0
  obtain ⟨other, -, otherEqual, otherFree, otherTaken⟩ := pattern.spare_first right 0
  rw [equal] at free ⊢
  rw [otherEqual]
  rcases Nat.lt_trichotomy other first with less | rfl | greater
  · exact absurd (more other (taken other (Nat.zero_le _) less)) otherFree
  · rfl
  · exact absurd (otherTaken first (Nat.zero_le _) greater) free

end NamePattern

namespace ThumbnailRequest

open Volume Publish

variable {before after volume left : Volume} {temporary : Path} {name : Name} {folder : Location}
  {tools : ImageTools} {request : ThumbnailRequest} {content : Bytes}

/-! ## Independent requests -/

/-- The output of a request is no file that another one uses.  The staging file is one of these:
were it taken, then the other would stage under a different name, perhaps that of its own source. -/
structure Spares (volume : Volume) (temporary : Path) (request other : ThumbnailRequest) :
    Prop where
  output : ∀ location, volume.Asks request.output location → ¬ volume.Asks other.output location
  source : ∀ location, volume.Asks request.output location → ¬ volume.Meets other.source location
  staging : ∀ name folder, spareName .staging temporary other.output volume = .ok (name, folder) →
    ¬ volume.Asks request.output (name :: folder)

/-- Neither of two requests has an output that the other uses. -/
def Apart (volume : Volume) (temporary : Path) (left right : ThumbnailRequest) : Prop :=
  Spares volume temporary left right ∧ Spares volume temporary right left

/-- A volume in which exactly the outputs of those requests were replaced that succeed alone, each
by what the request alone makes of it. -/
structure Replaced (tools : ImageTools) (temporary : Path) (before : Volume)
    (requests : List ThumbnailRequest) (after : Volume) : Prop where
  /-- Relative paths start where they did. -/
  current : after.current = before.current
  /-- The outputs are what each request alone makes of its own. -/
  laid : ∀ request ∈ requests,
    (request.generate tools temporary before).result.isOk = true →
      ∀ location, before.Asks request.output location →
        after.node? location = (request.generate tools temporary before).volume.node? location
  /-- Nothing else changed. -/
  frame : ∀ location, (∀ request ∈ requests,
    (request.generate tools temporary before).result.isOk = true →
      ¬ before.Asks request.output location) → after.node? location = before.node? location

namespace Replaced

variable {requests earlier : List ThumbnailRequest}

theorem nil (tools : ImageTools) (temporary : Path) (volume : Volume) :
    Replaced tools temporary volume [] volume where
  current := rfl
  laid := by simp
  frame _ _ := rfl

/-- Nothing but files was laid over sites. -/
theorem overlays (replaced : Replaced tools temporary before requests after)
    (confined : tools.Confined) (free : before.LinkFree []) : after.Overlays before where
  current := replaced.current
  cases location := by
    by_cases asked : ∃ request ∈ requests,
        (request.generate tools temporary before).result.isOk = true ∧
          before.Asks request.output location
    · obtain ⟨request, member, made, asks⟩ := asked
      obtain ⟨content, publishes⟩ := publishes_of_isOk confined free made
      obtain ⟨name, above, entry, closed⟩ := publishes.asked
      obtain rfl := entry.eq_of_asks asks
      have standing := (replaced.laid request member made _ asks).trans (publishes.laid _ asks)
      exact .inr ⟨name, above, rfl, entry.site free closed, _, content, standing⟩
    · exact .inl (replaced.frame location fun request member made asks =>
        asked ⟨request, member, made, asks⟩)

/-- The staging file of a request is the one that it makes alone. -/
theorem spareName_eq (replaced : Replaced tools temporary before earlier after)
    (confined : tools.Confined) (free : before.LinkFree [])
    (spares : ∀ other ∈ earlier, Spares before temporary other request)
    (found : spareName .staging temporary request.output before = .ok (name, folder)) :
    spareName .staging temporary request.output after = .ok (name, folder) := by
  have overlays := replaced.overlays confined free
  obtain ⟨accepted, reached, isFolder, picked⟩ := spareName_eq_ok_iff.mp found
  have absolute := overlays.absolute_eq temporary
  obtain ⟨still, opened⟩ := overlays.locate_folder_iff.mpr ⟨reached, isFolder⟩
  refine spareName_eq_ok_iff.mpr ⟨absolute ▸ accepted, absolute ▸ still, opened,
    picked.trans (NamePattern.staging.spare_of_more (fun number member => ?_) ?_).symm⟩
  · rw [List.mem_append, mem_names] at member ⊢
    refine member.imp_right fun standing => ?_
    rcases overlays.cases (NamePattern.staging.name number :: folder) with
      same | ⟨_, _, _, _, _, _, laid⟩
    · rwa [same]
    · rw [laid]
      rfl
  · -- No request before it took the name.
    have untaken : name ∉ (request.output.fileName?.bind Name.ofBytes?).toList ++
        before.names folder := picked ▸ Naming.staging.fresh _
    have kept : after.node? (name :: folder) = before.node? (name :: folder) :=
      replaced.frame _ fun other member _ => (spares other member).staging name folder found
    have named : NamePattern.staging.spare
        ((request.output.fileName?.bind Name.ofBytes?).toList ++ before.names folder) 0 = name :=
      picked.symm
    rwa [named, List.mem_append, mem_names, kept, ← mem_names, ← List.mem_append]

/-- A request that fails alone leaves what the requests before it left. -/
theorem append_failed (replaced : Replaced tools temporary before earlier after)
    (failed : (request.generate tools temporary before).result.isOk = false)
    (same : left.Same after) : Replaced tools temporary before (earlier ++ [request]) left where
  current := same.current.trans replaced.current
  laid other member made location asks := by
    rcases List.mem_append.mp member with before | last
    · rw [same.node?, replaced.laid other before made location asks]
    · rw [List.mem_singleton.mp last, failed] at made
      cases made
  frame location outside := by
    rw [same.node?, replaced.frame location fun other member =>
      outside other (List.mem_append_left _ member)]

/-- A request that publishes what it publishes alone adds its output to those that were replaced. -/
theorem append_made (replaced : Replaced tools temporary before earlier after)
    (made : (request.generate tools temporary before).result.isOk = true)
    (spares : ∀ other ∈ earlier, Spares before temporary other request)
    (overlays : after.Overlays before)
    (alone : Publishes before request.output content
      (request.generate tools temporary before).volume)
    (publishes : Publishes after request.output content left) :
    Replaced tools temporary before (earlier ++ [request]) left where
  current := publishes.current.trans replaced.current
  laid other member done location asks := by
    rcases List.mem_append.mp member with early | last
    · have elsewhere := (spares other early).output location asks
      rw [publishes.frame location (overlays.asks_iff.not.mpr elsewhere),
        replaced.laid other early done location asks]
    · rw [List.mem_singleton.mp last] at asks ⊢
      have untouched := replaced.frame location fun other early _ asked =>
        (spares other early).output location asked asks
      rw [publishes.laid location (overlays.asks_iff.mpr asks), alone.laid location asks,
        modeReached, modeReached, untouched]
  frame location outside := by
    have elsewhere := outside request (List.mem_append_right _ List.mem_cons_self) made
    rw [publishes.frame location (overlays.asks_iff.not.mpr elsewhere),
      replaced.frame location fun other member => outside other (List.mem_append_left _ member)]

/-- The source of a request reads the same after others, also where the staging file is the source.
-/
theorem content?_source (overlays : after.Overlays before) (free : before.LinkFree [])
    (fresh : before.node? (name :: folder) = none)
    (kept : ∀ location, before.Meets request.source location →
      after.node? location = before.node? location) :
    (after.put (name :: folder) (.file stagingMode [])).content? request.source =
      (before.put (name :: folder) (.file stagingMode [])).content? request.source := by
  refine (overlays.put (.of_fresh fresh) stagingMode []).content?_congr
    ((Overlays.refl before).put (.of_fresh fresh) stagingMode []) free fun location meets => ?_
  rw [node?_put _ _ _ _ (List.cons_ne_nil _ _), node?_put _ _ _ _ (List.cons_ne_nil _ _),
    kept location meets]

/-- A request that comes after others fares as it does alone, and publishes what it publishes
alone. -/
theorem step (confined : tools.Confined) (determined : tools.Determined)
    (free : before.LinkFree []) (replaced : Replaced tools temporary before earlier after)
    (spares : ∀ other ∈ earlier, Spares before temporary other request) :
    (request.generate tools temporary after).result.isOk =
        (request.generate tools temporary before).result.isOk ∧
      Replaced tools temporary before (earlier ++ [request])
        (request.generate tools temporary after).volume := by
  have overlays := replaced.overlays confined free
  cases found : spareName .staging temporary request.output before with
  | error fault =>
      cases again : spareName .staging temporary request.output after with
      | ok draft =>
          have room := (exists_spareName_iff request.output).mp ⟨draft, again⟩
          obtain ⟨other, early⟩ :=
            (exists_spareName_iff request.output).mpr ((hasRoom_overlay overlays).mp room)
          cases early.symm.trans found
      | error fault =>
          have failed : (request.generate tools temporary before).result.isOk = false := by
            rw [generate_of_fault found]
            rfl
          rw [failed, generate_of_fault again]
          exact ⟨rfl, replaced.append_failed failed ⟨rfl, fun _ => rfl⟩⟩
  | ok draft =>
      obtain ⟨name, folder⟩ := draft
      have again := replaced.spareName_eq confined free spares found
      have room := room_of_spareName found
      have roomAfter := room_of_spareName again
      -- No request before it touched the source.
      have source := content?_source overlays free room.fresh fun location meets =>
        replaced.frame location fun other member _ asks =>
          (spares other member).source location asks meets
      have finished := finished?_congr confined determined roomAfter room
        (overlays.absolute_eq temporary) overlays.entryAt_iff source
      have fares : (request.generate tools temporary after).result.isOk =
          (request.generate tools temporary before).result.isOk := by
        rw [Bool.eq_iff_iff, roomAfter.isOk_generate_iff confined again,
          room.isOk_generate_iff confined found, finished, publishable_overlay overlays]
      refine ⟨fares, ?_⟩
      cases made : (request.generate tools temporary before).result.isOk with
      | false =>
          exact replaced.append_failed made (same_of_failed confined (fares.trans made))
      | true =>
          obtain ⟨content, done⟩ := ((room.isOk_generate_iff confined found).mp made).1
          exact replaced.append_made made spares overlays
            (room.publishes confined free found done made)
            (roomAfter.publishes confined (free.overlay overlays) again (finished.trans done)
              (fares.trans made))

/-- Requests in any order replace the same outputs. -/
theorem of_perm {order : List ThumbnailRequest} (perm : order.Perm requests)
    (replaced : Replaced tools temporary before order after) :
    Replaced tools temporary before requests after where
  current := replaced.current
  laid request member := replaced.laid request (perm.mem_iff.mpr member)
  frame location outside := replaced.frame location fun request member =>
    outside request (perm.mem_iff.mp member)

/-- There is one volume in which the outputs of requests were replaced. -/
theorem same (first : Replaced tools temporary before requests left)
    (second : Replaced tools temporary before requests right) : left.Same right where
  current := first.current.trans second.current.symm
  node? location := by
    by_cases asked : ∃ request ∈ requests,
        (request.generate tools temporary before).result.isOk = true ∧
          before.Asks request.output location
    · obtain ⟨request, member, made, asks⟩ := asked
      rw [first.laid request member made location asks,
        second.laid request member made location asks]
    · have outside (request : ThumbnailRequest) (member : request ∈ requests)
          (made : (request.generate tools temporary before).result.isOk = true) :
          ¬ before.Asks request.output location := fun asks =>
        asked ⟨request, member, made, asks⟩
      rw [first.frame location outside, second.frame location outside]

end Replaced
end ThumbnailRequest

namespace Program

open Volume Publish ThumbnailRequest

variable {before after volume : Volume} {temporary : Path} {tools : ImageTools}
  {requests earlier order : List ThumbnailRequest} {request : ThumbnailRequest} {count : Nat}

/-! ## Requests -/

/-- Without an output thumbnails go next to their sources. -/
theorem requests_none {fast pico8 : Bool} {sources : List Path} :
    Program.requests none fast pico8 sources = .ok (sources.map fun source =>
      ⟨source, source.withExtension Card.imageExtension, fast, pico8⟩) := by
  have each : (fun source => (make? source none fast pico8).mapError fun error =>
      CommandError.ofThumbnail (.request error)) = fun source => pure
        ⟨source, source.withExtension Card.imageExtension, fast, pico8⟩ := rfl
  simp only [Program.requests, each, List.mapM_pure]
  rfl

/-! ## One request after another -/

/-- A request fails when it is made alone. -/
def failsAlone (tools : ImageTools) (temporary : Path) (volume : Volume)
    (request : ThumbnailRequest) : Bool :=
  !(request.generate tools temporary volume).result.isOk

theorem makeThumbnail_eq (tools : ImageTools) (temporary : Path) (request : ThumbnailRequest)
    (volume : Volume) :
    let generated := request.generate tools temporary volume
    let made := makeThumbnail tools temporary request volume
    made.volume = generated.volume ∧ made.result = generated.result.map fun _ => () := by
  intro generated made
  cases ended : generated.result with
  | error error =>
      have failed : made = _ := Activity.bind_of_error ended
      rw [failed]
      exact ⟨rfl, rfl⟩
  | ok output =>
      have told : made = _ := Activity.bind_of_ok ended
      rw [told]
      exact ⟨rfl, rfl⟩

/-- After a request that succeeds or fails, the others follow. -/
theorem makeThumbnails_cons (tools : ImageTools) (temporary : Path) (request : ThumbnailRequest)
    (rest : List ThumbnailRequest) (volume : Volume) :
    let others := makeThumbnails tools temporary rest
      (request.generate tools temporary volume).volume
    let all := makeThumbnails tools temporary (request :: rest) volume
    all.volume = others.volume ∧ all.result = others.result.map fun more =>
      (failsAlone tools temporary volume request).toNat + more := by
  obtain ⟨left, ended⟩ := makeThumbnail_eq tools temporary request volume
  simp only [makeThumbnails, bind, Activity.andThen, Activity.attempt, ended, left, failsAlone]
  cases (request.generate tools temporary volume).result with
  | error error =>
      simp only [Except.map, Activity.andThen, Activity.announce, pure, Activity.done]
      cases (makeThumbnails tools temporary rest
        (request.generate tools temporary volume).volume).result <;> exact ⟨rfl, rfl⟩
  | ok output =>
      simp only [Except.map, Activity.andThen, pure, Activity.done]
      cases (makeThumbnails tools temporary rest
        (request.generate tools temporary volume).volume).result <;> exact ⟨rfl, rfl⟩

/-- Requests that come after others fare as they do alone, and add their outputs. -/
theorem makeThumbnails_replaced (confined : tools.Confined) (determined : tools.Determined)
    (free : before.LinkFree []) (replaced : Replaced tools temporary before earlier after)
    (apart : (earlier ++ order).Pairwise (Apart before temporary)) :
    (makeThumbnails tools temporary order after).result =
        .ok (order.countP (failsAlone tools temporary before)) ∧
      Replaced tools temporary before (earlier ++ order)
        (makeThumbnails tools temporary order after).volume := by
  induction order generalizing earlier after with
  | nil => exact ⟨rfl, by simpa [makeThumbnails, Activity.done] using replaced⟩
  | cons request rest ih =>
      obtain ⟨-, -, across⟩ := List.pairwise_append.mp apart
      have all : earlier ++ request :: rest = earlier ++ [request] ++ rest := by simp
      obtain ⟨fares, further⟩ := replaced.step confined determined free
        fun other member => (across other member request List.mem_cons_self).1
      rw [all] at apart ⊢
      obtain ⟨counted, last⟩ := ih further apart
      obtain ⟨left, ended⟩ := makeThumbnails_cons tools temporary request rest after
      rw [left, ended, counted]
      refine ⟨?_, last⟩
      have same : failsAlone tools temporary after request =
          failsAlone tools temporary before request := congrArg not fares
      rw [same, List.countP_cons, Except.map, Nat.add_comm]
      cases failsAlone tools temporary before request <;> rfl

/-- A single request is told apart only in what is said about it. -/
theorem makeAll_single (tools : ImageTools) (temporary : Path) (request : ThumbnailRequest)
    (volume : Volume) :
    let made := makeAll tools temporary [request] volume
    made.volume = (request.generate tools temporary volume).volume ∧
      exitCode made.result = (failsAlone tools temporary volume request).toNat := by
  obtain ⟨left, ended⟩ := makeThumbnail_eq tools temporary request volume
  have sound := generate_ne_request tools temporary request volume
  simp only [makeAll, bind, Activity.andThen, Activity.orElse, ended, left, failsAlone]
  cases failed : (request.generate tools temporary volume).result with
  | ok output => exact ⟨rfl, rfl⟩
  | error error =>
      cases error with
      | request wrong => exact absurd failed (sound wrong)
      | tool error => exact ⟨rfl, rfl⟩
      | file path fault => exact ⟨rfl, rfl⟩

/-- The exit code tells whether a request failed, also when there is one request only. -/
theorem makeAll_of_count
    (counted : (makeThumbnails tools temporary requests volume).result = .ok count) :
    (makeAll tools temporary requests volume).volume =
        (makeThumbnails tools temporary requests volume).volume ∧
      exitCode (makeAll tools temporary requests volume).result = if count = 0 then 0 else 1 := by
  by_cases single : ∃ request, requests = [request]
  · obtain ⟨request, rfl⟩ := single
    obtain ⟨made, code⟩ := makeAll_single tools temporary request volume
    obtain ⟨left, ended⟩ := makeThumbnails_cons tools temporary request [] volume
    rw [ended] at counted
    obtain rfl : (failsAlone tools temporary volume request).toNat + 0 = count :=
      Except.ok.inj counted
    refine ⟨made.trans left.symm, code.trans ?_⟩
    cases failsAlone tools temporary volume request <;> rfl
  · unfold makeAll
    split
    · next request => exact absurd ⟨request, rfl⟩ single
    · rw [Activity.bind_of_ok counted]
      by_cases none : count = 0
      · simp only [none, if_true]
        exact ⟨rfl, rfl⟩
      · simp only [none, if_false]
        exact ⟨rfl, rfl⟩

/-- On a volume without links, with tools that are determined by what they read and change nothing
but their targets, requests that are apart from each other do not influence each other.  In any
order each of them succeeds or fails as it does alone, and past the failures all are tried.  In the
end exactly the outputs of those that succeed are replaced, by what each alone makes of it, which is
the same volume for every order; and the exit code is zero if every request succeeds alone, and one
otherwise. -/
theorem makeAll_independent (tools : ImageTools) (confined : tools.Confined)
    (determined : tools.Determined) (temporary : Path) (volume : Volume)
    (requests : List ThumbnailRequest) (free : volume.LinkFree [])
    (apart : requests.Pairwise (Apart volume temporary))
    (order : List ThumbnailRequest) (perm : order.Perm requests) :
    (∀ earlier request later, order = earlier ++ request :: later →
      let before := (makeThumbnails tools temporary earlier volume).volume
      (request.generate tools temporary before).result.isOk =
        (request.generate tools temporary volume).result.isOk) ∧
    (makeThumbnails tools temporary order volume).result =
      .ok (requests.countP fun request =>
        !(request.generate tools temporary volume).result.isOk) ∧
    let outcome := makeAll tools temporary order volume
    Replaced tools temporary volume requests outcome.volume ∧
      outcome.volume.Same (makeAll tools temporary requests volume).volume ∧
      exitCode outcome.result = if requests.all fun request =>
        (request.generate tools temporary volume).result.isOk then 0 else 1 := by
  have apartOrder : order.Pairwise (Apart volume temporary) :=
    (perm.pairwise_iff And.symm).mpr apart
  have start := Replaced.nil tools temporary volume
  obtain ⟨counted, replaced⟩ := makeThumbnails_replaced confined determined free start apartOrder
  obtain ⟨countedFirst, replacedFirst⟩ :=
    makeThumbnails_replaced confined determined free start apart
  obtain ⟨left, code⟩ := makeAll_of_count counted
  obtain ⟨leftFirst, -⟩ := makeAll_of_count countedFirst
  have last := replaced.of_perm perm
  refine ⟨?_, ?_, ?_, ?_, ?_⟩
  · rintro earlier request later rfl
    obtain ⟨among, -, across⟩ := List.pairwise_append.mp apartOrder
    obtain ⟨-, before⟩ := makeThumbnails_replaced confined determined free start among
    exact (before.step confined determined free
      fun other member => (across other member request List.mem_cons_self).1).1
  · rw [counted, perm.countP_eq]
    rfl
  · rw [left]
    exact last
  · rw [left, leftFirst]
    exact last.same replacedFirst
  · rw [code, perm.countP_eq]
    have none : requests.countP (failsAlone tools temporary volume) = 0 ↔
        (requests.all fun request =>
          (request.generate tools temporary volume).result.isOk) = true := by
      simp [List.countP_eq_zero, failsAlone]
    simp only [none]

/-! ## Tools that copy -/

/-- Tools of which one copies the picture, and the other leaves the copy as it is. -/
def copying : ImageTools where
  resize source target _ _ := fun volume =>
    match volume.content? source with
    | some content => overwrite target content volume
    | none => ⟨[], volume, .error (.unstartable "copy" .notFound)⟩
  optimize _ _ := .done ()

theorem confined_copying : copying.Confined where
  resize source target crop size volume plain := by
    simp only [copying]
    cases volume.content? source with
    | none => exact ⟨rfl, plain, fun _ _ => rfl⟩
    | some content => exact changesOnly_overwrite content plain
  optimize path options volume plain := ⟨rfl, plain, fun _ _ => rfl⟩

/-- What is written where a file or nothing is can be read there. -/
theorem made_overwrite {target : Path} (offers : volume.Offers target) (content : Bytes) :
    ImageTools.made target (overwrite target content volume) = (true, some content) := by
  obtain ⟨plain, _, name, above, rfl, entry⟩ := offers
  have closed : volume.isFolderAt (name :: above) = false := by
    rcases plain name above entry with nothing | ⟨mode, old, file⟩
    · simp [isFolderAt, nothing]
    · simp [isFolderAt, file, Node.isFolder]
  have replaceable : volume.Replaceable target := by
    rcases plain name above entry with nothing | ⟨mode, old, file⟩
    · exact .inr (entry.read_none nothing)
    · exact .inl ⟨old, entry.read_file file⟩
  have found := destination_eq_ok_iff.mpr ⟨name, above, rfl, entry, closed⟩
  have overlays := (Overlays.refl volume).put (replaceable.site entry) Node.fileMode content
  have reads := content?_eq_some_iff.mpr ((overlays.entryAt_iff.mpr entry).read_file
    (node?_put_self (List.cons_ne_nil _ _) volume (.file Node.fileMode content)))
  simp only [ImageTools.made, overwrite, found, reads]
  rfl

theorem determined_copying : copying.Determined where
  resize := by
    refine ⟨fun _ content _ _ old => match content with
      | some content => (true, some content)
      | none => (false, old), fun source target crop size volume offers => ?_⟩
    simp only [copying]
    cases volume.content? source with
    | none => rfl
    | some content => exact made_overwrite offers content
  optimize := ⟨fun _ old => (true, old), fun _ _ _ _ => rfl⟩

/-- A name by itself asks for the entry of the folder in which relative paths start. -/
theorem eq_of_meets_name {name : Name} {location : Location} (free : volume.LinkFree [])
    (meets : volume.Meets ⟨name.bytes⟩ location) : location = name :: volume.current := by
  have here : start ⟨name.bytes⟩ volume.current = volume.current := by
    rw [start, Path.isAbsolute_of_plain name.slash_not_mem]
    rfl
  have shape := Path.segments_of_plain name.slash_not_mem
  rcases meets with ⟨other, above, rfl, entry⟩ | reached
  · obtain ⟨front, split, leads⟩ := entry.leads
    rw [shape] at split
    obtain ⟨rfl, same⟩ : front = [] ∧ other.bytes = name.bytes := by
      simpa [List.singleton_eq_append_iff] using split
    obtain ⟨leads, -⟩ := walk_concat_filler.mp leads
    rw [walk_nil, here] at leads
    rw [← Name.ext_bytes same, Except.ok.inj leads]
  · obtain ⟨-, walked⟩ := locate_eq_ok_iff.mp reached
    rw [shape, here] at walked
    rcases walk_single_cases free walked with ⟨filler, -⟩ | ⟨up, -⟩ | ⟨other, same, -, rfl⟩
    · simp at filler
    · exact absurd up name.ne_up
    · rw [Name.ext_bytes same]

/-- Requests for names in one folder are apart when the names are, and when staging files are
somewhere else. -/
theorem spares_of_names {output source goal : Name} {request other : ThumbnailRequest}
    (free : volume.LinkFree []) (own : request.output = ⟨output.bytes⟩)
    (read : other.source = ⟨source.bytes⟩) (written : other.output = ⟨goal.bytes⟩)
    (unread : output ≠ source) (unwritten : output ≠ goal)
    (elsewhere : volume.locate true (volume.absolute temporary) ≠ .ok volume.current) :
    Spares volume temporary request other where
  output location asks also := by
    have here := eq_of_meets_name free (.inl (own ▸ asks))
    have there := eq_of_meets_name free (.inl (written ▸ also))
    exact unwritten (List.cons.inj (here.symm.trans there)).1
  source location asks also := by
    have here := eq_of_meets_name free (.inl (own ▸ asks))
    have there := eq_of_meets_name free (read ▸ also)
    exact unread (List.cons.inj (here.symm.trans there)).1
  staging name folder found asks := by
    obtain ⟨-, reached, -, -⟩ := spareName_eq_ok_iff.mp found
    have here := eq_of_meets_name free (.inl (own ▸ asks))
    exact elsewhere ((List.cons.inj here).2 ▸ reached)

/-- `c.png`, for a copy of the picture. -/
def copyName : Name := ⟨[0x63, 0x2E, 0x70, 0x6E, 0x67], by decide⟩

/-- `d.png`, which there is not. -/
def lostName : Name := ⟨[0x64, 0x2E, 0x70, 0x6E, 0x67], by decide⟩

/-- The request for a copy of the picture. -/
def copied : ThumbnailRequest := ⟨⟨pictureName.bytes⟩, ⟨copyName.bytes⟩, true, false⟩

/-- A request for a picture that is not there. -/
def lost : ThumbnailRequest := ⟨⟨lostName.bytes⟩, ⟨lostName.bytes⟩, true, false⟩

/-- A request that fails does not keep the one after it from being made, and the order of the two
does not matter. -/
theorem makeAll_copied :
    let outcome := makeAll copying ⟨temporaryName.bytes⟩ [lost, copied] onePicture
    outcome.volume.node? [copyName] = some (.file Node.fileMode [1]) ∧
      (∀ location, location ≠ [copyName] →
        outcome.volume.node? location = onePicture.node? location) ∧
      exitCode outcome.result = 1 ∧
      outcome.volume.Same
        (makeAll copying ⟨temporaryName.bytes⟩ [copied, lost] onePicture).volume := by
  have free : onePicture.LinkFree [] := fun location _ => node?_ne_link (by decide) location
  have elsewhere : onePicture.locate true (onePicture.absolute ⟨temporaryName.bytes⟩) ≠
      .ok onePicture.current := by
    have reached : onePicture.locate true (onePicture.absolute ⟨temporaryName.bytes⟩) =
        .ok [temporaryName] := by cbv
    rw [reached]
    decide
  have apart : [copied, lost].Pairwise (Apart onePicture ⟨temporaryName.bytes⟩) :=
    List.pairwise_pair.mpr
      ⟨spares_of_names free rfl rfl rfl (by decide) (by decide) elsewhere,
        spares_of_names free rfl rfl rfl (by decide) (by decide) elsewhere⟩
  obtain ⟨-, -, replaced, same, code⟩ := makeAll_independent copying confined_copying
    determined_copying ⟨temporaryName.bytes⟩ onePicture [copied, lost] free apart [lost, copied]
    (List.Perm.swap _ _ _)
  have made : (copied.generate copying ⟨temporaryName.bytes⟩ onePicture).result.isOk = true := by
    cbv
  have failed : (lost.generate copying ⟨temporaryName.bytes⟩ onePicture).result.isOk = false := by
    cbv
  have asked : destination onePicture copied.output = .ok [copyName] := by cbv
  obtain ⟨name, above, place, entry, -⟩ := destination_eq_ok_iff.mp asked
  refine ⟨?_, fun location differs => replaced.frame location ?_, ?_, same⟩
  · rw [replaced.laid copied List.mem_cons_self made [copyName] (place ▸ entry.asks)]
    cbv
  · intro request member done asks
    rcases List.mem_pair.mp member with rfl | rfl
    · exact differs (eq_of_meets_name free (.inl asks))
    · rw [failed] at done
      cases done
  · rw [code, List.all_cons, List.all_cons, failed, Bool.false_and, Bool.and_false]
    rfl

end Program
end CardKeeper

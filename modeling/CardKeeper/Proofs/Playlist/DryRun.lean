import CardKeeper.Proofs.Playlist.Generate
import CardKeeper.Proofs.Publish.Room

/-!
# Runs that only say what they would write

A dry run decides what a real run decides, and tells the same but for how it says so: `foretold`.
The two part only where a playlist has to be written and no draft can be made, which the dry run
does not find out: `dryRun_foretells`.
-/

namespace CardKeeper

/-- The texts of what is told at the usual level, in order. -/
def infoLines (notices : List Notice) : List String :=
  notices.filterMap fun notice =>
    match notice with
    | .event event => if event.level = .info then some event.text else none
    | _ => none

theorem infoLines_append (first second : List Notice) :
    infoLines (first ++ second) = infoLines first ++ infoLines second :=
  List.filterMap_append

namespace Playlist

open Volume Publish

variable {volume : Volume} {root : Path} {list : List PlaylistPlan} {naming : Naming}

/-! ## What is told -/

/-- What a dry run tells in the place of what a real run tells. -/
def foretold : Notice → Option Notice
  | .event (.writing playlist) => some (.event (.wouldWrite playlist))
  | .event (.published _ _) => none
  | notice => some notice

theorem of_mem_notices {notice : Notice} (member : notice ∈ notices volume root) :
    ∃ folder, notice = .event (.noDiscs folder) := by
  obtain ⟨finding, -, told⟩ := List.mem_flatMap.mp member
  cases finding with
  | noDiscs folder => exact ⟨folder, List.mem_singleton.mp told⟩
  | playlist plan => cases told

/-- Planning tells the same in both kinds of runs. -/
theorem filterMap_foretold_notices (volume : Volume) (root : Path) :
    (notices volume root).filterMap foretold = notices volume root := by
  have same : ∀ notice ∈ notices volume root, foretold notice = some notice := by
    intro notice member
    obtain ⟨folder, rfl⟩ := of_mem_notices member
    rfl
  rw [List.filterMap_congr same, List.filterMap_some]

theorem infoLines_notices (volume : Volume) (root : Path) :
    infoLines (notices volume root) = [] := by
  refine List.filterMap_eq_nil_iff.mpr fun notice member => ?_
  obtain ⟨folder, rfl⟩ := of_mem_notices member
  rfl

theorem filterMap_foretold_account (plans : List PlaylistPlan) :
    (plans.flatMap account).filterMap foretold =
      plans.map fun plan => .event (.wouldWrite plan.path) := by
  induction plans with
  | nil => rfl
  | cons plan rest ih =>
      rw [List.flatMap_cons, List.filterMap_append, ih]
      rfl

theorem infoLines_account (plans : List PlaylistPlan) :
    infoLines (plans.flatMap account) =
      (plans.map PlaylistPlan.path).map fun path => "Writing " ++ path.display := by
  induction plans with
  | nil => rfl
  | cons plan rest ih =>
      rw [List.flatMap_cons, infoLines_append, ih]
      rfl

theorem infoLines_wouldWrite (plans : List PlaylistPlan) :
    infoLines (plans.map fun plan => .event (.wouldWrite plan.path)) =
      (plans.map PlaylistPlan.path).map fun path => "Would write " ++ path.display := by
  induction plans with
  | nil => rfl
  | cons plan rest ih => exact congrArg (List.cons _) ih

theorem generateBy_dryRun (naming : Naming) (planned : plans volume root = .ok list) :
    generateBy naming root true volume =
      ⟨notices volume root ++ (pending list).map fun plan => .event (.wouldWrite plan.path),
        volume, .ok (report list)⟩ := by
  simp only [generateBy_of_ok naming true planned, writeAll_dryRun, Except.map]

/-! ## Both kinds of runs -/

/-- Where drafts can only fail for the length of their paths, so do runs after planning. -/
theorem blocked_iff (seated : volume.Seated) :
    Blocked naming root volume ↔ ∃ list, plans volume root = .ok list ∧ pending list ≠ [] ∧
      pathLimit <
        ((volume.absolute (draftFolder root)).entry naming.sample.bytes).bytes.length := by
  refine exists_congr fun list => and_congr_right fun planned => and_congr_right fun _ => ?_
  obtain ⟨above, reached, folder, -⟩ := plans_eq_ok_iff.mp planned
  have nul := (refusal?_eq_none_iff.mp (locate_eq_ok_iff.mp reached).1).1
  rw [hasRoom_iff seated (opens_of_locate reached folder) nul, Nat.not_le]

/-- A dry run leaves the volume as it was.  It ends like a real run unless a playlist has to be
written and there is no room for drafts, which in a current folder that can be reached from the top
means that the path of a draft is too long.  It then tells the same, but says what would be written
where the real run says what it writes, for each element of the report in order.  A real run without
room for drafts stops at the first playlist and leaves the volume as it was. -/
theorem dryRun_foretells (naming : Naming) (root : Path) (volume : Volume) :
    let dry := generateBy naming root true volume
    let real := generateBy naming root false volume
    dry.volume = volume ∧
    (real.result = dry.result ↔ ¬ Blocked naming root volume) ∧
    (¬ Blocked naming root volume → dry.notices = real.notices.filterMap foretold) ∧
    (match dry.result with
      | .error _ => infoLines dry.notices = [] ∧ infoLines real.notices = []
      | .ok report =>
          infoLines dry.notices =
            report.written.map (fun path => "Would write " ++ path.display) ∧
          (¬ Blocked naming root volume → infoLines real.notices =
            report.written.map fun path => "Writing " ++ path.display) ∧
          (Blocked naming root volume → ∃ first fault, report.written.head? = some first ∧
            real.result = .error (.file first fault) ∧ real.volume = volume ∧
            infoLines real.notices = ["Writing " ++ first.display])) ∧
    (volume.Seated → (Blocked naming root volume ↔
      ∃ list, plans volume root = .ok list ∧ pending list ≠ [] ∧ pathLimit <
        ((volume.absolute (draftFolder root)).entry naming.sample.bytes).bytes.length)) := by
  dsimp only
  cases planned : plans volume root with
  | error error =>
      have open_ : ¬ Blocked naming root volume := by
        rintro ⟨list, plans_eq, -⟩
        cases planned.symm.trans plans_eq
      have silent := infoLines_notices volume root
      rw [generateBy_of_error naming true planned, generateBy_of_error naming false planned,
        ← planned]
      exact ⟨rfl, iff_of_true rfl open_, fun _ => (filterMap_foretold_notices volume root).symm,
        ⟨silent, silent⟩, blocked_iff⟩
  | ok list =>
      have said : infoLines (notices volume root ++
            (pending list).map fun plan => .event (.wouldWrite plan.path)) =
          (report list).written.map fun path => "Would write " ++ path.display := by
        rw [infoLines_append, infoLines_notices, infoLines_wouldWrite, List.nil_append, report]
      rw [generateBy_dryRun naming planned, ← planned]
      by_cases blocked : Blocked naming root volume
      · obtain ⟨plan, rest, fault, shape, failed⟩ := generateBy_of_blocked planned blocked
        rw [failed]
        refine ⟨rfl, iff_of_false nofun (not_not_intro blocked), fun free => absurd blocked free,
          ⟨said, fun free => absurd blocked free, fun _ => ⟨plan.path, fault, ?_, rfl, rfl, ?_⟩⟩,
          blocked_iff⟩
        · rw [report, shape, List.map_cons, List.head?_cons]
        · rw [infoLines_append, infoLines_notices]
          rfl
      · obtain ⟨above, -, -, done, told, -⟩ := generateBy_of_not_blocked planned blocked
        refine ⟨rfl, iff_of_true done blocked, fun _ => ?_,
          ⟨said, fun _ => ?_, fun stuck => absurd stuck blocked⟩, blocked_iff⟩
        · rw [told, List.filterMap_append, filterMap_foretold_notices, filterMap_foretold_account]
        · rw [told, infoLines_append, infoLines_notices, infoLines_account, List.nil_append, report]

/-! ## A folder by a long way -/

/-- The path of an entry of the current folder that first stays there for a while. -/
def roundabout (count : Nat) (name : Name) : Path :=
  ⟨(List.replicate count [Path.dot, Path.slash]).flatten ++ name.bytes⟩

theorem isAbsolute_roundabout (count : Nat) (name : Name) :
    (roundabout count name).isAbsolute = false := by
  cases count with
  | zero => exact Path.isAbsolute_of_plain name.slash_not_mem
  | succ count => rfl

theorem segments_roundabout (count : Nat) (name : Name) :
    (roundabout count name).segments = List.replicate count [Path.dot] ++ [name.bytes] := by
  induction count with
  | zero => exact Path.segments_of_plain name.slash_not_mem
  | succ count ih =>
      have onward := Path.segments_append_slash (roundabout count name).bytes
        (List.cons_ne_nil Path.dot [])
      have later : (roundabout count name).bytes.splitOn Path.slash =
          (roundabout count name).segments := by
        rw [Path.segments, isAbsolute_roundabout, if_neg Bool.false_ne_true]
      rw [later, ih] at onward
      exact onward

theorem length_roundabout (count : Nat) (name : Name) :
    (roundabout count name).bytes.length = 2 * count + name.bytes.length := by
  simp [roundabout, Nat.mul_comm]

theorem nul_not_mem_roundabout (count : Nat) (name : Name) :
    0 ∉ (roundabout count name).bytes := by
  simp [roundabout, name.nul_not_mem, Path.dot, Path.slash]

/-- The path of an entry by a long way is refused exactly if it is too long. -/
theorem refusal?_roundabout_iff (count : Nat) (name : Name) (names : List Name) :
    refusal? ((roundabout count name).descend names) = none ↔
      2 * count + name.bytes.length + (names.map fun name => name.bytes.length + 1).sum ≤
        pathLimit := by
  have lengths : ((roundabout count name).descend names).bytes.length =
      2 * count + name.bytes.length + (names.map fun name => name.bytes.length + 1).sum := by
    rw [← length_roundabout, roundabout, Path.bytes_descend, List.length_append,
      List.length_flatMap]
    simp only [List.length_cons]
  have named := List.length_pos_of_ne_nil name.ne_nil
  have some : ((roundabout count name).descend names).bytes ≠ [] :=
    List.ne_nil_of_length_pos (by omega)
  rw [refusal?_eq_none_iff, lengths]
  simp [Path.nul_not_mem_descend (nul_not_mem_roundabout count name) names, some]

theorem opens_roundabout {name : Name} {mode : Nat} (count : Nat)
    (here : volume.isFolderAt volume.current = true) (short : name.bytes.length ≤ nameLimit)
    (standing : volume.node? (name :: volume.current) = some (.folder mode)) :
    volume.Opens (roundabout count name) (name :: volume.current) := by
  rw [Opens, Path.prior_of_segments (segments_roundabout count name), start,
    isAbsolute_roundabout, if_neg Bool.false_ne_true]
  refine walk_concat_filler.mpr ⟨?_, isFolderAt_iff.mpr ⟨mode, standing⟩⟩
  rw [walk_replicate_filler rfl here, walk_cons, turn_name here short, standing]
  simp only [enter, walk_nil]

/-- The name `P`. -/
def farFolder : Name := ⟨[0x50], by decide⟩

/-- The name `G`. -/
def farTitle : Name := ⟨[0x47], by decide⟩

/-- The name `d.cue`. -/
def farDisc : Name := ⟨[0x64, 0x2E, 0x63, 0x75, 0x65], by decide⟩

/-- A folder with one title on one disc. -/
def farCard : Volume where
  entries := [([farFolder], .folder Node.folderMode),
    ([farTitle, farFolder], .folder Node.folderMode),
    ([farDisc, farTitle, farFolder], .file Node.fileMode [])]

/-- A path to the folder of titles that leaves no room for the name of a draft. -/
@[irreducible]
def farRoot : Path :=
  roundabout 2042 farFolder

theorem farRoot_eq : farRoot = roundabout 2042 farFolder := by
  unfold farRoot
  rfl

/-- The plan for the title. -/
def farPlan : PlaylistPlan :=
  ⟨farRoot.entry (nameFor farTitle).bytes, "G/d.cue", .create⟩

theorem opens_far (count : Nat) : farCard.Opens (roundabout count farFolder) [farFolder] :=
  opens_roundabout count rfl (by decide) rfl

theorem opens_farRoot : farCard.Opens farRoot [farFolder] :=
  farRoot_eq ▸ opens_far 2042

theorem locate_far {names : List Name} (some : names ≠ [])
    (accepted : refusal? (farRoot.descend names) = none)
    (near : refusal? ((roundabout 0 farFolder).descend names) = none) :
    farCard.locate true (farRoot.descend names) =
      farCard.locate true ((roundabout 0 farFolder).descend names) :=
  locate_descend_congr opens_farRoot (opens_far 0)
    (fun location _ => node?_ne_link (by decide) location) some (accepted.trans near.symm)
    fun _ _ => rfl

theorem length_farRoot : farRoot.bytes.length = 4085 :=
  farRoot_eq ▸ length_roundabout 2042 farFolder

theorem nul_not_mem_farRoot : 0 ∉ farRoot.bytes :=
  farRoot_eq ▸ nul_not_mem_roundabout 2042 farFolder

theorem refusal?_far (name : Name) (short : name.bytes.length ≤ 9) :
    refusal? (farRoot.entry name.bytes) = none := by
  refine refusal?_entry_of_short nul_not_mem_farRoot ?_
  rw [length_farRoot, pathLimit]
  omega

theorem locate_farTitle :
    farCard.locate true (farRoot.entry farTitle.bytes) = .ok [farTitle, farFolder] :=
  (locate_far (List.cons_ne_nil farTitle []) (refusal?_far farTitle (by decide))
    (by decide)).trans (by cbv)

theorem isDisc_far :
    isDisc farCard ((farRoot.entry farTitle.bytes).entry farDisc.bytes) = true := by
  have longer : refusal? ((farRoot.entry farTitle.bytes).entry farDisc.bytes) = none := by
    have relative := Path.isAbsolute_of_plain farTitle.slash_not_mem
    have title : (farRoot.entry farTitle.bytes).bytes.length ≤ 4085 + 1 + 1 :=
      length_farRoot ▸ (Path.length_join farRoot relative).2
    refine refusal?_entry_of_short
      (Path.nul_not_mem_join nul_not_mem_farRoot farTitle.nul_not_mem) ?_
    rw [pathLimit]
    exact Nat.lt_of_le_of_lt (Nat.add_le_add_right title 5) (by decide)
  have found : farCard.locate true ((farRoot.entry farTitle.bytes).entry farDisc.bytes) =
      .ok [farDisc, farTitle, farFolder] :=
    (locate_far (List.cons_ne_nil farTitle [farDisc]) longer (by decide)).trans (by cbv)
  have file := isFile_iff.mpr ⟨_, _, _, found, rfl⟩
  rw [isDisc, file, Path.hasExtension, Path.extension?, Path.fileName?_entry]
  cbv

theorem linesFor_far : linesFor farCard farRoot farTitle = ["G/d.cue"] := by
  have names : farCard.names [farTitle, farFolder] = [farDisc] := by decide
  rw [linesFor_eq locate_farTitle (by decide), names, List.filter_singleton, isDisc_far]
  cbv

theorem plans_far : plans farCard farRoot = .ok [farPlan] := by
  have playlist : farCard.locate true (farRoot.entry (nameFor farTitle).bytes) =
      .error .notFound :=
    (locate_far (List.cons_ne_nil (nameFor farTitle) []) (refusal?_far _ (by cbv))
      (by cbv)).trans (by cbv)
  have absent : status farCard (farRoot.entry (nameFor farTitle).bytes)
      (contentFor farCard farRoot farTitle) = .ok .create := by
    simp only [status, Volume.read, status?, playlist, Except.bind]
  have called : callers farCard farRoot [farFolder] = [farTitle] := by
    have names : (farCard.names [farFolder]).mergeSort nameLe = [farTitle] := by cbv
    have folder := isFolder_iff.mpr ⟨_, locate_farTitle, by decide⟩
    simp [callers, titles, names, folder, linesFor_far]
  have reached : farCard.locate true farRoot = .ok [farFolder] := by
    have some : farRoot.bytes ≠ [] :=
      List.ne_nil_of_length_pos (length_farRoot ▸ Nat.succ_pos 4084)
    have accepted := refusal?_of_prefix (prefix_entry farRoot farTitle.slash_not_mem) some
      (refusal?_far farTitle (by decide))
    exact opens_farRoot.locate_eq accepted
  refine plans_eq_ok_iff.mpr ⟨[farFolder], reached, by decide, ?_⟩
  rw [called, List.map_singleton, planFor_of_status absent, contentFor, linesFor_far]
  rfl

/-- The playlist has to be written, but the path of its draft is too long. -/
theorem blocked_far : Blocked .draft farRoot farCard := by
  have seated : farCard.Seated := {
    folders location under := by
      rw [List.suffix_nil.mp under]
      rfl
    short _ member := nomatch member }
  refine (blocked_iff seated).mpr ⟨[farPlan], plans_far, List.cons_ne_nil farPlan [], ?_⟩
  have relative : farRoot.isAbsolute = false := farRoot_eq ▸ isAbsolute_roundabout 2042 farFolder
  have same : draftFolder farRoot = farRoot :=
    draftFolder_of_segments (farRoot_eq ▸ segments_roundabout 2042 farFolder)
  have rooted := (Path.length_join (pathTo farCard.current) relative).1
  have drafted := (Path.length_join (farCard.absolute farRoot)
    (Path.isAbsolute_of_plain Naming.draft.sample.slash_not_mem)).1
  have top : (pathTo farCard.current).bytes.length = 1 := rfl
  have sample : Naming.draft.sample.bytes.length = 10 := by decide
  rw [top, length_farRoot] at rooted
  rw [sample] at drafted
  rw [same, pathLimit]
  exact Nat.lt_of_lt_of_le (by decide) (Nat.le_trans (Nat.add_le_add_right rooted 10) drafted)

/-- Planning succeeds, and so does the dry run, but the real run fails. -/
theorem dryRun_differs_far :
    (generate farRoot true farCard).result = .ok ⟨[farPlan.path], 0⟩ ∧
      (generate farRoot false farCard).result ≠ (generate farRoot true farCard).result := by
  obtain ⟨plan, rest, fault, -, failed⟩ := generateBy_of_blocked plans_far blocked_far
  have said : (generate farRoot true farCard).result = .ok (report [farPlan]) := by
    rw [generate, generateBy_dryRun .draft plans_far]
  rw [said, generate, failed]
  exact ⟨rfl, nofun⟩

end Playlist
end CardKeeper

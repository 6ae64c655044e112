import CardKeeper.Proofs.Activity
import CardKeeper.Proofs.Audit.Change
import CardKeeper.Proofs.Publish

/-!
# Audits after images are supplied

An image that was missing is published where nothing stood, in the folder of images of one console.
There it is no game, no title and no configuration, so an audit differs only in the entries that
looked for it: `report_supplied`.  Images that are supplied one after another therefore complete a
card.
-/

namespace CardKeeper
namespace Audit

open Volume Publish

variable {before after : Volume} {card : Card} {rules : Rules} {home : Location}
  {name entry : Name} {naming : Naming} {data : Bytes} {path other : Path} {result : AuditReport}

/-! ## One image -/

/-- The image for an entry of a console's folder was laid where nothing stood. -/
structure Supplies (before after : Volume) (card : Card) (rules : Rules) (home : Location)
    (name entry : Name) : Prop where
  /-- The card's top folder is at the location. -/
  opens : before.Opens card.root home
  /-- No link stands in the card. -/
  free : before.LinkFree home
  /-- The image is an entry of the folder of images. -/
  asked : before.EntryAt (wantedImage card rules (gamePath name entry))
    (imageName rules name entry) (imagesName :: name :: gamesName :: home)
  /-- Nothing stood there. -/
  fresh : before.node? (imageName rules name entry :: imagesName :: name :: gamesName :: home) =
    none
  /-- Nothing else changed. -/
  laid : ∃ mode content, after =
    before.put (imageName rules name entry :: imagesName :: name :: gamesName :: home)
      (.file mode content)

/-- An image that is missing is published where nothing stood. -/
theorem exists_supplies (free : CardLinkFree before card)
    (missing : before.contains (wantedImage card rules (gamePath name entry)) = false)
    (done : (publishBy naming (wantedImage card rules (gamePath name entry)) data before).result =
      .ok ()) :
    ∃ home, Supplies before
      (publishBy naming (wantedImage card rules (gamePath name entry)) data before).volume
      card rules home name entry := by
  obtain ⟨room, last, above, asked, closed⟩ := (publishBy_eq_ok_iff _ _ _ _).mp done
  obtain ⟨draft, found⟩ := (exists_spareName_iff _).mpr room
  have shape : wantedImage card rules (gamePath name entry) =
      (card.root.descend [gamesName, name, imagesName]).entry (imageName rules name entry).bytes :=
    wantedImage_eq_descend card rules name entry
  obtain ⟨rfl, images⟩ := EntryAt.opens (shape ▸ asked)
  obtain ⟨home, opens⟩ := images.of_descend
  obtain rfl : above = imagesName :: name :: gamesName :: home :=
    opens.eq_of_descend (free home opens) images
  refine ⟨home, opens, free home opens, asked, ?_, _, _,
    congrArg Outcome.volume (publishBy_of_entryAt found asked closed)⟩
  cases standing : before.node?
      (imageName rules name entry :: imagesName :: name :: gamesName :: home) with
  | none => rfl
  | some node =>
      have below : home <:+ imageName rules name entry :: imagesName :: name :: gamesName :: home :=
        List.suffix_append [_, _, _, _] home
      rw [contains, asked.status?_eq (free home opens _ below) standing] at missing
      cases missing

namespace Supplies

variable (supplies : Supplies before after card rules home name entry)

include supplies

theorem overlays : after.Overlays before := by
  obtain ⟨mode, content, rfl⟩ := supplies.laid
  exact (Overlays.refl before).put (.of_fresh supplies.fresh) mode content

theorem node?_of_ne {location : Location}
    (differs : location ≠
      imageName rules name entry :: imagesName :: name :: gamesName :: home) :
    after.node? location = before.node? location := by
  obtain ⟨mode, content, rfl⟩ := supplies.laid
  exact node?_put_of_ne (List.cons_ne_nil _ _) differs before _

theorem changesGames : ChangesGames before after card home where
  overlays := supplies.overlays
  opens := supplies.opens
  free := supplies.free
  frame location := by
    by_cases here : location =
        imageName rules name entry :: imagesName :: name :: gamesName :: home
    · exact .inr ⟨imagesName, name, here ▸ List.suffix_cons _ _⟩
    · exact .inl (supplies.node?_of_ne here)

/-- A path in the card that does not come upon the image leads where it did. -/
theorem status?_eq {names : List Name} (some : names ≠ [])
    (aside : ¬ [gamesName, name, imagesName, imageName rules name entry] <+: names) :
    after.status? (card.root.descend names) = before.status? (card.root.descend names) := by
  refine status?_descend_congr (supplies.overlays.opens_iff.mpr supplies.opens) supplies.opens
    supplies.free some fun location passed => supplies.node?_of_ne ?_
  rintro rfl
  have onward : [imageName rules name entry, imagesName, name, gamesName] ++ home ∈
      route home names := passed
  exact aside (prefix_of_mem_route onward)

/-- The image is no game and no title. -/
theorem wantsImage_iff (console own : Name) (launcher : Launcher) :
    WantsImage after card rules console launcher own ↔
      WantsImage before card rules console launcher own := by
  have aside : ¬ [gamesName, name, imagesName, imageName rules name entry] <+:
      [gamesName, console, own] := by
    simp
  have same : after.isFile ((card.games.entry console.bytes).entry own.bytes) =
      before.isFile ((card.games.entry console.bytes).entry own.bytes) := by
    have alike := supplies.status?_eq (List.cons_ne_nil gamesName [console, own]) aside
    exact isFile_congr alike
  simp only [WantsImage, supplies.overlays.isFolder_eq, same]

/-- No other image is new. -/
theorem contains_wantedImage (console own : Name) :
    after.contains (wantedImage card rules (gamePath console own)) =
      (before.contains (wantedImage card rules (gamePath console own)) ||
        !(wantedImage card rules (gamePath console own) !=
          wantedImage card rules (gamePath name entry))) := by
  by_cases same : wantedImage card rules (gamePath console own) =
      wantedImage card rules (gamePath name entry)
  · obtain ⟨mode, content, laid⟩ := supplies.laid
    have standing : after.node?
        (imageName rules name entry :: imagesName :: name :: gamesName :: home) =
        some (.file mode content) := by
      rw [laid, node?_put_self (List.cons_ne_nil _ _)]
    have found := (supplies.overlays.entryAt_iff.mpr supplies.asked).status?_file standing
    rw [same, contains, found]
    simp [Except.isOk, Except.toBool]
  · have aside : ¬ [gamesName, name, imagesName, imageName rules name entry] <+:
        [gamesName, console, imagesName, imageName rules console own] := by
      intro first
      obtain ⟨rfl, image⟩ : name = console ∧
          imageName rules name entry = imageName rules console own := by simpa using first
      rw [wantedImage_eq_descend, wantedImage_eq_descend, image] at same
      exact same rfl
    rw [contains, contains, wantedImage_eq_descend card rules console own,
      supplies.status?_eq (List.cons_ne_nil _ _) aside]
    rw [wantedImage_eq_descend card rules console own] at same
    simp [same]

end Supplies

/-- An entry that lacks an image lies in the folder of a console, and nothing is found where its
image should be. -/
theorem exists_gamePath (completed : report before card rules = .ok result)
    (member : path ∈ result.missing) : ∃ name entry, path = gamePath name entry ∧
      before.contains (wantedImage card rules (gamePath name entry)) = false := by
  obtain ⟨above, found, reached, -, ended, rfl⟩ := report_eq_ok_iff.mp completed
  obtain ⟨name, console, launcher, entry, isConsole, -, lacks, rfl⟩ :=
    (mem_missing_iff reached ended).mp member
  exact ⟨name, entry, rfl, ((lacksImage_iff isConsole.text).mp lacks).2⟩

/-- Entries with the same image lie in the folder of the same console. -/
theorem eq_of_wantedImage_eq {left right leftEntry rightEntry : Name}
    (same : wantedImage card rules (gamePath left leftEntry) =
      wantedImage card rules (gamePath right rightEntry)) : left = right := by
  have priors := congrArg Path.prior same
  rw [wantedImage_eq_descend, wantedImage_eq_descend, prior_descend, prior_descend,
    List.append_cancel_left_eq] at priors
  simp only [List.map_cons, List.cons.injEq] at priors
  exact Name.ext_bytes priors.2.1

/-- The entries that looked for the image are no longer reported, and nothing else changes. -/
theorem report_supplied (free : CardLinkFree before card) (plain : PlainConfigs rules)
    (completed : report before card rules = .ok result) (member : path ∈ result.missing)
    (done : (publishBy naming (wantedImage card rules path) data before).result = .ok ()) :
    let after := (publishBy naming (wantedImage card rules path) data before).volume
    CardLinkFree after card ∧ report after card rules = .ok (result.keeping fun other =>
      wantedImage card rules other != wantedImage card rules path) := by
  obtain ⟨name, entry, rfl, missing⟩ := exists_gamePath completed member
  obtain ⟨home, supplies⟩ := exists_supplies free missing done
  obtain ⟨above, found, reached, folder, -⟩ := report_eq_ok_iff.mp completed
  have same := supplies.changesGames.findings_eq
    (fun other => wantedImage card rules other != wantedImage card rules (gamePath name entry))
    plain reached folder supplies.wantsImage_iff supplies.contains_wantedImage
  refine ⟨free.overlay supplies.overlays, ?_⟩
  rw [report_of_keeping same, completed]
  rfl

/-! ## One image after another -/

/-- Supply images one after another, until none is missing or so many have been supplied: publish
the image that one of the missing entries looks for, and audit the card again.  The result is the
number of images that were supplied. -/
def fillIn (naming : Naming) (card : Card) (rules : Rules) (choose : AuditReport → Path × Bytes) :
    Nat → Activity Fault Nat
  | 0 => .done 0
  | limit + 1 => do
      match ← Activity.look fun volume => report volume card rules with
      | .error _ => return 0
      | .ok found =>
          if found.hasMissing then
            publishBy naming (wantedImage card rules (choose found).1) (choose found).2
            let more ← fillIn naming card rules choose limit
            return more + 1
          else return 0

variable {choose : AuditReport → Path × Bytes} {limit count : Nat}

theorem fillIn_of_complete (completed : report before card rules = .ok result)
    (nothing : result.hasMissing = false) :
    fillIn naming card rules choose limit before = ⟨[], before, .ok 0⟩ := by
  cases limit with
  | zero => rfl
  | succ limit => simp [fillIn, bind, Activity.andThen, Activity.look, completed, nothing, pure,
      Activity.done]

/-- While entries are missing, supplying images starts with the image of one of them. -/
theorem fillIn_of_missing (completed : report before card rules = .ok result)
    (some : result.hasMissing = true)
    (done : (fillIn naming card rules choose (limit + 1) before).result = .ok count) :
    let first :=
      publishBy naming (wantedImage card rules (choose result).1) (choose result).2 before
    let rest := fillIn naming card rules choose limit first.volume
    first.result = .ok () ∧ ∃ more, rest.result = .ok more ∧ count = more + 1 ∧
      (fillIn naming card rules choose (limit + 1) before).volume = rest.volume := by
  intro first rest
  have unfolded : fillIn naming card rules choose (limit + 1) before =
      (publishBy naming (wantedImage card rules (choose result).1) (choose result).2 >>= fun _ =>
        fillIn naming card rules choose limit >>= fun more => pure (more + 1)) before := by
    simp [fillIn, bind, Activity.andThen, Activity.look, completed, some]
  rw [unfolded] at done ⊢
  obtain ⟨_, published, onward⟩ := Activity.of_bind_ok done
  obtain ⟨more, filled, last⟩ := Activity.of_bind_ok onward
  refine ⟨published, more, filled, (Except.ok.inj last).symm, ?_⟩
  rw [Activity.volume_bind published, Activity.volume_bind filled]
  rfl

/-- Images that are supplied one after another, as long as each of them can be published, complete
a card.  That takes no more of them than entries were missing. -/
theorem complete_of_fillIn (plain : PlainConfigs rules)
    (picks : ∀ found, found.hasMissing = true → (choose found).1 ∈ found.missing)
    (free : CardLinkFree before card) (completed : report before card rules = .ok result)
    (enough : result.missing.length ≤ limit)
    (done : (fillIn naming card rules choose limit before).result = .ok count) :
    count ≤ result.missing.length ∧ ∃ final,
      report (fillIn naming card rules choose limit before).volume card rules = .ok final ∧
        final.hasMissing = false := by
  induction limit generalizing before result count with
  | zero =>
      have nothing : result.missing = [] := List.length_eq_zero_iff.mp (Nat.le_zero.mp enough)
      obtain rfl : 0 = count := Except.ok.inj done
      exact ⟨Nat.zero_le _, result, completed, by simp [AuditReport.hasMissing, nothing]⟩
  | succ limit ih =>
      cases some : result.hasMissing with
      | false =>
          rw [fillIn_of_complete completed some] at done ⊢
          obtain rfl : 0 = count := Except.ok.inj done
          exact ⟨Nat.zero_le _, result, completed, some⟩
      | true =>
          obtain ⟨published, more, filled, rfl, last⟩ := fillIn_of_missing completed some done
          have member := picks result some
          obtain ⟨still, again⟩ := report_supplied free plain completed member published
          -- The entry whose image was supplied is one that no longer lacks it.
          have fewer : (result.keeping fun other => wantedImage card rules other !=
              wantedImage card rules (choose result).1).missing.length < result.missing.length :=
            List.length_filter_lt_length_iff_exists.mpr ⟨_, member, by simp⟩
          obtain ⟨few, final, reported, complete⟩ := ih still again (by omega) filled
          exact ⟨by omega, final, last ▸ reported, complete⟩

/-- On a card without links, with plain names for the launcher, an image that is published for an
entry without one takes exactly those entries off the list that look for this image, all of them in
the folder of one console; the audit still succeeds, and says the same about everything else.  So
images supplied one after another complete the card, with no more of them than entries were
missing. -/
theorem missing_supplied (naming : Naming) (before : Volume) (card : Card) (rules : Rules)
    (result : AuditReport) (free : CardLinkFree before card) (plain : PlainConfigs rules)
    (completed : report before card rules = .ok result) :
    (∀ path ∈ result.missing, ∀ data,
      let outcome := publishBy naming (wantedImage card rules path) data before
      outcome.result = .ok () →
        ∃ again, report outcome.volume card rules = .ok again ∧
          again.missing = (result.missing.filter fun other =>
            wantedImage card rules other != wantedImage card rules path) ∧
          again.unconfigured = result.unconfigured ∧ again.examined = result.examined ∧
          ∃ name entry, path = gamePath name entry ∧ ∀ other ∈ result.missing,
            other ∉ again.missing ↔ ∃ sibling, other = gamePath name sibling ∧
              wantedImage card rules other = wantedImage card rules path) ∧
    ∀ choose : AuditReport → Path × Bytes,
      (∀ found, found.hasMissing = true → (choose found).1 ∈ found.missing) →
      ∀ limit count, result.missing.length ≤ limit →
        let outcome := fillIn naming card rules choose limit before
        outcome.result = .ok count → count ≤ result.missing.length ∧
          ∃ final, report outcome.volume card rules = .ok final ∧ final.hasMissing = false := by
  refine ⟨?_, fun choose picks limit count enough =>
    complete_of_fillIn plain picks free completed enough⟩
  intro path member data outcome done
  obtain ⟨-, again⟩ := report_supplied free plain completed member done
  obtain ⟨name, entry, rfl, -⟩ := exists_gamePath completed member
  refine ⟨_, again, rfl, rfl, rfl, name, entry, rfl, fun other isIn => ?_⟩
  obtain ⟨console, sibling, rfl, -⟩ := exists_gamePath completed isIn
  simp only [AuditReport.keeping, List.mem_filter, isIn, bne_iff_ne, true_and, ne_eq,
    Classical.not_not]
  constructor
  · intro same
    obtain rfl := eq_of_wantedImage_eq same
    exact ⟨sibling, rfl, same⟩
  · rintro ⟨-, -, same⟩
    exact same

/-- The name `a.GB`. -/
def loudFile : Name := ⟨[0x61, 0x2E, 0x47, 0x42], by decide⟩

/-- The small card with a folder of images, and with two games that share an image. -/
def twinCard : Volume where
  entries := smallCard.entries ++ [([imagesName, gameBoy, gamesName], .folder Node.folderMode),
    ([loudFile, gameBoy, gamesName], .file Node.fileMode [])]

/-- Take the first entry that lacks an image, and an empty picture. -/
def firstMissing (found : AuditReport) : Path × Bytes :=
  (found.missing.headD ⟨[]⟩, [])

theorem firstMissing_mem (found : AuditReport) (some : found.hasMissing = true) :
    (firstMissing found).1 ∈ found.missing := by
  obtain ⟨missing, unconfigured, examined⟩ := found
  cases missing with
  | nil => cases some
  | cons first rest => exact List.mem_cons_self

/-- One image is enough for the two games, and completes the card. -/
theorem complete_twinCard :
    (∃ again, report (publishBy .draft (wantedImage ⟨.ofText "."⟩ .standard
        (gamePath gameBoy gameFile)) [] twinCard).volume ⟨.ofText "."⟩ .standard = .ok again ∧
      again.missing = [] ∧ again.unconfigured = ["FC"] ∧ again.examined = 1) ∧
    (fillIn .draft ⟨.ofText "."⟩ .standard firstMissing 2 twinCard).result = .ok 1 ∧
    ∃ final, report (fillIn .draft ⟨.ofText "."⟩ .standard firstMissing 2 twinCard).volume
      ⟨.ofText "."⟩ .standard = .ok final ∧ final.hasMissing = false := by
  have free : CardLinkFree twinCard ⟨.ofText "."⟩ :=
    fun _ _ location _ => node?_ne_link (by decide) location
  have completed : report twinCard ⟨.ofText "."⟩ .standard =
      .ok ⟨[gamePath gameBoy loudFile, gamePath gameBoy gameFile], ["FC"], 1⟩ := by cbv
  obtain ⟨supplied, filled⟩ := missing_supplied .draft twinCard ⟨.ofText "."⟩ .standard _ free
    plainConfigs_standard completed
  have done : (publishBy .draft (wantedImage ⟨.ofText "."⟩ .standard (gamePath gameBoy gameFile)) []
      twinCard).result = .ok () := by cbv
  have count : (fillIn .draft ⟨.ofText "."⟩ .standard firstMissing 2 twinCard).result = .ok 1 := by
    cbv
  obtain ⟨again, reported, missing, unconfigured, examined, -⟩ :=
    supplied (gamePath gameBoy gameFile) (by simp) [] done
  refine ⟨⟨again, reported, ?_, unconfigured, examined⟩, count, ?_⟩
  · have twins : wantedImage ⟨.ofText "."⟩ .standard (gamePath gameBoy loudFile) =
        wantedImage ⟨.ofText "."⟩ .standard (gamePath gameBoy gameFile) := by
      rw [wantedImage_gamePath, wantedImage_gamePath]
      exact congrArg _ (by decide)
    rw [missing]
    simp [twins]
  · exact (filled firstMissing firstMissing_mem 2 1 (by simp) count).2

end Audit
end CardKeeper

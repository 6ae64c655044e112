import Mathlib
import CardKeeper.Audit
import CardKeeper.Proofs.Json.Text
import CardKeeper.Proofs.Path.Extension
import CardKeeper.Proofs.Text.Blank
import CardKeeper.Proofs.Text.Lowercase
import CardKeeper.Proofs.Volume.Sorted

/-!
# Which files a console accepts

A list of extensions is read as a set: lists whose items have the same normal forms are the same
(`extensions_eq_of_covers`).  So neither the order of the items counts nor the blanks around them,
nor how often one is there, nor the case of its ASCII letters (`accepts_restyled`).  Of a file's
name only the extension counts, again up to the case of ASCII letters, which is a matter of single
bytes: `decode?_map_lowerByte`.
-/

namespace CardKeeper

/-! ## Letters in file names -/

namespace Utf8

open Text (asciiLower)

variable {bytes : Bytes} {character : Char} {characters : List Char}

/-- The lower-case form of the byte of an ASCII letter, and any other byte unchanged. -/
def lowerByte (byte : UInt8) : UInt8 :=
  if 0x41 ≤ byte ∧ byte ≤ 0x5A then byte + 0x20 else byte

theorem lowerByte_of_high {byte : UInt8} (high : 0x80 ≤ byte.toNat) : lowerByte byte = byte := by
  refine if_neg fun capital => ?_
  have low : byte.toNat ≤ 0x5A := UInt8.le_iff_toNat_le.mp capital.2
  omega

theorem eq_of_lowerByte_high {byte : UInt8} (high : 0x80 ≤ (lowerByte byte).toNat) :
    lowerByte byte = byte := by
  have all : ∀ code < 0x80, ¬ 0x80 ≤ (lowerByte (UInt8.ofNat code)).toNat := by decide +kernel
  rcases Nat.lt_or_ge byte.toNat 0x80 with low | high'
  · have other := all byte.toNat low
    rw [UInt8.ofNat_toNat] at other
    exact absurd high other
  · exact lowerByte_of_high high'

theorem utf8EncodeChar_asciiLower (character : Char) :
    String.utf8EncodeChar (asciiLower character) =
      (String.utf8EncodeChar character).map lowerByte := by
  rcases Nat.lt_or_ge character.toNat 0x80 with low | high
  · have all : ∀ code < 0x80, String.utf8EncodeChar (asciiLower (Char.ofNat code)) =
        (String.utf8EncodeChar (Char.ofNat code)).map lowerByte := by decide +kernel
    have same := all character.toNat low
    rwa [Char.ofNat_toNat] at same
  · have kept : asciiLower character = character := by
      refine if_neg fun capital => ?_
      have low : character.toNat ≤ 0x5A := capital.2
      omega
    have unchanged : (String.utf8EncodeChar character).map lowerByte =
        (String.utf8EncodeChar character).map id :=
      List.map_congr_left fun byte member =>
        lowerByte_of_high (Json.high_of_mem_utf8EncodeChar high member)
    rw [kept, unchanged, List.map_id]

theorem encodeChars_map_asciiLower (characters : List Char) :
    encodeChars (characters.map asciiLower) = (encodeChars characters).map lowerByte := by
  induction characters with
  | nil => rfl
  | cons character rest ih =>
      rw [List.map_cons, encodeChars_cons, encodeChars_cons, List.map_append, ih,
        utf8EncodeChar_asciiLower]

/-- Bytes that encode a text once their letters are lower-cased encode one before. -/
theorem exists_encodeChars_of_map_lowerByte (same : bytes.map lowerByte = encodeChars characters) :
    ∃ original, bytes = encodeChars original := by
  induction characters generalizing bytes with
  | nil => exact ⟨[], List.map_eq_nil_iff.mp same⟩
  | cons character rest ih =>
      rw [encodeChars_cons, List.map_eq_append_iff] at same
      obtain ⟨front, back, rfl, first, later⟩ := same
      obtain ⟨original, rfl⟩ := ih later
      suffices whole : ∃ own, front = String.utf8EncodeChar own by
        obtain ⟨own, rfl⟩ := whole
        exact ⟨own :: original, rfl⟩
      rcases Nat.lt_or_ge character.toNat 0x80 with low | high
      · have single : ∀ code < 0x80,
            String.utf8EncodeChar (Char.ofNat code) = [UInt8.ofNat code] := by decide +kernel
        have byte := single character.toNat low
        rw [Char.ofNat_toNat] at byte
        rw [byte] at first
        obtain ⟨own, rfl, lowered⟩ := List.map_eq_singleton_iff.mp first
        have small : own.toNat < 0x80 := by
          rcases Nat.lt_or_ge own.toNat 0x80 with small | large
          · exact small
          · rw [lowerByte_of_high large] at lowered
            rw [lowered, UInt8.toNat_ofNat'] at large
            omega
        refine ⟨Char.ofNat own.toNat, ?_⟩
        rw [single own.toNat small, UInt8.ofNat_toNat]
      · have unchanged : front.map lowerByte = front.map id :=
          List.map_congr_left fun byte member => by
            refine eq_of_lowerByte_high (Json.high_of_mem_utf8EncodeChar high ?_)
            exact first ▸ List.mem_map_of_mem member
        exact ⟨character, by rw [← first, unchanged, List.map_id]⟩

/-- Bytes whose letters are lower-cased decode to the text whose letters are. -/
theorem decode?_map_lowerByte (bytes : Bytes) : decode? (bytes.map lowerByte) =
    (decode? bytes).map fun text => String.ofList (text.toList.map asciiLower) := by
  cases decoded : decode? bytes with
  | some text =>
      rw [decode?_eq_some_iff] at decoded
      rw [Option.map_some, decode?_eq_some_iff, decoded, encode, encode, String.toList_ofList,
        encodeChars_map_asciiLower]
  | none =>
      rw [Option.map_none, Option.eq_none_iff_forall_ne_some]
      intro text found
      obtain ⟨original, rfl⟩ := exists_encodeChars_of_map_lowerByte (decode?_eq_some_iff.mp found)
      have whole : decode? (encodeChars original) = some (String.ofList original) :=
        decode?_eq_some_iff.mpr (by simp [encode])
      simp [whole] at decoded

end Utf8

namespace Path

variable {left right : Path}

/-- The extensions of two paths differ in the case of ASCII letters at most. -/
def SameExtension (left right : Path) : Prop :=
  left.extension?.map (·.map Utf8.lowerByte) = right.extension?.map (·.map Utf8.lowerByte)

theorem lowerExtension?_eq (path : Path) : path.lowerExtension? =
    ((path.extension?.map (·.map Utf8.lowerByte)).bind Utf8.decode?).map Text.lowercase := by
  unfold lowerExtension?
  cases path.extension? with
  | none => rfl
  | some own =>
      simp only [Option.map_some, Option.bind_some, Utf8.decode?_map_lowerByte, Option.map_map]
      refine congrArg (Option.map · (Utf8.decode? own)) (funext fun text => ?_)
      simp only [Function.comp, Text.lowercase, String.toList_ofList]
      exact congrArg String.ofList (Text.lowerAfter_map [] text.toList).symm

theorem lowerExtension?_of_same (same : SameExtension left right) :
    left.lowerExtension? = right.lowerExtension? := by
  rw [lowerExtension?_eq, lowerExtension?_eq, same]

end Path

namespace Launcher

variable {launcher : Launcher} {item left right : List Char} {extension : String}

/-! ## Items in normal form -/

theorem normalize_recase (same : left.map Text.asciiLower = right.map Text.asciiLower) :
    normalize left = normalize right := by
  have trimmed := congrArg Text.trim same
  rw [Text.trim_map Text.isBlank_asciiLower, Text.trim_map Text.isBlank_asciiLower] at trimmed
  exact Text.lowercase_recase (Text.sameAsciiCase_iff.mpr (by simpa using trimmed))

theorem normalize_pad (blankLeft : ∀ character ∈ left, Text.isBlank character = true)
    (blankRight : ∀ character ∈ right, Text.isBlank character = true) :
    normalize (left ++ item ++ right) = normalize item := by
  rw [normalize, Text.trim_pad blankLeft blankRight, normalize]

/-- An item in normal form is its own normal form. -/
theorem normalize_normalize (item : List Char) :
    normalize (normalize item).toList = normalize item := by
  have trimmed := Text.isTrimmed_trim item
  have kept : Text.IsTrimmed (normalize item).toList := by
    simp only [normalize, Text.lowercase, String.toList_ofList]
    exact ⟨Text.isBlank_head?_lowerAfter trimmed.front,
      Text.isBlank_getLast?_lowerAfter trimmed.back⟩
  rw [normalize, Text.trim_of_isTrimmed kept, String.ofList_toList]
  exact Text.lowercase_lowercase _

theorem bar_not_mem_normalize (free : '|' ∉ item) : '|' ∉ (normalize item).toList := by
  simp only [normalize, Text.lowercase, String.toList_ofList]
  exact Text.bar_not_mem_lowerAfter fun inside => free (Text.mem_of_mem_trim inside)

theorem normalize_reserved : normalize reservedExtension.toList = reservedExtension := by
  decide +kernel

/-! ## The set of extensions -/

/-- The items of a list of extensions, as they are written. -/
def items (text : String) : List (List Char) :=
  text.toList.splitOn '|'

theorem bar_not_mem_items {text : String} (member : item ∈ items text) : '|' ∉ item :=
  (Path.of_mem_splitOn member).1

theorem items_intercalate {list : List String} (some : list ≠ [])
    (free : ∀ extension ∈ list, '|' ∉ extension.toList) :
    items ("|".intercalate list) = list.map String.toList := by
  rw [items, String.toList_intercalate]
  refine List.splitOn_intercalate '|' (fun item member => ?_) (by simpa using some)
  obtain ⟨extension, listed, rfl⟩ := List.mem_map.mp member
  exact free extension listed

theorem mem_extensions : extension ∈ launcher.extensions ↔
    extension ≠ "" ∧ extension ≠ reservedExtension ∧
      ∃ item ∈ items launcher.extensionList, normalize item = extension := by
  simp only [extensions, items, List.mem_mergeSort, List.mem_eraseDups, List.mem_filter,
    List.mem_map, Bool.and_eq_true, bne_iff_ne, ne_eq]
  exact ⟨fun ⟨found, given, free⟩ => ⟨given, free, found⟩,
    fun ⟨given, free, found⟩ => ⟨found, given, free⟩⟩

theorem nodup_eraseDups {α : Type} [DecidableEq α] (list : List α) : list.eraseDups.Nodup := by
  induction size : list.length using Nat.strongRecOn generalizing list with
  | ind count shorter =>
      cases list with
      | nil => exact List.nodup_nil
      | cons first rest =>
          have less : (rest.filter fun other => !other == first).length < count := by
            have filtered := List.length_filter_le (fun other => !other == first) rest
            simp only [List.length_cons] at size
            omega
          rw [List.eraseDups_cons, List.nodup_cons]
          exact ⟨by simp, shorter _ less _ rfl⟩

/-- The extensions of two launchers are one list if they are one set. -/
theorem extensions_eq_of_mem {other : Launcher}
    (same : ∀ extension, extension ∈ launcher.extensions ↔ extension ∈ other.extensions) :
    launcher.extensions = other.extensions := by
  refine sort_eq_of_perm ((List.perm_ext_iff_of_nodup (nodup_eraseDups _) (nodup_eraseDups _)).mpr
    fun extension => ?_)
  simpa only [extensions, List.mem_mergeSort] using same extension

/-- An item of one list stands for no extension, or another list has one with its normal form. -/
def Covers (others list : List (List Char)) : Prop :=
  ∀ item ∈ list, normalize item = "" ∨ normalize item = reservedExtension ∨
    ∃ other ∈ others, normalize other = normalize item

theorem Covers.of_subset {others list : List (List Char)} (inside : list ⊆ others) :
    Covers others list := fun item member => .inr (.inr ⟨item, inside member, rfl⟩)

theorem Covers.cons {others list : List (List Char)}
    (void : normalize item = "" ∨ normalize item = reservedExtension)
    (covers : Covers others list) : Covers others (item :: list) := by
  intro other member
  rcases List.mem_cons.mp member with rfl | later
  · exact void.imp_right .inl
  · exact covers other later

theorem Covers.replace {other : List Char} (same : normalize other = normalize item)
    (front back : List (List Char)) : Covers (front ++ other :: back) (front ++ item :: back) := by
  intro next member
  rw [List.mem_append, List.mem_cons] at member
  rcases member with before | rfl | behind
  · exact .inr (.inr ⟨next, List.mem_append_left _ before, rfl⟩)
  · exact .inr (.inr ⟨other, List.mem_append_right _ List.mem_cons_self, same⟩)
  · exact .inr (.inr ⟨next, List.mem_append_right _ (List.mem_cons_of_mem _ behind), rfl⟩)

theorem Covers.recase {others list : List (List Char)}
    (lists : others.map (·.map Text.asciiLower) = list.map (·.map Text.asciiLower)) :
    Covers others list := by
  intro item member
  have mapped := List.mem_map_of_mem (f := (·.map Text.asciiLower)) member
  rw [← lists] at mapped
  obtain ⟨other, listed, same⟩ := List.mem_map.mp mapped
  exact .inr (.inr ⟨other, listed, normalize_recase same⟩)

theorem Covers.mem_extensions {left right : String} (covers : Covers (items right) (items left))
    (member : extension ∈ (Launcher.mk left).extensions) :
    extension ∈ (Launcher.mk right).extensions := by
  obtain ⟨some, free, item, listed, rfl⟩ := Launcher.mem_extensions.mp member
  rcases covers item listed with nothing | reserved | found
  · exact absurd nothing some
  · exact absurd reserved free
  · exact Launcher.mem_extensions.mpr ⟨some, free, found⟩

/-- Lists are read alike if each has the normal forms of the other's items, up to items that stand
for no extension. -/
theorem extensions_eq_of_covers {left right : String} (forth : Covers (items right) (items left))
    (back : Covers (items left) (items right)) :
    (Launcher.mk left).extensions = (Launcher.mk right).extensions :=
  extensions_eq_of_mem fun _ => ⟨forth.mem_extensions, back.mem_extensions⟩

/-! ## Lists that accept the same files -/

/-- A list of extensions written in another way. -/
inductive Restyled (left right : String) : Prop where
  /-- With other cases of its ASCII letters. -/
  | recased (same : Text.sameAsciiCase left right = true)
  /-- With its items in another order. -/
  | reordered (same : (items left).Perm (items right))
  /-- With one of its items once more. -/
  | repeated (item : List Char) (known : item ∈ items left)
      (more : items right = item :: items left)
  /-- With blanks around one of its items. -/
  | padded (front back : List (List Char)) (item before after : List Char)
      (whole : items left = front ++ item :: back)
      (blankBefore : ∀ character ∈ before, Text.isBlank character = true)
      (blankAfter : ∀ character ∈ after, Text.isBlank character = true)
      (more : items right = front ++ (before ++ item ++ after) :: back)
  /-- With one more item that is empty or spells the reserved extension. -/
  | added (item : List Char)
      (void : item = [] ∨ Text.sameAsciiCase (String.ofList item) reservedExtension = true)
      (more : items right = item :: items left)

theorem normalize_void {item : List Char}
    (void : item = [] ∨ Text.sameAsciiCase (String.ofList item) reservedExtension = true) :
    normalize item = "" ∨ normalize item = reservedExtension := by
  rcases void with rfl | reserved
  · exact .inl rfl
  · have same := Text.sameAsciiCase_iff.mp reserved
    rw [String.toList_ofList] at same
    exact .inr ((normalize_recase same).trans normalize_reserved)

/-- Letters in another case leave the separators where they are. -/
theorem items_recase {left right : String} (same : Text.sameAsciiCase left right = true) :
    (items left).map (·.map Text.asciiLower) = (items right).map (·.map Text.asciiLower) := by
  have separator (character : Char) : Text.asciiLower character = '|' ↔ character = '|' :=
    Text.asciiLower_eq_other_iff (by decide +kernel)
  have parts (characters : List Char) : (characters.splitOn '|').map (·.map Text.asciiLower) =
      (characters.map Text.asciiLower).splitOn '|' := by
    induction characters with
    | nil => rfl
    | cons first rest ih =>
        rw [List.map_cons, List.splitOn_cons_eq_if_modifyHead, List.splitOn_cons_eq_if_modifyHead,
          ← ih]
        by_cases bar : first = '|'
        · simp [bar, (separator '|').mpr rfl]
        · have other := mt (separator first).mp bar
          obtain ⟨item, more, whole⟩ := List.exists_cons_of_ne_nil (List.splitOn_ne_nil '|' rest)
          simp [bar, other, whole]
  rw [items, items, parts, parts, Text.sameAsciiCase_iff.mp same]

theorem extensions_restyled {left right : String} (restyled : Restyled left right) :
    (Launcher.mk left).extensions = (Launcher.mk right).extensions := by
  cases restyled with
  | recased same =>
      have lists := items_recase same
      exact extensions_eq_of_covers (.recase lists.symm) (.recase lists)
  | reordered same =>
      exact extensions_eq_of_covers (.of_subset same.subset) (.of_subset same.symm.subset)
  | repeated item known more =>
      refine extensions_eq_of_covers (.of_subset ?_) (.of_subset ?_)
      · rw [more]
        exact List.subset_cons_self item (items left)
      · rw [more]
        exact List.cons_subset.mpr ⟨known, List.Subset.refl _⟩
  | padded front back item before after whole blankBefore blankAfter more =>
      have same : normalize (before ++ item ++ after) = normalize item :=
        normalize_pad blankBefore blankAfter
      refine extensions_eq_of_covers ?_ ?_
      · rw [whole, more]
        exact .replace same front back
      · rw [whole, more]
        exact .replace same.symm front back
  | added item void more =>
      refine extensions_eq_of_covers (.of_subset ?_) ?_
      · rw [more]
        exact List.subset_cons_self item (items left)
      · rw [more]
        exact .cons (normalize_void void) (.of_subset (List.Subset.refl _))

/-- The extensions written in a list again, in any order, are the same set. -/
theorem extensions_intercalate {list : List String} (perm : list.Perm launcher.extensions) :
    (Launcher.mk ("|".intercalate list)).extensions = launcher.extensions := by
  by_cases nothing : list = []
  · rw [nothing] at perm ⊢
    rw [List.nil_perm.mp perm]
    decide +kernel
  · have normal (extension : String) (member : extension ∈ list) :
        '|' ∉ extension.toList ∧ normalize extension.toList = extension := by
      obtain ⟨-, -, item, inside, rfl⟩ := mem_extensions.mp (perm.mem_iff.mp member)
      exact ⟨bar_not_mem_normalize (bar_not_mem_items inside), normalize_normalize item⟩
    have written := items_intercalate nothing fun extension member => (normal extension member).1
    refine extensions_eq_of_mem fun extension => ?_
    rw [mem_extensions, written, ← perm.mem_iff]
    simp only [List.mem_map]
    constructor
    · rintro ⟨-, -, item, ⟨own, listed, rfl⟩, rfl⟩
      rwa [(normal own listed).2]
    · intro listed
      obtain ⟨some, free, -⟩ := mem_extensions.mp (perm.mem_iff.mp listed)
      exact ⟨some, free, _, ⟨extension, listed, rfl⟩, (normal extension listed).2⟩

/-! ## The rule for games -/

/-- Whether the extension of a path is one that the launcher accepts. -/
def accepts (launcher : Launcher) (path : Path) : Bool :=
  match path.lowerExtension? with
  | some own => own != reservedExtension && launcher.extensions.contains own
  | none => false

/-- A shortcut is not accepted, however its extension is written. -/
theorem accepts_of_reserved {path : Path} (reserved : path.hasExtension reservedExtension = true)
    (launcher : Launcher) : launcher.accepts path = false := by
  obtain ⟨own, found, same⟩ := Path.hasExtension_eq_true_iff.mp reserved
  have lower : path.lowerExtension? = some reservedExtension :=
    Path.lowerExtension?_eq_some_iff.mpr
      ⟨own, found, (Text.lowercase_recase same).trans (by decide +kernel)⟩
  simp [accepts, lower]

/-- Which files are games for a console does not depend on how the list of extensions is written,
nor on the case of a file's own extension.  Shortcuts are never games, and the set of extensions
comes back from a list of its members. -/
theorem accepts_restyled (launcher : Launcher) :
    (∀ volume path, Audit.isGame volume launcher.extensions path =
      (volume.isFile path && launcher.accepts path)) ∧
    (∀ other, Relation.EqvGen Restyled launcher.extensionList other → ∀ path path',
      path.SameExtension path' → (Launcher.mk other).accepts path' = launcher.accepts path) ∧
    (∀ path : Path, path.hasExtension reservedExtension = true → launcher.accepts path = false) ∧
    ∀ list : List String, list.Perm launcher.extensions →
      (Launcher.mk ("|".intercalate list)).extensions = launcher.extensions := by
  refine ⟨fun volume path => rfl, fun other restyled path path' same => ?_,
    fun path reserved => accepts_of_reserved reserved launcher,
    fun list perm => extensions_intercalate perm⟩
  have sets : (Launcher.mk launcher.extensionList).extensions = (Launcher.mk other).extensions := by
    generalize launcher.extensionList = written at restyled
    induction restyled with
    | rel left right restyled => exact extensions_restyled restyled
    | refl text => rfl
    | symm left right _ ih => exact ih.symm
    | trans left middle right _ _ first second => exact first.trans second
  rw [accepts, accepts, ← Path.lowerExtension?_of_same same, ← sets]

/-- A list in capitals, and one in which the items are turned round and a shortcut is added. -/
theorem accepts_restyled_gba :
    Relation.EqvGen Restyled "GBA|zip" "MiyooCMD|zip| gba " ∧
      (Path.ofText "a.gBA").SameExtension (.ofText "a.Gba") ∧
      (Launcher.mk "MiyooCMD|zip| gba ").accepts (.ofText "a.Gba") = true := by
  have lower : Restyled "GBA|zip" "gba|zip" := .recased (by decide +kernel)
  have turned : Restyled "gba|zip" "zip|gba" := .reordered (by decide +kernel)
  have padded : Restyled "zip|gba" "zip| gba " :=
    .padded ["zip".toList] [] "gba".toList [' '] [' '] (by decide +kernel) (by simp; decide)
      (by simp; decide) (by decide +kernel)
  have added : Restyled "zip| gba " "MiyooCMD|zip| gba " :=
    .added "MiyooCMD".toList (.inr (by decide +kernel)) (by decide +kernel)
  have restyled : Relation.EqvGen Restyled "GBA|zip" "MiyooCMD|zip| gba " :=
    (((Relation.EqvGen.rel _ _ lower).trans _ _ _ (.rel _ _ turned)).trans _ _ _
      (.rel _ _ padded)).trans _ _ _ (.rel _ _ added)
  have same : (Path.ofText "a.gBA").SameExtension (.ofText "a.Gba") := by
    unfold Path.SameExtension
    decide +kernel
  refine ⟨restyled, same, ?_⟩
  rw [(accepts_restyled ⟨"GBA|zip"⟩).2.1 _ restyled _ _ same]
  have own : (Path.ofText "a.gBA").lowerExtension? = some "gba" := by
    rw [Path.lowerExtension?_eq]
    cbv
  have listed : "gba" ∈ (Launcher.mk "GBA|zip").extensions :=
    mem_extensions.mpr ⟨by decide, by decide, "GBA".toList, by decide +kernel, by decide +kernel⟩
  simp [accepts, own, listed, reservedExtension]

end Launcher
end CardKeeper

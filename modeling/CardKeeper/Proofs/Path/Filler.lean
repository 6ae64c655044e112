import Mathlib.Data.List.Basic
import CardKeeper.Proofs.Path.Extension

/-!
# Filler behind a name

A path that ends in a name is the path of an entry with filler behind it, that is, slashes and
single dots that stand for no component (`exists_padded`).  The filler changes neither the name nor
its parent, and it goes when the path gets an extension.  As many bytes as the old extension has are
taken off the end first; whether these are filler or not, what is left ends in a name with the same
stem, unless a lone dot is the stem and nothing stands behind the name: `withExtension_padded`.
-/

namespace CardKeeper
namespace Path

variable {path folder : Path} {front fillers : List Bytes} {last name stem ending text : Bytes}
  {extension : String}

/-- A segment stands for an entry of a folder. -/
structure Names (segment : Bytes) : Prop where
  /-- It is a segment. -/
  plain : slash ∉ segment
  /-- It is no filler. -/
  visible : isFiller segment = false
  /-- It does not lead up. -/
  other : segment ≠ [dot, dot]

theorem Names.ne_nil (names : Names name) : name ≠ [] := by
  rintro rfl
  cases names.visible

theorem Names.ne_dot (names : Names name) : name ≠ [dot] := by
  rintro rfl
  cases names.visible

theorem names_of_fileName? (named : path.fileName? = some name) : Names name := by
  obtain ⟨-, -, -, plain⟩ := of_fileName? named
  simp only [fileName?] at named
  split at named
  · split at named
    · cases named
    · next proper =>
        cases named
        simp only [Bool.or_eq_true, beq_iff_eq, not_or, Bool.not_eq_true] at proper
        exact ⟨plain, proper.1, proper.2⟩
  · cases named

/-- A stem and an extension make a name, but for a lone dot without an extension. -/
theorem names_append (proper : stem ≠ []) (plainStem : slash ∉ stem) (plainEnding : slash ∉ ending)
    (other : stem = [dot] → ending ≠ []) : Names (stem ++ dot :: ending) := by
  refine ⟨by simp [plainStem, plainEnding, dot, slash], isFiller_stem proper ending, fun up => ?_⟩
  have single : (stem.length = 1) ∧ ending.length = 0 := by
    have count := congrArg List.length up
    have some := List.length_pos_iff.mpr proper
    simp only [List.length_append, List.length_cons, List.length_nil] at count
    omega
  obtain ⟨byte, rfl⟩ := List.length_eq_one_iff.mp single.1
  obtain rfl : byte = dot := (List.cons.inj up).1
  exact other rfl (List.length_eq_zero_iff.mp single.2)

/-! ## Filler -/

/-- Text behind a name that stands for no component. -/
inductive IsFillerText : Bytes → Prop where
  /-- Nothing. -/
  | nil : IsFillerText []
  /-- A slash, and an empty segment. -/
  | gap {rest : Bytes} (more : IsFillerText rest) : IsFillerText (slash :: rest)
  /-- A slash, and a single dot. -/
  | here {rest : Bytes} (more : IsFillerText rest) : IsFillerText (slash :: dot :: rest)

namespace IsFillerText

/-- Filler that is cut off anywhere is filler. -/
theorem of_isPrefix {start : Bytes} (filler : IsFillerText text) (starts : start <+: text) :
    IsFillerText start := by
  induction filler generalizing start with
  | nil =>
      rw [List.prefix_nil.mp starts]
      exact .nil
  | gap _ ih =>
      rcases List.prefix_cons_iff.mp starts with rfl | ⟨rest, rfl, later⟩
      · exact .nil
      · exact .gap (ih later)
  | here _ ih =>
      rcases List.prefix_cons_iff.mp starts with rfl | ⟨rest, rfl, later⟩
      · exact .nil
      · rcases List.prefix_cons_iff.mp later with rfl | ⟨rest, rfl, last⟩
        · exact .gap .nil
        · exact .here (ih last)

theorem of_fillers (all : ∀ segment ∈ fillers, isFiller segment = true) :
    IsFillerText (fillers.flatMap (slash :: ·)) := by
  induction fillers with
  | nil => exact .nil
  | cons segment rest ih =>
      obtain ⟨here, later⟩ := List.forall_mem_cons.mp all
      simp only [isFiller, Bool.or_eq_true, beq_iff_eq] at here
      rcases here with rfl | rfl
      · exact .gap (ih later)
      · exact .here (ih later)

/-- Filler adds only filler to the segments. -/
theorem exists_segments {bytes : Bytes} (filler : IsFillerText text) (some : bytes ≠ []) :
    ∃ fillers, (∀ segment ∈ fillers, isFiller segment = true) ∧
      segments ⟨bytes ++ text⟩ = segments ⟨bytes⟩ ++ fillers := by
  induction filler generalizing bytes with
  | nil => exact ⟨[], by simp, by simp⟩
  | @gap rest _ ih =>
      obtain ⟨fillers, all, same⟩ := ih (show bytes ++ [slash] ≠ [] by simp)
      refine ⟨[] :: fillers, List.forall_mem_cons.mpr ⟨rfl, all⟩, ?_⟩
      rw [List.append_cons, same, segments_append_slash [] some, List.splitOn_nil,
        List.append_assoc, List.singleton_append]
  | @here rest _ ih =>
      obtain ⟨fillers, all, same⟩ := ih (show bytes ++ [slash, dot] ≠ [] by simp)
      refine ⟨[dot] :: fillers, List.forall_mem_cons.mpr ⟨rfl, all⟩, ?_⟩
      have single : [dot].splitOn slash = [[dot]] := by decide
      rw [List.append_cons, List.append_cons, List.append_assoc bytes, List.singleton_append, same,
        segments_append_slash [dot] some, single, List.append_assoc, List.singleton_append]

end IsFillerText

/-- Filler at the end of a path is not significant. -/
theorem significant_of_fillers (ends : path.segments = front ++ last :: fillers)
    (visible : isFiller last = false) (all : ∀ segment ∈ fillers, isFiller segment = true) :
    path.significant = front ++ [last] := by
  have dropped (list : List Bytes) :
      dropTrailing isFiller (list ++ fillers) = dropTrailing isFiller list := by
    have reversed : ∀ segment ∈ fillers.reverse, isFiller segment = true :=
      fun segment member => all segment (List.mem_reverse.mp member)
    rw [dropTrailing, List.reverse_append, List.dropWhile_append_of_pos reversed, dropTrailing]
  rw [significant, ends]
  cases front with
  | nil =>
      have none : dropTrailing isFiller fillers = [] := dropped []
      have some : last ≠ [] := by
        rintro rfl
        cases visible
      simp [none, some, visible]
  | cons first more =>
      have kept : dropTrailing isFiller (more ++ last :: fillers) = more ++ [last] := by
        rw [List.append_cons, dropped, dropTrailing_concat visible]
      simp [kept]

/-- What is not significant of a path is filler. -/
theorem exists_fillers (some : path.significant ≠ []) :
    ∃ fillers, (∀ segment ∈ fillers, isFiller segment = true) ∧
      path.segments = path.significant ++ fillers := by
  have split (list : List Bytes) : ∃ fillers, (∀ segment ∈ fillers, isFiller segment = true) ∧
      list = dropTrailing isFiller list ++ fillers := by
    refine ⟨(list.reverse.takeWhile isFiller).reverse, fun segment member => ?_, ?_⟩
    · exact List.all_eq_true.mp List.all_takeWhile segment (List.mem_reverse.mp member)
    · rw [dropTrailing, ← List.reverse_append, List.takeWhile_append_dropWhile,
        List.reverse_reverse]
  unfold significant at some ⊢
  split at some
  · exact absurd rfl some
  · next first rest shape =>
      obtain ⟨fillers, all, same⟩ := split rest
      refine ⟨fillers, all, ?_⟩
      simp only at some ⊢
      split at some
      · exact absurd rfl some
      · next kept => rw [if_neg kept, List.cons_append, ← same, shape]

theorem bytes_ofSegments_append (absolute : Bool) (some : front ≠ []) (back : List Bytes) :
    (ofSegments absolute (front ++ back)).bytes =
      (ofSegments absolute front).bytes ++ back.flatMap (slash :: ·) := by
  have text : [slash].intercalate (front ++ back) =
      [slash].intercalate front ++ back.flatMap (slash :: ·) := by
    induction back generalizing front with
    | nil => simp
    | cons segment rest ih =>
        obtain ⟨init, last, rfl⟩ := (List.eq_nil_or_concat front).resolve_left some
        rw [List.append_cons, ih (by simp), List.concat_eq_append, intercalate_concat,
          intercalate_concat]
        simp
  simp only [ofSegments, text, List.append_assoc]

/-! ## Entries with filler behind their names -/

/-- The path of an entry, with text behind it. -/
def padded (folder : Path) (name text : Bytes) : Path :=
  ⟨(folder.entry name).bytes ++ text⟩

@[simp]
theorem padded_nil (folder : Path) (name : Bytes) : folder.padded name [] = folder.entry name := by
  simp [padded]

/-- A path that ends in a name is the path of an entry, with filler behind it. -/
theorem exists_padded (named : path.fileName? = some name) :
    ∃ (folder : Path) (text : Bytes), IsFillerText text ∧ path = folder.padded name text := by
  obtain ⟨front, ends, -, -⟩ := of_fileName? named
  obtain ⟨folder, -, same⟩ := exists_folder_of_fileName? named
  obtain ⟨fillers, all, whole⟩ := exists_fillers (show path.significant ≠ [] by simp [ends])
  refine ⟨folder, _, .of_fillers all, ?_⟩
  rw [padded, ← same, ← bytes_ofSegments_append _ (by simp [ends]), ← whole, ofSegments_segments]

section Padded

variable (names : Names name) (filler : IsFillerText text)
include names

theorem Names.bytes_ne_nil : (folder.entry name).bytes ≠ [] := by
  obtain ⟨byte, member⟩ := List.exists_mem_of_ne_nil name names.ne_nil
  exact List.ne_nil_of_mem (mem_bytes_entry folder member)

theorem isAbsolute_padded (text : Bytes) :
    (folder.padded name text).isAbsolute = folder.isAbsolute := by
  rw [← isAbsolute_entry folder names.plain, padded, isAbsolute, isAbsolute,
    List.head?_append_of_ne_nil _ names.bytes_ne_nil]

include filler

theorem exists_segments_padded : ∃ fillers, (∀ segment ∈ fillers, isFiller segment = true) ∧
    (folder.padded name text).segments = folder.prior ++ name :: fillers := by
  have some : (folder.entry name).bytes ≠ [] := names.bytes_ne_nil
  obtain ⟨fillers, all, same⟩ := filler.exists_segments some
  refine ⟨fillers, all, same.trans ?_⟩
  rw [segments_entry folder names.plain, List.append_assoc, List.singleton_append]

theorem significant_padded : (folder.padded name text).significant = folder.prior ++ [name] := by
  obtain ⟨fillers, all, ends⟩ : ∃ fillers, _ ∧ (folder.padded name text).segments = _ :=
    exists_segments_padded names filler
  exact significant_of_fillers ends names.visible all

theorem fileName?_padded : (folder.padded name text).fileName? = some name := by
  simp [fileName?, significant_padded names filler, names.visible, names.other]

/-- The folder of an entry is the same for every name. -/
theorem parent?_padded : (folder.padded name text).parent? = some
    (ofSegments folder.isAbsolute (ofSegments folder.isAbsolute folder.prior).significant) := by
  unfold parent?
  rw [significant_padded names filler, isAbsolute_padded names]
  split
  · next none => simp at none
  · rw [List.dropLast_concat]

theorem components_padded : (folder.padded name text).components =
    componentsOf folder.isAbsolute folder.prior ++ [.name name] := by
  obtain ⟨fillers, all, ends⟩ : ∃ fillers, _ ∧ (folder.padded name text).segments = _ :=
    exists_segments_padded names filler
  have own : segmentComponent? name = some (.name name) := by
    simp [segmentComponent?, names.visible, names.other]
  have none : fillers.filterMap segmentComponent? = [] := by
    rw [List.filterMap_eq_nil_iff]
    intro segment member
    simp [segmentComponent?, all segment member]
  rw [components_eq, isAbsolute_padded names, ends]
  cases folder.isAbsolute with
  | true => simp [componentsOf, own, none]
  | false => cases folder.prior <;> simp [componentsOf, own, none, names.ne_dot]

end Padded

/-! ## Extensions in place of others -/

/-- What stands in front of a name is the same for every name. -/
theorem exists_entry_eq (folder : Path) :
    ∃ front, ∀ name, slash ∉ name → folder.entry name = ⟨front ++ name⟩ := by
  obtain ⟨front, same⟩ := exists_join_eq folder
  exact ⟨front, fun name plain => same ⟨name⟩ (isAbsolute_of_plain plain)⟩

theorem entry_congr {other : Path} {second : Bytes} (plain : slash ∉ name)
    (plainSecond : slash ∉ second) (same : folder.entry name = other.entry name) :
    folder.entry second = other.entry second := by
  obtain ⟨left, inFolder⟩ := exists_entry_eq folder
  obtain ⟨right, inOther⟩ := exists_entry_eq other
  rw [inFolder _ plain, inOther _ plain] at same
  rw [inFolder _ plainSecond, inOther _ plainSecond,
    List.append_cancel_right (congrArg bytes same)]

/-- An extension that is put after the stem takes the filler away. -/
theorem setExtension_padded (names : Names name) (filler : IsFillerText text)
    (plain : slash ∉ Utf8.encode extension) :
    (folder.padded name text).setExtension extension =
      folder.entry ((splitName name).1 ++ dot :: Utf8.encode extension) := by
  have named : (folder.padded name text).fileName? = some name := fileName?_padded names filler
  obtain ⟨other, -, same, written⟩ := setExtension_eq named plain
  have whole : ofSegments folder.isAbsolute (folder.prior ++ [name]) = folder.entry name := by
    rw [← segments_entry folder names.plain, ← isAbsolute_entry folder names.plain,
      ofSegments_segments]
  rw [significant_padded names filler, isAbsolute_padded names, whole] at same
  have plainStem : slash ∉ (splitName name).1 := fun member =>
    names.plain ((start_of_splitName names.ne_nil).1.subset member)
  rw [written]
  exact entry_congr names.plain (by simp [plainStem, plain, dot, slash]) same.symm

theorem extension?_padded (names : Names name) (filler : IsFillerText text) :
    (folder.padded name text).extension? = (splitName name).2 := by
  rw [extension?, fileName?_padded names filler, Option.bind_some]

/-- As many bytes as the extension has, taken off the end, are filler if there is enough of it, and
else the end of the name. -/
theorem take_padded (plain : slash ∉ stem ++ dot :: ending) (text : Bytes) :
    (⟨(folder.padded (stem ++ dot :: ending) text).bytes.take
        ((folder.padded (stem ++ dot :: ending) text).bytes.length - ending.length)⟩ : Path) =
      if ending.length ≤ text.length then
        folder.padded (stem ++ dot :: ending) (text.take (text.length - ending.length))
      else folder.entry (stem ++ dot :: ending.take text.length) := by
  obtain ⟨front, same⟩ := exists_entry_eq folder
  have plainCut : slash ∉ stem ++ dot :: ending.take text.length := fun member => plain (by
    rcases List.mem_append.mp member with inside | behind
    · exact List.mem_append_left _ inside
    · refine List.mem_append_right _ ?_
      exact (List.cons_subset_cons dot (List.take_subset _ _)) behind)
  split
  · next enough =>
      have count : ((folder.entry (stem ++ dot :: ending)).bytes ++ text).length - ending.length =
          (folder.entry (stem ++ dot :: ending)).bytes.length + (text.length - ending.length) := by
        rw [List.length_append]
        omega
      simp only [padded]
      rw [count, List.take_length_add_append]
  · next short =>
      have count : (front ++ (stem ++ dot :: ending) ++ text).length - ending.length =
          (front ++ (stem ++ [dot])).length + text.length := by
        simp only [List.length_append, List.length_cons, List.length_nil]
        omega
      have parts : front ++ (stem ++ dot :: ending) ++ text =
          front ++ (stem ++ [dot]) ++ (ending ++ text) := by simp
      simp only [padded, same _ plain, same _ plainCut]
      rw [count, parts, List.take_length_add_append, List.take_append_of_le_length (by omega)]
      simp

/-- A name whose end behind the dot is cut off short keeps its stem, unless that is a lone dot and
nothing is left behind the dot: then there is no name. -/
theorem setExtension_cut (names : Names (stem ++ dot :: ending)) (proper : stem ≠ [])
    (noDot : dot ∉ ending) (plain : slash ∉ Utf8.encode extension) (count : Nat) :
    (folder.entry (stem ++ dot :: ending.take count)).setExtension extension =
      if stem = [dot] ∧ ending.take count = [] then folder.entry [dot, dot]
      else folder.entry (stem ++ dot :: Utf8.encode extension) := by
  split
  · next lone =>
      have unnamed : (folder.entry [dot, dot]).fileName? = none := by
        rw [fileName?_of_visible (segments_entry folder (by decide)) rfl, if_pos rfl]
      simp [lone.1, lone.2, setExtension, unnamed]
  · next other =>
      have inside : ending.take count ⊆ ending := List.take_subset count ending
      have cut : Names (stem ++ dot :: ending.take count) := by
        refine names_append proper ?_ ?_ fun same nothing => other ⟨same, nothing⟩
        · exact fun member => names.plain (List.mem_append_left _ member)
        · exact fun member =>
            names.plain (List.mem_append_right _ (List.mem_cons_of_mem _ (inside member)))
      rw [← padded_nil, setExtension_padded cut .nil plain,
        splitName_append proper fun member => noDot (inside member)]

/-- An extension takes the place of the old one behind the stem of the last name.  If the stem is a
lone dot with nothing behind the name, then what is left without the old extension leads up, and is
no name that an extension could be put after. -/
theorem withExtension_padded (names : Names name) (filler : IsFillerText text)
    (plain : slash ∉ Utf8.encode extension) :
    (folder.padded name text).withExtension extension =
      if (splitName name).1 = [dot] ∧ text = [] then folder.entry [dot, dot]
      else folder.entry ((splitName name).1 ++ dot :: Utf8.encode extension) := by
  rw [withExtension, extension?_padded names filler]
  cases split : splitName name with
  | mk stem old? =>
    cases old? with
    | none =>
        have same : stem = name := by
          simp only [splitName] at split
          split at split
          · exact (Prod.mk.inj split).1.symm
          · cases split
        rw [if_neg (by simp [same, names.ne_dot])]
        simpa [split] using setExtension_padded names filler plain
    | some old =>
        obtain ⟨rfl, proper, noDot⟩ := of_splitName split
        have some : stem = [dot] → old ≠ [] := by
          rintro rfl rfl
          exact names.other rfl
        simp only [take_padded names.plain]
        split
        · next enough =>
            have other : ¬ (stem = [dot] ∧ text = []) := by
              rintro ⟨same, rfl⟩
              exact some same (List.length_eq_zero_iff.mp (Nat.le_zero.mp enough))
            have rest : IsFillerText (text.take (text.length - old.length)) :=
              filler.of_isPrefix (List.take_prefix _ _)
            rw [if_neg other, setExtension_padded names rest plain, split]
        · rw [setExtension_cut names proper noDot plain]
          refine if_congr (and_congr_right fun same => ?_) rfl rfl
          simp [List.take_eq_nil_iff, some same]

end Path
end CardKeeper

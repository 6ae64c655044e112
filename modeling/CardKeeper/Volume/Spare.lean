import CardKeeper.Volume.Basic

/-!
# Spare names

A temporary file needs a name that no entry of its folder has.  A pattern offers one name for each
number, and `spare` takes the first one from a number on that is free: `spare_not_mem`.  All that
matters to those who use such names is that they are free, which is what a `Naming` promises.
-/

namespace CardKeeper

/-- Names that differ in the number of letters, at least six, between a start and an ending. -/
structure NamePattern where
  /-- What the names start with. -/
  start : Bytes
  /-- What the names end in. -/
  ending : Bytes
  /-- They can name an entry. -/
  proper : ∀ count, isName (start ++ List.replicate (count + 6) 0x78 ++ ending) = true

namespace NamePattern

/-- The name of a pattern for a number. -/
def name (pattern : NamePattern) (count : Nat) : Name :=
  ⟨pattern.start ++ List.replicate (count + 6) 0x78 ++ pattern.ending, pattern.proper count⟩

theorem name_injective (pattern : NamePattern) {left right : Nat}
    (same : pattern.name left = pattern.name right) : left = right := by
  have lengths := congrArg (fun name : Name => name.bytes.length) same
  simp only [name, List.length_append, List.length_replicate] at lengths
  omega

/-- The first name of a pattern, from a number on, that is not in a list. -/
def spare (pattern : NamePattern) (taken : List Name) (count : Nat) : Name :=
  if pattern.name count ∈ taken then
    pattern.spare (taken.erase (pattern.name count)) (count + 1)
  else pattern.name count
termination_by taken.length
decreasing_by
  have := List.length_pos_of_mem ‹_›
  rw [List.length_erase_of_mem ‹_›]
  omega

theorem spare_not_mem (pattern : NamePattern) (taken : List Name) (count : Nat) :
    pattern.spare taken count ∉ taken ∧
      ∃ number, count ≤ number ∧ pattern.spare taken count = pattern.name number := by
  fun_induction spare pattern taken count with
  | case1 taken count used ih =>
      obtain ⟨free, number, above, equal⟩ := ih
      refine ⟨fun member => ?_, number, by omega, equal⟩
      refine free ((List.mem_erase_of_ne fun same => ?_).mpr member)
      have := pattern.name_injective (equal ▸ same)
      omega
  | case2 taken count free => exact ⟨free, count, Nat.le_refl _, rfl⟩

/-- The names of files that are written before they take their place: `.tmp` and letters. -/
def draft : NamePattern where
  start := [0x2E, 0x74, 0x6D, 0x70]
  ending := []
  proper count := by simp [isName, Path.slash, Path.dot]

/-- The names of pictures on which tools work: `miyoo-thumb-`, letters and `.png`. -/
def staging : NamePattern where
  start := [0x6D, 0x69, 0x79, 0x6F, 0x6F, 0x2D, 0x74, 0x68, 0x75, 0x6D, 0x62, 0x2D]
  ending := [0x2E, 0x70, 0x6E, 0x67]
  proper count := by simp [isName, Path.slash, Path.dot]

end NamePattern

/-- A way to name new files. -/
structure Naming where
  /-- A name as they are, to see whether the path of a new file can be followed. -/
  sample : Name
  /-- The name of a new file in a folder where names are taken. -/
  pick : List Name → Name
  /-- It is free. -/
  fresh : ∀ taken, pick taken ∉ taken

/-- The first names of a pattern that are free. -/
def NamePattern.naming (pattern : NamePattern) : Naming where
  sample := pattern.name 0
  pick taken := pattern.spare taken 0
  fresh taken := (pattern.spare_not_mem taken 0).1

namespace Naming

/-- The naming of files that are written before they take their place. -/
def draft : Naming := NamePattern.draft.naming

/-- The naming of pictures on which tools work. -/
def staging : Naming := NamePattern.staging.naming

end Naming
end CardKeeper

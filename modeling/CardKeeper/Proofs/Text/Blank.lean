import Mathlib.Data.List.TakeWhile
import CardKeeper.Text.Blank

/-!
# Removing blanks from the ends of a text

Of a text with blanks around it, trimming leaves what it leaves of the text (`trim_pad`).  What is
left starts and ends with no blank, and is all of a text that does so already.
-/

namespace CardKeeper
namespace Text

variable {characters left right : List Char}

/-- Characters with no blank one at either end. -/
structure IsTrimmed (characters : List Char) : Prop where
  /-- The first one is not blank. -/
  front : ∀ first ∈ characters.head?, isBlank first = false
  /-- The last one is not blank. -/
  back : ∀ last ∈ characters.getLast?, isBlank last = false

theorem dropWhile_of_head? (solid : ∀ first ∈ characters.head?, isBlank first = false) :
    characters.dropWhile isBlank = characters := by
  cases characters with
  | nil => rfl
  | cons first rest => exact List.dropWhile_cons_of_neg (by simp [solid first rfl])

theorem trimEnd_of_getLast? (solid : ∀ last ∈ characters.getLast?, isBlank last = false) :
    trimEnd characters = characters := by
  rw [trimEnd, dropWhile_of_head? (by rwa [List.head?_reverse]), List.reverse_reverse]

theorem trim_of_isTrimmed (trimmed : IsTrimmed characters) : trim characters = characters := by
  rw [trim, dropWhile_of_head? trimmed.front, trimEnd_of_getLast? trimmed.back]

theorem head?_dropWhile_solid (characters : List Char) :
    ∀ first ∈ (characters.dropWhile isBlank).head?, isBlank first = false := by
  intro first starts
  have stop := List.head?_dropWhile_not isBlank characters
  rw [Option.mem_def.mp starts] at stop
  simpa using stop

theorem isPrefix_trimEnd (characters : List Char) : trimEnd characters <+: characters := by
  rw [trimEnd, ← List.reverse_suffix, List.reverse_reverse]
  exact List.dropWhile_suffix isBlank

theorem isTrimmed_trim (characters : List Char) : IsTrimmed (trim characters) where
  front first starts := by
    obtain ⟨back, whole⟩ := isPrefix_trimEnd (characters.dropWhile isBlank)
    refine head?_dropWhile_solid characters first ?_
    rw [← whole, List.head?_append]
    rw [trim] at starts
    simp [Option.mem_def.mp starts]
  back last ends := by
    rw [trim, trimEnd, List.getLast?_reverse] at ends
    exact head?_dropWhile_solid _ last ends

theorem mem_of_mem_trim {character : Char} (member : character ∈ trim characters) :
    character ∈ characters :=
  (List.dropWhile_sublist isBlank).subset ((isPrefix_trimEnd _).subset member)

theorem trimEnd_append (blank : ∀ character ∈ right, isBlank character = true) :
    trimEnd (characters ++ right) = trimEnd characters := by
  rw [trimEnd, List.reverse_append,
    List.dropWhile_append_of_pos (by simpa using blank), ← trimEnd]

/-- Blanks around a text are removed with its own. -/
theorem trim_pad (blankLeft : ∀ character ∈ left, isBlank character = true)
    (blankRight : ∀ character ∈ right, isBlank character = true) :
    trim (left ++ characters ++ right) = trim characters := by
  rw [trim, List.append_assoc, List.dropWhile_append_of_pos blankLeft, List.dropWhile_append]
  split
  · next empty =>
      have nothing : characters.dropWhile isBlank = [] := by simpa using empty
      rw [trim, nothing, List.dropWhile_eq_nil_iff.mpr blankRight]
  · rw [trimEnd_append blankRight, trim]

theorem trim_map {change : Char → Char}
    (kept : ∀ character, isBlank (change character) = isBlank character) :
    trim (characters.map change) = (trim characters).map change := by
  have same : isBlank ∘ change = isBlank := funext kept
  simp only [trim, trimEnd, List.dropWhile_map, ← List.map_reverse, same]

end Text
end CardKeeper

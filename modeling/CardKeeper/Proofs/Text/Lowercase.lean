import Mathlib.Data.List.Basic
import CardKeeper.Text.Blank
import CardKeeper.Text.Lowercase

/-!
# Lower-cased text

The case of ASCII letters makes no difference to lower-casing (`lowercase_recase`), although what a
capital sigma becomes depends on the characters around it: an ASCII letter is cased in both forms.
Lower-casing once is enough (`lowercase_lowercase`), since no partner in the case table has a
partner itself.  That is a fact about pairs of runs of the table, `apart_caseRuns`, and not about
single characters.
-/

namespace CardKeeper
namespace Text

variable {character : Char} {before left right : List Char}

/-! ## Capital ASCII letters -/

theorem asciiLower_eq_or_exists (character : Char) :
    asciiLower character = character ∨ ∃ place < 26, character = Char.ofNat (0x41 + place) := by
  by_cases capital : 'A' ≤ character ∧ character ≤ 'Z'
  · have low : 0x41 ≤ character.toNat := capital.1
    have high : character.toNat ≤ 0x5A := capital.2
    refine .inr ⟨character.toNat - 0x41, by omega, ?_⟩
    rw [Nat.add_sub_cancel' low, Char.ofNat_toNat]
  · exact .inl (if_neg capital)

/-- What is the same for the forms of every capital is the same for those of every character. -/
theorem asciiLower_rec {α : Type} {value : Char → α}
    (same : ∀ place < 26, value (asciiLower (Char.ofNat (0x41 + place))) =
      value (Char.ofNat (0x41 + place))) (character : Char) :
    value (asciiLower character) = value character := by
  rcases asciiLower_eq_or_exists character with kept | ⟨place, small, rfl⟩
  · rw [kept]
  · exact same place small

@[simp]
theorem isCased_asciiLower (character : Char) :
    isCased (asciiLower character) = isCased character :=
  asciiLower_rec (by decide +kernel) character

@[simp]
theorem isCaseIgnorable_asciiLower (character : Char) :
    isCaseIgnorable (asciiLower character) = isCaseIgnorable character :=
  asciiLower_rec (by decide +kernel) character

@[simp]
theorem lowerChar_asciiLower (character : Char) :
    lowerChar (asciiLower character) = lowerChar character :=
  asciiLower_rec (by decide +kernel) character

@[simp]
theorem isBlank_asciiLower (character : Char) :
    isBlank (asciiLower character) = isBlank character :=
  asciiLower_rec (by decide +kernel) character

/-- A character that is no letter is what only it becomes. -/
theorem asciiLower_eq_other_iff {other : Char}
    (apart : ∀ place < 26, asciiLower (Char.ofNat (0x41 + place)) ≠ other ∧
      Char.ofNat (0x41 + place) ≠ other) :
    asciiLower character = other ↔ character = other := by
  rcases asciiLower_eq_or_exists character with kept | ⟨place, small, rfl⟩
  · rw [kept]
  · exact iff_of_false (apart place small).1 (apart place small).2

theorem reachesCased_map (characters : List Char) :
    reachesCased (characters.map asciiLower) = reachesCased characters := by
  have kept : isCaseIgnorable ∘ asciiLower = isCaseIgnorable :=
    funext isCaseIgnorable_asciiLower
  unfold reachesCased
  rw [List.dropWhile_map, kept]
  cases characters.dropWhile isCaseIgnorable <;> simp

/-- The case of ASCII letters makes no difference to a text in lower case. -/
theorem lowerAfter_map (before characters : List Char) :
    lowerAfter (before.map asciiLower) (characters.map asciiLower) =
      lowerAfter before characters := by
  induction characters generalizing before with
  | nil => rfl
  | cons character after ih =>
      have sigma : asciiLower character = 'Σ' ↔ character = 'Σ' :=
        asciiLower_eq_other_iff (by decide +kernel)
      have dotted : asciiLower character = 'İ' ↔ character = 'İ' :=
        asciiLower_eq_other_iff (by decide +kernel)
      have later := ih (character :: before)
      rw [List.map_cons] at later
      simp only [List.map_cons, lowerAfter, sigma, dotted, reachesCased_map, lowerChar_asciiLower,
        later]

theorem sameAsciiCase_iff {left right : String} : sameAsciiCase left right = true ↔
    left.toList.map asciiLower = right.toList.map asciiLower := by
  simp [sameAsciiCase]

theorem lowerAfter_recase (same : left.map asciiLower = right.map asciiLower) :
    lowerAfter [] left = lowerAfter [] right := by
  have first := lowerAfter_map [] left
  have second := lowerAfter_map [] right
  rw [same] at first
  exact first.symm.trans second

theorem lowercase_recase {left right : String} (same : sameAsciiCase left right = true) :
    lowercase left = lowercase right :=
  congrArg String.ofList (lowerAfter_recase (sameAsciiCase_iff.mp same))

/-! ## Partners in the case table -/

/-- No partner of a character in the run lies in the range. -/
def CaseRun.avoids (run : CaseRun) (range : Nat × Nat) : Bool :=
  run.target + (run.last - run.first) < range.1 || range.2 < run.target

/-- No partner of a character in the run is held by the other run: it lies outside, or between two
characters of a run that holds every other one. -/
def CaseRun.misses (run other : CaseRun) : Bool :=
  run.avoids (other.first, other.last) ||
    (other.stride == 2 && (run.stride == 2 || run.first == run.last) &&
      (run.target + other.first) % 2 == 1)

/-- What no partner is: a blank character, the separator of items, the dotted capital I, or a code
that is no character's. -/
def foreignRanges : List (Nat × Nat) :=
  [(0x09, 0x0D), (0x20, 0x20), (0x7C, 0x7C), (0x85, 0x85), (0xA0, 0xA0), (0x130, 0x130),
    (0x1680, 0x1680), (0x2000, 0x200A), (0x2028, 0x2029), (0x202F, 0x202F), (0x205F, 0x205F),
    (0x3000, 0x3000), (0xD800, 0xDFFF), (0x110000, 0x110000)]

/-- The partners of the case table have no partners themselves. -/
theorem apart_caseRuns : ∀ run ∈ caseRuns, ∀ other ∈ caseRuns, run.misses other = true := by
  have all : (caseRuns.all fun run => caseRuns.all fun other => run.misses other) = true := by
    decide +kernel
  simpa using all

theorem avoids_foreignRanges :
    ∀ run ∈ caseRuns, run.target < 0x110000 ∧ ∀ range ∈ foreignRanges, run.avoids range = true := by
  have all : (caseRuns.all fun run => run.target < 0x110000 &&
      foreignRanges.all fun range => run.avoids range) = true := by decide +kernel
  simpa using all

theorem not_holds_of_misses {run other : CaseRun} {code : Nat} (held : run.holds code = true)
    (apart : run.misses other = true) :
    other.holds (run.target + (code - run.first)) = false := by
  simp only [CaseRun.misses, CaseRun.avoids, CaseRun.holds, Bool.or_eq_true, Bool.and_eq_true,
    decide_eq_true_eq, beq_iff_eq] at held apart
  rw [← Bool.not_eq_true]
  simp only [CaseRun.holds, Bool.and_eq_true, decide_eq_true_eq, beq_iff_eq]
  rintro ⟨⟨low, high⟩, step⟩
  obtain ⟨⟨first, last⟩, stride⟩ := held
  rcases apart with (above | below) | ⟨⟨two, even | single⟩, odd⟩
  · omega
  · omega
  · rw [even] at stride
    rw [two] at step
    omega
  · rw [two] at step
    omega

/-- Lower-casing leaves the character as it is, wherever it stands. -/
def IsLower (character : Char) : Prop :=
  character ≠ 'Σ' ∧ character ≠ 'İ' ∧ lowerChar character = character

/-- A character that lower-casing changes becomes a partner of the table. -/
theorem lowerChar_eq_or_exists (character : Char) :
    (lowerChar character = character ∧ ∀ run ∈ caseRuns, run.holds character.toNat = false) ∨
      ∃ run ∈ caseRuns, run.holds character.toNat = true ∧
        (lowerChar character).toNat = run.target + (character.toNat - run.first) := by
  unfold lowerChar
  cases found : caseRuns.find? (·.holds character.toNat) with
  | none =>
      refine .inl ⟨rfl, fun run member => ?_⟩
      simpa using List.find?_eq_none.mp found run member
  | some run =>
      have member := List.mem_of_find?_eq_some found
      have held := List.find?_some found
      have inside := held
      obtain ⟨small, avoids⟩ := avoids_foreignRanges run member
      have surrogates := avoids (0xD800, 0xDFFF) (by decide)
      have beyond := avoids (0x110000, 0x110000) (by decide)
      simp only [CaseRun.holds, Bool.and_eq_true, decide_eq_true_eq] at inside
      simp only [CaseRun.avoids, Bool.or_eq_true, decide_eq_true_eq] at surrogates beyond
      have valid : (run.target + (character.toNat - run.first)).isValidChar := by
        simp only [Nat.isValidChar]
        omega
      refine .inr ⟨run, member, held, ?_⟩
      show (Char.ofNat (run.target + (character.toNat - run.first))).toNat = _
      rw [Char.ofNat, dif_pos valid]
      rfl

/-- What a character becomes is left as it is from then on. -/
theorem isLower_lowerChar (noSigma : character ≠ 'Σ') (noDotted : character ≠ 'İ') :
    IsLower (lowerChar character) := by
  rcases lowerChar_eq_or_exists character with ⟨kept, -⟩ | ⟨run, member, held, code⟩
  · exact ⟨kept.symm ▸ noSigma, kept.symm ▸ noDotted, by rw [kept, kept]⟩
  · have missed (other : CaseRun) (listed : other ∈ caseRuns) :
        other.holds (lowerChar character).toNat = false :=
      code ▸ not_holds_of_misses held (apart_caseRuns run member other listed)
    refine ⟨fun sigma => ?_, fun dotted => ?_, ?_⟩
    · obtain ⟨other, listed, holds⟩ : ∃ other ∈ caseRuns, other.holds 'Σ'.toNat = true :=
        List.any_eq_true.mp (by decide +kernel)
      have apart := missed other listed
      rw [sigma, holds] at apart
      cases apart
    · have foreign := (avoids_foreignRanges run member).2 (0x130, 0x130) (by decide)
      have here : (lowerChar character).toNat = 0x130 := dotted ▸ rfl
      simp only [CaseRun.holds, Bool.and_eq_true, decide_eq_true_eq] at held
      simp only [CaseRun.avoids, Bool.or_eq_true, decide_eq_true_eq] at foreign
      omega
    · rcases lowerChar_eq_or_exists (lowerChar character) with ⟨kept, -⟩ | ⟨other, listed, holds, -⟩
      · exact kept
      · rw [missed other listed] at holds
        cases holds

/-- A character becomes blank, or the separator of items, only if it is that already. -/
theorem lowerChar_not_foreign (character : Char) :
    (isBlank character = false → isBlank (lowerChar character) = false) ∧
      (character ≠ '|' → lowerChar character ≠ '|') := by
  rcases lowerChar_eq_or_exists character with ⟨kept, -⟩ | ⟨run, member, held, code⟩
  · rw [kept]
    exact ⟨id, id⟩
  · have outside : ∀ range ∈ foreignRanges,
        (lowerChar character).toNat < range.1 ∨ range.2 < (lowerChar character).toNat := by
      intro range listed
      have avoided := (avoids_foreignRanges run member).2 range listed
      simp only [CaseRun.holds, Bool.and_eq_true, decide_eq_true_eq] at held
      simp only [CaseRun.avoids, Bool.or_eq_true, decide_eq_true_eq] at avoided
      omega
    simp only [foreignRanges, List.forall_mem_cons] at outside
    refine ⟨fun _ => ?_, fun _ bar => ?_⟩
    · simp [isBlank]
      omega
    · have here : (lowerChar character).toNat = 0x7C := bar ▸ rfl
      omega

/-! ## Lower-casing twice -/

/-- What a character becomes between the characters before and after it. -/
def lowered (before : List Char) (character : Char) (after : List Char) : List Char :=
  if character = 'Σ' then
    [if reachesCased before && !reachesCased after then 'ς' else 'σ']
  else if character = 'İ' then ['i', '\u0307']
  else [lowerChar character]

theorem lowerAfter_cons (before : List Char) (character : Char) (after : List Char) :
    lowerAfter before (character :: after) =
      lowered before character after ++ lowerAfter (character :: before) after := rfl

theorem lowered_ne_nil (before : List Char) (character : Char) (after : List Char) :
    lowered before character after ≠ [] := by
  unfold lowered
  repeat' split
  all_goals simp

instance (character : Char) : Decidable (IsLower character) :=
  inferInstanceAs (Decidable (_ ∧ _ ∧ _))

theorem isLower_of_mem_lowered {after : List Char} {form : Char}
    (member : form ∈ lowered before character after) : IsLower form := by
  unfold lowered at member
  split at member
  · have small : IsLower 'ς' ∧ IsLower 'σ' := by decide +kernel
    split at member
    · exact List.mem_singleton.mp member ▸ small.1
    · exact List.mem_singleton.mp member ▸ small.2
  · next noSigma =>
      split at member
      · have small : IsLower 'i' ∧ IsLower '\u0307' := by decide +kernel
        simp only [List.mem_cons, List.not_mem_nil, or_false] at member
        rcases member with rfl | rfl
        · exact small.1
        · exact small.2
      · next noDotted => exact List.mem_singleton.mp member ▸ isLower_lowerChar noSigma noDotted

/-- Blanks and separators come from nothing else. -/
theorem not_foreign_of_mem_lowered {after : List Char} {form : Char}
    (member : form ∈ lowered before character after) :
    (isBlank character = false → isBlank form = false) ∧ (character ≠ '|' → form ≠ '|') := by
  unfold lowered at member
  split at member
  · have solid : (isBlank 'ς' = false ∧ 'ς' ≠ '|') ∧ isBlank 'σ' = false ∧ 'σ' ≠ '|' := by decide
    split at member
    · rw [List.mem_singleton.mp member]
      exact ⟨fun _ => solid.1.1, fun _ => solid.1.2⟩
    · rw [List.mem_singleton.mp member]
      exact ⟨fun _ => solid.2.1, fun _ => solid.2.2⟩
  · split at member
    · have solid : (isBlank 'i' = false ∧ 'i' ≠ '|') ∧
          isBlank '\u0307' = false ∧ '\u0307' ≠ '|' := by decide
      simp only [List.mem_cons, List.not_mem_nil, or_false] at member
      rcases member with rfl | rfl
      · exact ⟨fun _ => solid.1.1, fun _ => solid.1.2⟩
      · exact ⟨fun _ => solid.2.1, fun _ => solid.2.2⟩
    · exact List.mem_singleton.mp member ▸ lowerChar_not_foreign character

theorem isLower_of_mem_lowerAfter {characters : List Char} {form : Char}
    (member : form ∈ lowerAfter before characters) : IsLower form := by
  induction characters generalizing before with
  | nil => cases member
  | cons character after ih =>
      rw [lowerAfter_cons, List.mem_append] at member
      rcases member with here | later
      · exact isLower_of_mem_lowered here
      · exact ih later

theorem lowerAfter_of_isLower {characters : List Char}
    (lower : ∀ character ∈ characters, IsLower character) :
    lowerAfter before characters = characters := by
  induction characters generalizing before with
  | nil => rfl
  | cons character after ih =>
      obtain ⟨⟨noSigma, noDotted, kept⟩, later⟩ := List.forall_mem_cons.mp lower
      rw [lowerAfter_cons, ih later, lowered, if_neg noSigma, if_neg noDotted, kept,
        List.singleton_append]

/-- A text in lower case is not changed by lower-casing, whatever stood before it. -/
theorem lowerAfter_lowerAfter (before other characters : List Char) :
    lowerAfter other (lowerAfter before characters) = lowerAfter before characters :=
  lowerAfter_of_isLower fun _ => isLower_of_mem_lowerAfter

theorem lowercase_lowercase (text : String) : lowercase (lowercase text) = lowercase text := by
  simp [lowercase, lowerAfter_lowerAfter]

/-! ## What a lower-cased text does not hold -/

theorem bar_not_mem_lowerAfter {characters : List Char} (free : '|' ∉ characters) :
    '|' ∉ lowerAfter before characters := by
  induction characters generalizing before with
  | nil => exact List.not_mem_nil
  | cons character after ih =>
      rw [List.mem_cons, not_or] at free
      rw [lowerAfter_cons, List.mem_append]
      rintro (here | later)
      · exact (not_foreign_of_mem_lowered here).2 (Ne.symm free.1) rfl
      · exact ih free.2 later

/-- A text that starts with no blank still does so in lower case. -/
theorem isBlank_head?_lowerAfter {characters : List Char}
    (solid : ∀ first ∈ characters.head?, isBlank first = false) :
    ∀ first ∈ (lowerAfter before characters).head?, isBlank first = false := by
  intro first starts
  cases characters with
  | nil => cases starts
  | cons character after =>
      rw [lowerAfter_cons, List.head?_append_of_ne_nil _ (lowered_ne_nil _ _ _)] at starts
      exact (not_foreign_of_mem_lowered (List.mem_of_mem_head? starts)).1 (solid character rfl)

theorem lowerAfter_append (before front back : List Char) :
    ∃ start, lowerAfter before (front ++ back) =
      start ++ lowerAfter (front.reverse ++ before) back := by
  induction front generalizing before with
  | nil => exact ⟨[], rfl⟩
  | cons character front ih =>
      obtain ⟨start, same⟩ := ih (character :: before)
      refine ⟨lowered before character (front ++ back) ++ start, ?_⟩
      rw [List.cons_append, lowerAfter_cons, same, List.append_assoc, List.reverse_cons,
        List.append_assoc, List.singleton_append]

/-- A text that ends with no blank still does so in lower case. -/
theorem isBlank_getLast?_lowerAfter {characters : List Char}
    (solid : ∀ last ∈ characters.getLast?, isBlank last = false) :
    ∀ last ∈ (lowerAfter before characters).getLast?, isBlank last = false := by
  intro last ends
  rcases List.eq_nil_or_concat characters with rfl | ⟨front, character, rfl⟩
  · cases ends
  · rw [List.concat_eq_append] at ends solid
    obtain ⟨start, same⟩ := lowerAfter_append before front [character]
    have closing : lowerAfter (front.reverse ++ before) [character] =
        lowered (front.reverse ++ before) character [] := by
      rw [lowerAfter_cons, lowerAfter, List.append_nil]
    rw [same, closing, List.getLast?_append_of_ne_nil _ (lowered_ne_nil _ _ _)] at ends
    exact (not_foreign_of_mem_lowered (List.mem_of_mem_getLast? ends)).1
      (solid character (by simp))

end Text
end CardKeeper

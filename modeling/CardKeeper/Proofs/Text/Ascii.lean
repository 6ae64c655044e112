import CardKeeper.Proofs.Text.Lowercase

/-!
# Lower-cased text in ASCII

A text can be put into lower case by the rules for all characters, or by those for ASCII letters
alone.  On an ASCII text both ways agree (`lowerAfter_of_ascii`), and apart from ASCII characters
only the Kelvin sign becomes one (`toNat_lt_of_lowerChar`): the table of partners is looked through
run by run for that.  So a text that is lower-cased to an ASCII text differs from it in the case of
ASCII letters at most, unless a Kelvin sign stands in it: `sameAsciiCase_iff_lowercase`.
-/

namespace CardKeeper
namespace Text

variable {character : Char} {before after characters : List Char} {own extension : String}

/-- Every character of a text is an ASCII character. -/
def IsAscii (text : String) : Prop :=
  ∀ character ∈ text.toList, character.toNat < 0x80

/-- A text whose ASCII letters are in lower case. -/
def asciiLowercase (text : String) : String :=
  String.ofList (text.toList.map asciiLower)

/-- The sign for kelvins, which has the ASCII letter k as its partner. -/
def kelvinSign : Char := '\u212A'

/-! ## Single characters -/

theorem lowerChar_of_ascii (ascii : character.toNat < 0x80) :
    lowerChar character = asciiLower character := by
  have all : ∀ code < 0x80, lowerChar (Char.ofNat code) = asciiLower (Char.ofNat code) := by
    decide +kernel
  have same := all character.toNat ascii
  rwa [Char.ofNat_toNat] at same

theorem toNat_asciiLower_lt_iff : (asciiLower character).toNat < 0x80 ↔ character.toNat < 0x80 := by
  rcases asciiLower_eq_or_exists character with kept | ⟨place, small, rfl⟩
  · rw [kept]
  · have letters : ∀ place < 26, (asciiLower (Char.ofNat (0x41 + place))).toNat < 0x80 ∧
        (Char.ofNat (0x41 + place)).toNat < 0x80 := by decide +kernel
    exact iff_of_true (letters place small).1 (letters place small).2

/-- A run of the table has ASCII characters, or partners outside of ASCII, or it is the one of the
Kelvin sign. -/
theorem ascii_caseRuns : ∀ run ∈ caseRuns, run.last < 0x80 ∨ 0x80 ≤ run.target ∨
    run.first = kelvinSign.toNat ∧ run.last = kelvinSign.toNat := by
  decide +kernel

/-- Apart from ASCII characters, only the Kelvin sign has an ASCII partner. -/
theorem toNat_lt_of_lowerChar (other : character ≠ kelvinSign)
    (ascii : (lowerChar character).toNat < 0x80) : character.toNat < 0x80 := by
  rcases lowerChar_eq_or_exists character with ⟨kept, -⟩ | ⟨run, member, held, code⟩
  · rwa [kept] at ascii
  · simp only [CaseRun.holds, Bool.and_eq_true, decide_eq_true_eq] at held
    rcases ascii_caseRuns run member with low | high | ⟨first, last⟩
    · omega
    · omega
    · refine absurd (Char.toNat_inj.mp ?_) other
      omega

/-! ## Texts -/

theorem lowered_of_ascii (ascii : character.toNat < 0x80) :
    lowered before character after = [asciiLower character] := by
  have noSigma : character ≠ 'Σ' := by
    rintro rfl
    exact absurd ascii (by decide)
  have noDotted : character ≠ 'İ' := by
    rintro rfl
    exact absurd ascii (by decide)
  rw [lowered, if_neg noSigma, if_neg noDotted, lowerChar_of_ascii ascii]

/-- Among ASCII characters the rules for all characters are those for ASCII letters. -/
theorem lowerAfter_of_ascii (ascii : ∀ character ∈ characters, character.toNat < 0x80) :
    lowerAfter before characters = characters.map asciiLower := by
  induction characters generalizing before with
  | nil => rfl
  | cons character after ih =>
      obtain ⟨here, later⟩ := List.forall_mem_cons.mp ascii
      rw [lowerAfter_cons, lowered_of_ascii here, ih later, List.map_cons, List.singleton_append]

theorem toNat_lt_of_lowered (other : character ≠ kelvinSign)
    (ascii : ∀ form ∈ lowered before character after, form.toNat < 0x80) :
    character.toNat < 0x80 := by
  unfold lowered at ascii
  split at ascii
  · split at ascii
    · exact absurd (ascii 'ς' List.mem_cons_self) (by decide)
    · exact absurd (ascii 'σ' List.mem_cons_self) (by decide)
  · split at ascii
    · exact absurd (ascii '\u0307' (by simp)) (by decide)
    · exact toNat_lt_of_lowerChar other (ascii _ List.mem_cons_self)

/-- A text without Kelvin signs that becomes an ASCII text is one. -/
theorem ascii_of_lowerAfter (plain : kelvinSign ∉ characters)
    (ascii : ∀ form ∈ lowerAfter before characters, form.toNat < 0x80) :
    ∀ character ∈ characters, character.toNat < 0x80 := by
  induction characters generalizing before with
  | nil => simp
  | cons character after ih =>
      rw [List.mem_cons, not_or] at plain
      rw [lowerAfter_cons, List.forall_mem_append] at ascii
      refine List.forall_mem_cons.mpr ⟨?_, ih plain.2 ascii.2⟩
      exact toNat_lt_of_lowered (Ne.symm plain.1) ascii.1

theorem mem_lowerAfter_of_kelvinSign (inside : kelvinSign ∈ characters) :
    'k' ∈ lowerAfter before characters := by
  induction characters generalizing before with
  | nil => cases inside
  | cons character after ih =>
      rw [lowerAfter_cons, List.mem_append]
      rcases List.mem_cons.mp inside with rfl | later
      · have form : lowered before kelvinSign after = ['k'] := by
          rw [lowered, if_neg (by decide), if_neg (by decide)]
          decide +kernel
        exact .inl (by simp [form])
      · exact .inr (ih later)

theorem isAscii_asciiLowercase (ascii : IsAscii extension) :
    IsAscii (asciiLowercase extension) := by
  intro character member
  rw [asciiLowercase, String.toList_ofList] at member
  obtain ⟨original, listed, rfl⟩ := List.mem_map.mp member
  exact toNat_asciiLower_lt_iff.mpr (ascii original listed)

/-- What differs from an ASCII text in the case of ASCII letters is an ASCII text. -/
theorem isAscii_of_sameAsciiCase (ascii : IsAscii extension)
    (same : sameAsciiCase own extension = true) : IsAscii own := by
  intro character member
  have form : asciiLower character ∈ extension.toList.map asciiLower := by
    rw [← sameAsciiCase_iff.mp same]
    exact List.mem_map_of_mem member
  obtain ⟨original, listed, agree⟩ := List.mem_map.mp form
  rw [← toNat_asciiLower_lt_iff, ← agree, toNat_asciiLower_lt_iff]
  exact ascii original listed

theorem lowercase_of_isAscii (ascii : IsAscii own) : lowercase own = asciiLowercase own := by
  rw [lowercase, asciiLowercase, lowerAfter_of_ascii ascii]

/-- A text differs from an ASCII text in the case of ASCII letters at most if both are the same in
lower case and it holds no Kelvin sign. -/
theorem sameAsciiCase_iff_lowercase (ascii : IsAscii extension) :
    sameAsciiCase own extension = true ↔
      lowercase own = asciiLowercase extension ∧ kelvinSign ∉ own.toList := by
  constructor
  · intro same
    have ownAscii : IsAscii own := isAscii_of_sameAsciiCase ascii same
    refine ⟨?_, fun inside => absurd (ownAscii _ inside) (by decide)⟩
    rw [lowercase_of_isAscii ownAscii, asciiLowercase, asciiLowercase, sameAsciiCase_iff.mp same]
  · rintro ⟨same, plain⟩
    have small : ∀ form ∈ lowerAfter [] own.toList, form.toNat < 0x80 := by
      intro form member
      apply isAscii_asciiLowercase ascii form
      rwa [← same, lowercase, String.toList_ofList]
    have ownAscii : IsAscii own := ascii_of_lowerAfter plain small
    rw [lowercase_of_isAscii ownAscii] at same
    exact sameAsciiCase_iff.mpr (String.ofList_injective same)

/-- No Kelvin sign stands in a text that has no k in lower case. -/
theorem kelvinSign_not_mem (free : 'k' ∉ (lowercase own).toList) : kelvinSign ∉ own.toList := by
  intro inside
  apply free
  rw [lowercase, String.toList_ofList]
  exact mem_lowerAfter_of_kelvinSign inside

end Text
end CardKeeper

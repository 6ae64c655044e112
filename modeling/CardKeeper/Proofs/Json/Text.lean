import Mathlib
import CardKeeper.Json.Text
import CardKeeper.Proofs.Json.Spelling
import CardKeeper.Proofs.Utf8

/-!
# Reading spelled strings

A string is read to the encoding of its content, whatever escapes it is spelled with:
`readText_spelled`.  A string whose content nobody wants is passed over whole.
-/

namespace CardKeeper
namespace Json

open Utf8

/-! ## White space and single characters -/

theorem isSpace_encodeChars {space : List Char} (blank : IsBlank space) :
    ∀ byte ∈ encodeChars space, isSpace byte = true := by
  intro byte member
  obtain ⟨character, inside, encoded⟩ := List.mem_flatMap.mp member
  have known := blank character inside
  simp only [List.mem_cons, List.not_mem_nil, or_false] at known
  rcases known with rfl | rfl | rfl | rfl <;>
    (rw [List.mem_singleton.mp encoded]; decide)

@[simp]
theorem skipSpace_blank {space : List Char} (blank : IsBlank space) (rest : Bytes) :
    skipSpace (encodeChars space ++ rest) = skipSpace rest :=
  List.dropWhile_append_of_pos (isSpace_encodeChars blank)

theorem skipSpace_cons {byte : UInt8} (visible : isSpace byte = false) (rest : Bytes) :
    skipSpace (byte :: rest) = byte :: rest := by
  simp [skipSpace, visible]

/-- A character with a code point of seven bits is one byte. -/
theorem encodeChars_single (character : Char) (byte : UInt8)
    (single : String.utf8EncodeChar character = [byte]) (rest : List Char) :
    encodeChars (character :: rest) = byte :: encodeChars rest := by
  rw [encodeChars_cons, single, List.singleton_append]

/-- All bytes of any other character have their high bit set. -/
theorem high_of_mem_utf8EncodeChar {character : Char} {byte : UInt8}
    (beyond : 0x80 ≤ character.toNat) (member : byte ∈ String.utf8EncodeChar character) :
    0x80 ≤ byte.toNat := by
  have beyond : 0x80 ≤ character.val.toNat := beyond
  simp only [String.utf8EncodeChar] at member
  split at member
  · omega
  split at member
  · simp only [List.mem_cons, List.not_mem_nil, or_false] at member
    rcases member with rfl | rfl <;> (rw [UInt8.toNat_ofNat']; omega)
  split at member
  · simp only [List.mem_cons, List.not_mem_nil, or_false] at member
    rcases member with rfl | rfl | rfl <;> (rw [UInt8.toNat_ofNat']; omega)
  · simp only [List.mem_cons, List.not_mem_nil, or_false] at member
    rcases member with rfl | rfl | rfl | rfl <;> (rw [UInt8.toNat_ofNat']; omega)

/-- A byte of a string that stands for itself. -/
def IsPlainByte (byte : UInt8) : Prop :=
  byte ≠ quote ∧ byte ≠ backslash ∧ ¬byte < 0x20

/-- A character that need not be escaped has no byte that must be. -/
theorem isPlainByte_of_mem {character : Char} (unquoted : character ≠ '"')
    (unescaped : character ≠ '\\') (visible : 0x20 ≤ character.toNat) {byte : UInt8}
    (member : byte ∈ String.utf8EncodeChar character) : IsPlainByte byte := by
  rcases Nat.lt_or_ge character.toNat 0x80 with low | high
  · have single : String.utf8EncodeChar character = [UInt8.ofNat character.toNat] := by
      have low : character.val.toNat ≤ 127 := Nat.le_of_lt_succ low
      simp only [String.utf8EncodeChar, if_pos low]
      rfl
    have value : byte.toNat = character.toNat := by
      rw [single, List.mem_singleton] at member
      rw [member, UInt8.toNat_ofNat']
      omega
    have differs (mark : Char) (other : character ≠ mark) : byte.toNat ≠ mark.toNat := by
      rw [value]
      exact fun same => other (Char.toNat_inj.mp same)
    refine ⟨fun same => differs '"' unquoted ?_, fun same => differs '\\' unescaped ?_, ?_⟩
    · rw [same]
      rfl
    · rw [same]
      rfl
    · rw [UInt8.lt_iff_toNat_lt]
      exact Nat.not_lt.mpr (value ▸ visible)
  · have beyond := high_of_mem_utf8EncodeChar high member
    refine ⟨?_, ?_, ?_⟩
    · rintro rfl
      exact absurd beyond (by decide)
    · rintro rfl
      exact absurd beyond (by decide)
    · rw [UInt8.lt_iff_toNat_lt]
      exact Nat.not_lt.mpr (Nat.le_trans (by decide) beyond)

/-! ## Strings -/

/-- A hexadecimal digit is one byte with its value. -/
theorem of_isHexDigit {value : ℕ} {digit : Char} (isDigit : IsHexDigit value digit) :
    ∃ byte, String.utf8EncodeChar digit = [byte] ∧ hexValue? byte = some value := by
  obtain ⟨small, spelled⟩ := isDigit
  have all : ∀ value : Fin 16,
      (∃ byte, String.utf8EncodeChar (Nat.digitChar value) = [byte] ∧
        hexValue? byte = some value.val) ∧
      ∃ byte, String.utf8EncodeChar (Nat.digitChar value).toUpper = [byte] ∧
        hexValue? byte = some value.val := by
    decide
  rcases spelled with rfl | rfl
  · exact (all ⟨value, small⟩).1
  · exact (all ⟨value, small⟩).2

theorem hexUnit_spelled {unit : ℕ} {digits : List Char} (spells : SpellsUnit unit digits)
    (rest : Bytes) : hexUnit (encodeChars digits ++ rest) = .ok (unit, rest) := by
  cases spells with
  | intro isFirst isSecond isThird isFourth =>
      obtain ⟨first, firstEncoded, firstValue⟩ := of_isHexDigit isFirst
      obtain ⟨second, secondEncoded, secondValue⟩ := of_isHexDigit isSecond
      obtain ⟨third, thirdEncoded, thirdValue⟩ := of_isHexDigit isThird
      obtain ⟨fourth, fourthEncoded, fourthValue⟩ := of_isHexDigit isFourth
      simp only [encodeChars_cons, firstEncoded, secondEncoded, thirdEncoded, fourthEncoded,
        encodeChars_nil, List.cons_append, List.nil_append, hexUnit,
        firstValue, secondValue, thirdValue, fourthValue]

theorem toNat_not_surrogate (character : Char) :
    isTrailing character.toNat = false ∧ isLeading character.toNat = false := by
  have valid := character.valid
  simp only [UInt32.isValidChar, Nat.isValidChar] at valid
  have value : character.toNat = character.val.toNat := rfl
  simp only [isTrailing, isLeading, Bool.and_eq_false_iff, decide_eq_false_iff_not]
  omega

/-- An escape stands for its character, whichever it is. -/
theorem readEscape_spelled {character : Char} {spelled : List Char}
    (spells : SpellsChar character ('\\' :: spelled)) (rest : Bytes) :
    readEscape (encodeChars spelled ++ rest) = .ok (character, rest) := by
  cases spells with
  | plain unquoted unescaped visible => exact absurd rfl unescaped
  | short known =>
      simp only [shortEscapes, List.mem_cons, Prod.mk.injEq, List.not_mem_nil, or_false] at known
      rcases known with ⟨rfl, rfl⟩ | ⟨rfl, rfl⟩ | ⟨rfl, rfl⟩ | ⟨rfl, rfl⟩ | ⟨rfl, rfl⟩ |
        ⟨rfl, rfl⟩ | ⟨rfl, rfl⟩ | ⟨rfl, rfl⟩ <;> rfl
  | unit spells =>
      obtain ⟨notTrailing, notLeading⟩ := toNat_not_surrogate character
      rw [encodeChars_single 'u' 0x75 rfl, List.cons_append, readEscape, if_pos rfl,
        numericEscape, hexUnit_spelled spells]
      simp [Except.bind, notTrailing, notLeading]
  | pair isLeading isTrailing code spellsFirst spellsSecond =>
      rename_i leading trailing first second
      have leads : Json.isLeading leading = true := by simpa [Json.isLeading] using isLeading
      have trails : Json.isTrailing trailing = true := by simpa [Json.isTrailing] using isTrailing
      have apart : Json.isTrailing leading = false := by
        simp only [Json.isTrailing, Bool.and_eq_false_iff, decide_eq_false_iff_not]
        omega
      have second_read : trailingUnit (encodeChars ('\\' :: 'u' :: second) ++ rest) =
          .ok (trailing, rest) := by
        rw [encodeChars_single '\\' backslash rfl, encodeChars_single 'u' 0x75 rfl]
        simp only [List.cons_append, trailingUnit, if_true, hexUnit_spelled spellsSecond,
          Except.bind, trails]
      rw [encodeChars_single 'u' 0x75 rfl, encodeChars_append, List.cons_append,
        List.append_assoc, readEscape, if_pos rfl, numericEscape, hexUnit_spelled spellsFirst]
      simp only [Except.bind, apart, leads, second_read, Bool.false_eq_true, if_false, if_true,
        ← code, Char.ofNat_toNat]

theorem readText_plain {byte : UInt8} (plain : IsPlainByte byte) {rest content last : Bytes}
    (read : readText rest = .ok (content, last)) :
    readText (byte :: rest) = .ok (byte :: content, last) := by
  obtain ⟨unquoted, unescaped, visible⟩ := plain
  rw [readText]
  simp [unquoted, unescaped, visible, read, Except.map]

theorem readText_plains {bytes : Bytes} (plain : ∀ byte ∈ bytes, IsPlainByte byte)
    {rest content last : Bytes} (read : readText rest = .ok (content, last)) :
    readText (bytes ++ rest) = .ok (bytes ++ content, last) := by
  induction bytes with
  | nil => exact read
  | cons byte bytes ih =>
      exact readText_plain (plain byte List.mem_cons_self)
        (ih fun other member => plain other (List.mem_cons_of_mem _ member))

theorem readText_escape {bytes rest content last : Bytes} {character : Char}
    (escape : readEscape bytes = .ok (character, rest))
    (read : readText rest = .ok (content, last)) :
    readText (backslash :: bytes) = .ok (String.utf8EncodeChar character ++ content, last) := by
  rw [readText, if_neg (by decide), if_pos rfl]
  split
  · next failed =>
      rw [escape] at failed
      cases failed
  · next other after again =>
      rw [escape] at again
      cases again
      simp only [read, Except.map]

/-- A spelled character gives its encoding. -/
theorem readText_char {character : Char} {spelled : List Char}
    (spells : SpellsChar character spelled) {rest content last : Bytes}
    (read : readText rest = .ok (content, last)) :
    readText (encodeChars spelled ++ rest) =
      .ok (String.utf8EncodeChar character ++ content, last) := by
  have escaped (tail : List Char) (shape : spelled = '\\' :: tail) :
      readText (encodeChars spelled ++ rest) =
        .ok (String.utf8EncodeChar character ++ content, last) := by
    subst shape
    rw [encodeChars_single '\\' backslash rfl, List.cons_append]
    exact readText_escape (readEscape_spelled spells rest) read
  cases spells with
  | plain unquoted unescaped visible =>
      rw [encodeChars_cons, encodeChars_nil, List.append_nil]
      exact readText_plains (fun byte => isPlainByte_of_mem unquoted unescaped visible) read
  | short known => exact escaped _ rfl
  | unit spells => exact escaped _ rfl
  | pair isLeading isTrailing code spellsFirst spellsSecond => exact escaped _ rfl

/-- A spelled string gives its content. -/
theorem readText_spelled {content spelled : List Char} (spells : SpellsChars content spelled)
    (rest : Bytes) :
    readText (encodeChars spelled ++ quote :: rest) = .ok (encodeChars content, rest) := by
  induction spells with
  | nil =>
      rw [encodeChars_nil, List.nil_append, readText, if_pos rfl]
  | cons head tail ih =>
      rw [encodeChars_append, List.append_assoc, encodeChars_cons]
      exact readText_char head ih

theorem skipText_plains {bytes : Bytes} (plain : ∀ byte ∈ bytes, IsPlainByte byte)
    (rest : Bytes) : skipText (bytes ++ rest) = skipText rest := by
  induction bytes with
  | nil => rfl
  | cons byte bytes ih =>
      obtain ⟨unquoted, unescaped, visible⟩ := plain byte List.mem_cons_self
      rw [List.cons_append, skipText, if_neg unquoted, if_neg unescaped, if_neg visible]
      exact ih fun other member => plain other (List.mem_cons_of_mem _ member)

theorem skipText_escape {bytes rest : Bytes} (escape : skipEscape bytes = .ok rest) :
    skipText (backslash :: bytes) = skipText rest := by
  rw [skipText, if_neg (by decide), if_pos rfl]
  split
  · next failed =>
      rw [escape] at failed
      cases failed
  · next after again =>
      rw [escape] at again
      cases again
      rfl

theorem skipText_unit {unit : ℕ} {digits : List Char} (spells : SpellsUnit unit digits)
    (rest : Bytes) :
    skipText (encodeChars ('\\' :: 'u' :: digits) ++ rest) = skipText rest := by
  rw [encodeChars_single '\\' backslash rfl, encodeChars_single 'u' 0x75 rfl, List.cons_append,
    List.cons_append]
  refine skipText_escape ?_
  rw [skipEscape, if_pos rfl, hexUnit_spelled spells]
  rfl

theorem skipText_char {character : Char} {spelled : List Char}
    (spells : SpellsChar character spelled) (rest : Bytes) :
    skipText (encodeChars spelled ++ rest) = skipText rest := by
  cases spells with
  | plain unquoted unescaped visible =>
      rw [encodeChars_cons, encodeChars_nil, List.append_nil]
      exact skipText_plains (fun byte => isPlainByte_of_mem unquoted unescaped visible) rest
  | short known =>
      rw [encodeChars_single '\\' backslash rfl]
      refine skipText_escape ?_
      simp only [shortEscapes, List.mem_cons, Prod.mk.injEq, List.not_mem_nil, or_false] at known
      rcases known with ⟨rfl, rfl⟩ | ⟨rfl, rfl⟩ | ⟨rfl, rfl⟩ | ⟨rfl, rfl⟩ | ⟨rfl, rfl⟩ |
        ⟨rfl, rfl⟩ | ⟨rfl, rfl⟩ | ⟨rfl, rfl⟩ <;> rfl
  | unit spells => exact skipText_unit spells rest
  | pair isLeading isTrailing code spellsFirst spellsSecond =>
      -- Here each half of the pair is an escape of its own.
      rw [← List.cons_append, ← List.cons_append, encodeChars_append, List.append_assoc,
        skipText_unit spellsFirst, skipText_unit spellsSecond]

/-- A spelled string is passed over whole. -/
theorem skipText_spelled {content spelled : List Char} (spells : SpellsChars content spelled)
    (rest : Bytes) : skipText (encodeChars spelled ++ quote :: rest) = .ok rest := by
  induction spells with
  | nil => rw [encodeChars_nil, List.nil_append, skipText, if_pos rfl]
  | cons head tail ih =>
      rw [encodeChars_append, List.append_assoc, skipText_char head, ih]

end Json
end CardKeeper

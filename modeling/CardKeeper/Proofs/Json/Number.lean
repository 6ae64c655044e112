import Mathlib
import CardKeeper.Json.Skip
import CardKeeper.Proofs.Json.Text

/-!
# Passing over spelled numbers

A number is the one value that does not show its own end, so what follows a value must not go on
like one: `Delimits`.  Then the scanner stops exactly behind it.
-/

namespace CardKeeper
namespace Json

open Utf8

/-- What follows a value does not go on like a number. -/
def Delimits (rest : Bytes) : Prop :=
  ∀ byte ∈ rest.head?, isSpace byte = true ∨ byte = comma ∨ byte = listEnd ∨ byte = objectEnd

/-- White space, or one of the marks that stand after a value, ends a number. -/
theorem delimits_blank {space : List Char} (blank : IsBlank space) {bytes : Bytes}
    (ends : Delimits bytes) : Delimits (encodeChars space ++ bytes) := by
  cases shape : encodeChars space with
  | nil => exact ends
  | cons byte tail =>
      rintro first ⟨⟩
      exact .inl (isSpace_encodeChars blank _ (shape ▸ List.mem_cons_self))

theorem delimits_cons {byte : UInt8} (mark : byte = comma ∨ byte = listEnd ∨ byte = objectEnd)
    (rest : Bytes) : Delimits (byte :: rest) := by
  rintro first ⟨⟩
  exact .inr mark

theorem Delimits.not_number {byte : UInt8} {rest : Bytes} (ends : Delimits (byte :: rest)) :
    isDigit byte = false ∧ byte ≠ point ∧ isExponentMark byte = false := by
  have known := ends byte rfl
  simp only [isSpace, Bool.or_eq_true, beq_iff_eq] at known
  rcases known with (((rfl | rfl) | rfl) | rfl) | rfl | rfl | rfl <;> decide

theorem Delimits.skipDigits {rest : Bytes} (ends : Delimits rest) :
    Json.skipDigits rest = rest := by
  cases rest with
  | nil => rfl
  | cons byte rest => simp [Json.skipDigits, ends.not_number.1]

theorem of_digitChar (digit : Fin 10) :
    ∃ byte, String.utf8EncodeChar (Nat.digitChar digit.val) = [byte] ∧ isDigit byte = true ∧
      (byte = 0x30 ↔ digit = 0) := by
  revert digit
  decide

theorem isDigit_of_mem {digits : List (Fin 10)} :
    ∀ byte ∈ encodeChars (digitChars digits), isDigit byte = true := by
  intro byte member
  obtain ⟨character, inside, encoded⟩ := List.mem_flatMap.mp member
  obtain ⟨digit, -, rfl⟩ := List.mem_map.mp inside
  obtain ⟨own, single, isDigit, -⟩ := of_digitChar digit
  rw [single, List.mem_singleton] at encoded
  rwa [encoded]

theorem skipDigits_digits (digits : List (Fin 10)) (rest : Bytes) :
    skipDigits (encodeChars (digitChars digits) ++ rest) = skipDigits rest :=
  List.dropWhile_append_of_pos isDigit_of_mem

/-- Digits, of which there is at least one, are one digit and more of them. -/
theorem exists_digit {digits : List (Fin 10)} (present : digits ≠ []) (rest : Bytes) :
    ∃ byte tail, encodeChars (digitChars digits) ++ rest = byte :: tail ∧ isDigit byte = true ∧
      (byte = 0x30 ↔ digits.head? = some 0) ∧ skipDigits tail = skipDigits rest := by
  cases digits with
  | nil => exact absurd rfl present
  | cons digit digits =>
      obtain ⟨byte, single, isDigit, zero⟩ := of_digitChar digit
      refine ⟨byte, encodeChars (digitChars digits) ++ rest, ?_, isDigit, ?_,
        skipDigits_digits digits rest⟩
      · rw [digitChars, List.map_cons, encodeChars_cons, single]
        rfl
      · simpa using zero

theorem skipExponent_digits {digits : List (Fin 10)} (present : digits ≠ []) {rest : Bytes}
    (ends : Delimits rest) :
    skipExponent (encodeChars (digitChars digits) ++ rest) = .ok rest := by
  obtain ⟨byte, tail, shape, isDigit, -, skipped⟩ := exists_digit present rest
  have unsigned : byte ≠ plus ∧ byte ≠ minus := by
    constructor <;> (rintro rfl; exact absurd isDigit (by decide))
  simp only [shape, skipExponent, unsigned, or_self, if_false, isDigit, if_true, skipped,
    ends.skipDigits]

theorem skipScale_spelled {exponent : ℤ} {scale : List Char} (spells : SpellsScale exponent scale)
    {rest : Bytes} (ends : Delimits rest) : skipScale (encodeChars scale ++ rest) = .ok rest := by
  have marked {mark : Char} {tail : List Char} (isMark : mark = 'e' ∨ mark = 'E')
      (skipped : skipExponent (encodeChars tail ++ rest) = .ok rest) :
      skipScale (encodeChars (mark :: tail) ++ rest) = .ok rest := by
    rcases isMark with rfl | rfl
    · rw [encodeChars_single 'e' 0x65 rfl]
      exact skipped
    · rw [encodeChars_single 'E' 0x45 rfl]
      exact skipped
  cases spells with
  | none =>
      rw [encodeChars_nil, List.nil_append]
      cases rest with
      | nil => rfl
      | cons byte rest => simp [skipScale, ends.not_number.2.2]
  | plain isMark present => exact marked isMark (skipExponent_digits present ends)
  | plus isMark present =>
      refine marked isMark ?_
      obtain ⟨byte, tail, shape, isDigit, -, skipped⟩ := exists_digit present rest
      rw [encodeChars_single '+' plus rfl, List.cons_append, shape, skipExponent]
      simp [isDigit, skipped, ends.skipDigits]
  | minus isMark present =>
      refine marked isMark ?_
      obtain ⟨byte, tail, shape, isDigit, -, skipped⟩ := exists_digit present rest
      rw [encodeChars_single '-' minus rfl, List.cons_append, shape, skipExponent]
      simp [isDigit, skipped, ends.skipDigits]

theorem skipDigits_of_head {bytes : Bytes} (other : ∀ byte ∈ bytes.head?, isDigit byte = false) :
    skipDigits bytes = bytes := by
  cases bytes with
  | nil => rfl
  | cons byte rest => simp [skipDigits, other byte rfl]

/-- An exponent, or the end of a number, does not go on like digits or a fraction. -/
theorem head_scale {exponent : ℤ} {scale : List Char} (spells : SpellsScale exponent scale)
    {rest : Bytes} (ends : Delimits rest) :
    ∀ byte ∈ (encodeChars scale ++ rest).head?, isDigit byte = false ∧ byte ≠ point := by
  have marked {mark : Char} {tail : List Char} (isMark : mark = 'e' ∨ mark = 'E') :
      ∀ byte ∈ (encodeChars (mark :: tail) ++ rest).head?,
        isDigit byte = false ∧ byte ≠ point := by
    rcases isMark with rfl | rfl
    · rw [encodeChars_single 'e' 0x65 rfl]
      rintro byte ⟨⟩
      decide
    · rw [encodeChars_single 'E' 0x45 rfl]
      rintro byte ⟨⟩
      decide
  cases spells with
  | none =>
      intro byte head
      cases rest with
      | nil => cases head
      | cons first rest =>
          cases head
          exact ⟨ends.not_number.1, ends.not_number.2.1⟩
  | plain isMark | plus isMark | minus isMark => exact marked isMark

theorem skipFraction_spelled {fraction : List (Fin 10)} {exponent : ℤ} {point scale : List Char}
    (fractional : SpellsFraction fraction point) (scaled : SpellsScale exponent scale)
    {rest : Bytes} (ends : Delimits rest) :
    skipFraction (encodeChars (point ++ scale) ++ rest) = .ok rest := by
  have head := head_scale scaled ends
  have skipped := skipScale_spelled scaled ends
  rw [encodeChars_append, List.append_assoc]
  generalize encodeChars scale ++ rest = bytes at head skipped
  cases fractional with
  | none =>
      rw [encodeChars_nil, List.nil_append]
      cases bytes with
      | nil => exact skipped
      | cons byte bytes => simp only [skipFraction, if_neg (head byte rfl).2, skipped]
  | some present =>
      obtain ⟨byte, tail, shape, isDigit, -, more⟩ := exists_digit present bytes
      rw [encodeChars_single '.' Json.point rfl, List.cons_append, shape]
      simp only [skipFraction, isDigit, if_true, more, skipped,
        skipDigits_of_head fun byte member => (head byte member).1]

/-- What follows the whole part of a number does not go on like its digits. -/
theorem head_fraction {fraction : List (Fin 10)} {exponent : ℤ} {point scale : List Char}
    (fractional : SpellsFraction fraction point) (scaled : SpellsScale exponent scale)
    {rest : Bytes} (ends : Delimits rest) :
    ∀ byte ∈ (encodeChars (point ++ scale) ++ rest).head?, isDigit byte = false := by
  cases fractional with
  | none => exact fun byte member => (head_scale scaled ends byte member).1
  | some present =>
      rw [List.cons_append, encodeChars_single '.' Json.point rfl]
      rintro byte ⟨⟩
      decide

/-- A number without its sign is passed over whole. -/
theorem skipNumber_spelled {size : ℚ} {spelled : List Char} (spells : SpellsSize size spelled)
    {rest : Bytes} (ends : Delimits rest) :
    skipNumber (encodeChars spelled ++ rest) = .ok rest := by
  cases spells with
  | intro present leading fractional scaled =>
      have skipped := skipFraction_spelled fractional scaled ends
      have head := head_fraction fractional scaled ends
      rw [List.append_assoc, encodeChars_append, List.append_assoc]
      generalize encodeChars (_ ++ _) ++ rest = bytes at head skipped
      obtain ⟨byte, tail, shape, isDigit, zero, more⟩ := exists_digit present bytes
      rw [skipDigits_of_head head] at more
      by_cases isZero : byte = 0x30
      · rw [leading (zero.mp isZero)]
        change skipNumber (0x30 :: bytes) = .ok rest
        cases bytes with
        | nil => exact skipped
        | cons next bytes => simp only [skipNumber, if_true, head next rfl, Bool.false_eq_true,
            if_false, skipped]
      · simp only [shape, skipNumber, isZero, if_false, isDigit, if_true, more, skipped]

end Json
end CardKeeper

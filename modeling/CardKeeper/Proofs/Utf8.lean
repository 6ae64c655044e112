import CardKeeper.Text.Utf8

/-!
# What shown and decoded text says about its bytes

A byte string decodes to a text exactly when it is the encoding of that text.  Text shown for
bytes that encode none differs from them only in U+FFFD, so it holds no ASCII character that the
bytes do not hold.  Texts come in the order of their encodings: `encode_lt_encode_iff`.
-/

namespace CardKeeper
namespace Utf8

@[simp]
theorem encodeChars_nil : encodeChars [] = [] := rfl

@[simp]
theorem encodeChars_cons (character : Char) (rest : List Char) :
    encodeChars (character :: rest) = String.utf8EncodeChar character ++ encodeChars rest := rfl

@[simp]
theorem encodeChars_append (left right : List Char) :
    encodeChars (left ++ right) = encodeChars left ++ encodeChars right :=
  List.flatMap_append

theorem encode_append (left right : String) :
    encode (left ++ right) = encode left ++ encode right := by
  simp [encode]

/-- A byte string that starts with a character starts with its encoding. -/
theorem eq_of_first? {bytes : Bytes} {character : Char} (first : first? bytes = some character) :
    bytes = String.utf8EncodeChar character ++ bytes.drop character.utf8Size := by
  obtain ⟨tail, split⟩ := ByteArray.exists_of_utf8DecodeChar?_eq_some first
  have front : bytes.take 4 = String.utf8EncodeChar character ++ tail.data.toList := by
    have lists := congrArg (fun array : ByteArray => array.data.toList) split
    simpa using lists
  have whole : bytes = String.utf8EncodeChar character ++
      (tail.data.toList ++ bytes.drop 4) := by
    rw [← List.append_assoc, ← front, List.take_append_drop]
  have dropped := congrArg (List.drop (String.utf8EncodeChar character).length) whole
  rw [List.drop_left, String.length_utf8EncodeChar] at dropped
  rw [dropped]
  exact whole

private theorem eq_of_mapM_pieces {bytes : Bytes} {characters : List Char}
    (read : (pieces bytes).mapM Piece.char? = some characters) :
    bytes = encodeChars characters := by
  fun_induction pieces bytes generalizing characters with
  | case1 => simp_all
  | case2 byte rest character first ih =>
      simp only [List.mapM_cons, Piece.char?] at read
      obtain ⟨tail, readTail, rfl⟩ : ∃ tail,
          (pieces ((byte :: rest).drop character.utf8Size)).mapM Piece.char? = some tail ∧
            character :: tail = characters := by
        simpa [Option.bind_eq_some_iff] using read
      rw [encodeChars_cons, ← ih readTail]
      exact eq_of_first? first
  | case3 => simp [Piece.char?] at read

private theorem mapM_char? (characters : List Char) :
    (characters.map Piece.char).mapM Piece.char? = some characters := by
  induction characters with
  | nil => rfl
  | cons character rest ih => simp [Piece.char?, ih]

/-- A byte string decodes to a text exactly when it is its encoding. -/
theorem decode?_eq_some_iff {bytes : Bytes} {text : String} :
    decode? bytes = some text ↔ bytes = encode text := by
  constructor
  · intro decoded
    obtain ⟨characters, read, rfl⟩ := Option.map_eq_some_iff.mp decoded
    simpa [encode] using eq_of_mapM_pieces read
  · rintro rfl
    rw [decode?, encode, pieces_encode, mapM_char?]
    simp

theorem encode_injective {left right : String} (same : encode left = encode right) :
    left = right := by
  have decoded : decode? (encode left) = some right := decode?_eq_some_iff.mpr same
  rw [decode?_eq_some_iff.mpr rfl] at decoded
  exact Option.some.inj decoded

theorem encode_inj {left right : String} : encode left = encode right ↔ left = right :=
  ⟨encode_injective, congrArg encode⟩

/-- Shown text holds no ASCII character that the bytes do not hold. -/
theorem mem_of_mem_encode_display {bytes : Bytes} {byte : UInt8} (ascii : byte < 0x80)
    (member : byte ∈ encode (display bytes)) : byte ∈ bytes := by
  rw [encode, display, String.toList_ofList] at member
  fun_induction pieces bytes with
  | case1 => simp at member
  | case2 head rest character first ih =>
      rw [List.map_cons, encodeChars_cons, List.mem_append] at member
      rcases member with inside | later
      · rw [eq_of_first? first]
        exact List.mem_append_left _ inside
      · exact List.mem_of_mem_drop (ih later)
  | case3 head rest _ ih =>
      rw [List.map_cons, encodeChars_cons, List.mem_append] at member
      rcases member with shown | later
      · have replacement : String.utf8EncodeChar '\uFFFD' = [0xEF, 0xBF, 0xBD] := by decide
        rw [Piece.shown, replacement] at shown
        simp only [List.mem_cons, List.not_mem_nil, or_false] at shown
        rcases shown with rfl | rfl | rfl <;> exact absurd ascii (by decide)
      · exact List.mem_of_mem_drop (ih later)

/-- A text is encoded character by character. -/
theorem mem_encode {character : Char} {text : String} {byte : UInt8}
    (member : character ∈ text.toList) (part : byte ∈ String.utf8EncodeChar character) :
    byte ∈ encode text :=
  List.mem_flatMap.mpr ⟨character, member, part⟩

/-- The byte of a line break. -/
abbrev lineFeed : UInt8 := 0x0A

/-- Shown text is broken into lines where the bytes are. -/
theorem lineFeed_mem_of_mem_display {bytes : Bytes} (member : '\n' ∈ (display bytes).toList) :
    lineFeed ∈ bytes :=
  mem_of_mem_encode_display (by decide) (mem_encode member (by decide))

theorem pieces_eq_nil_iff {bytes : Bytes} : pieces bytes = [] ↔ bytes = [] := by
  cases bytes with
  | nil => simp [pieces]
  | cons byte rest =>
      rw [pieces]
      split <;> simp

/-- Bytes end as the text that shows them, unless that ends in a broken run. -/
theorem exists_append_of_getLast? {bytes : Bytes} {character : Char}
    (whole : character ≠ '\uFFFD') (last : (display bytes).toList.getLast? = some character) :
    ∃ front, bytes = front ++ String.utf8EncodeChar character := by
  rw [display, String.toList_ofList] at last
  fun_induction pieces bytes with
  | case1 => simp at last
  | case2 head rest first read ih =>
      have split := eq_of_first? read
      by_cases none : pieces ((head :: rest).drop first.utf8Size) = []
      · rw [none] at last
        obtain rfl : first = character := by simpa [Piece.shown] using last
        rw [pieces_eq_nil_iff.mp none, List.append_nil] at split
        exact ⟨[], split⟩
      · rw [List.map_cons, List.getLast?_cons_of_ne_nil (mt List.map_eq_nil_iff.mp none)] at last
        obtain ⟨front, ends⟩ := ih last
        rw [ends, ← List.append_assoc] at split
        exact ⟨_, split⟩
  | case3 head rest _ ih =>
      by_cases none : pieces ((head :: rest).drop (brokenLength (head :: rest))) = []
      · rw [none] at last
        exact absurd (by simpa [Piece.shown, eq_comm] using last) whole
      · rw [List.map_cons, List.getLast?_cons_of_ne_nil (mt List.map_eq_nil_iff.mp none)] at last
        obtain ⟨front, ends⟩ := ih last
        refine ⟨(head :: rest).take (brokenLength (head :: rest)) ++ front, ?_⟩
        rw [List.append_assoc, ← ends, List.take_append_drop]

/-! ## The order of texts -/

theorem ofNat_cons_lt {left right : Nat} {first second : Bytes} (leftByte : left < 256)
    (rightByte : right < 256) :
    UInt8.ofNat left :: first < UInt8.ofNat right :: second ↔
      left < right ∨ left = right ∧ first < second := by
  rw [List.cons_lt_cons_iff, UInt8.lt_iff_toNat_lt, ← UInt8.toNat_inj, UInt8.toNat_ofNat',
    UInt8.toNat_ofNat', Nat.mod_eq_of_lt leftByte, Nat.mod_eq_of_lt rightByte]

theorem toNat_lt (character : Char) : character.val.toNat < 0x110000 := by
  rcases character.valid with low | ⟨-, high⟩
  · exact Nat.lt_trans low (by decide)
  · exact high

/-- Numbers of four digits compare digit by digit. -/
theorem lt_of_digits {left right : Nat} (less : left < right) (bound : right < 0x110000) :
    left / 262144 % 8 < right / 262144 % 8 ∨ left / 262144 % 8 = right / 262144 % 8 ∧
      (left / 4096 % 64 < right / 4096 % 64 ∨ left / 4096 % 64 = right / 4096 % 64 ∧
        (left / 64 % 64 < right / 64 % 64 ∨ left / 64 % 64 = right / 64 % 64 ∧
          left % 64 < right % 64)) := by
  have second (value : Nat) : value / 64 / 64 = value / 4096 := Nat.div_div_eq_div_mul ..
  have third (value : Nat) : value / 4096 / 64 = value / 262144 := Nat.div_div_eq_div_mul ..
  have := second left
  have := third left
  have := second right
  have := third right
  rw [Nat.mod_eq_of_lt (by omega : left / 262144 < 8),
    Nat.mod_eq_of_lt (by omega : right / 262144 < 8)]
  omega

/-- Of two characters the earlier one has the lesser bytes, and neither starts with the other. -/
theorem utf8EncodeChar_append_lt {left right : Char} (less : left < right) (front back : Bytes) :
    String.utf8EncodeChar left ++ front < String.utf8EncodeChar right ++ back := by
  have values : left.val.toNat < right.val.toNat := less
  have bound := toNat_lt right
  have digits := lt_of_digits values bound
  unfold String.utf8EncodeChar
  dsimp only
  repeat' split
  all_goals
    simp (disch := omega) only [List.cons_append, List.nil_append, ofNat_cons_lt]
    omega

theorem encodeChars_lt {left right : List Char} (less : left < right) :
    encodeChars left < encodeChars right := by
  induction less with
  | @nil character rest =>
      obtain ⟨first, more, shape⟩ :=
        List.exists_cons_of_ne_nil (String.utf8EncodeChar_ne_nil (c := character))
      rw [encodeChars_nil, encodeChars_cons, shape]
      exact .nil
  | rel less => exact utf8EncodeChar_append_lt less _ _
  | cons _ ih =>
      rw [encodeChars_cons, encodeChars_cons]
      exact List.append_left_lt ih

/-- Texts come in the order of their bytes. -/
theorem encode_lt_encode_iff {left right : String} : encode left < encode right ↔ left < right := by
  refine ⟨fun less => String.not_le.mp fun le => ?_, fun less => encodeChars_lt less⟩
  by_cases after : right < left
  · exact List.lt_asymm less (encodeChars_lt after)
  · rw [String.le_antisymm (String.not_lt.mp after) le] at less
    exact List.lt_irrefl _ less

end Utf8
end CardKeeper

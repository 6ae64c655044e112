/-!
# UTF-8

Names on a card and the contents of files are byte strings, while reports and settings are text.
This file relates the two.  A byte string is cut into pieces, each a character or a broken run of
bytes, where a broken run is the longest start of some character's encoding that goes no further
(or one byte that starts none).  The main statement is `pieces_encode`: the pieces of an encoded
text are its characters, so reading text back loses nothing.
-/

namespace CardKeeper

/-- A byte string, such as an entry's name or a file's content. -/
abbrev Bytes := List UInt8

namespace Utf8

/-- The encoding of a list of characters. -/
def encodeChars (characters : List Char) : Bytes :=
  characters.flatMap String.utf8EncodeChar

/-- The encoding of a text. -/
def encode (text : String) : Bytes :=
  encodeChars text.toList

/-- A stretch of a byte string: one encoded character, or bytes that encode none. -/
inductive Piece where
  /-- A character that was read whole. -/
  | char (character : Char)
  /-- Bytes that begin no character, or begin one and break off. -/
  | broken (bytes : Bytes)
  deriving DecidableEq

/-- The character whose encoding the bytes start with, if there is one. -/
def first? (bytes : Bytes) : Option Char :=
  (bytes.take 4).toByteArray.utf8DecodeChar? 0

/-- Whether `byte` may stand anywhere after the first byte of an encoding. -/
def isContinuation (byte : UInt8) : Bool :=
  0x80 ≤ byte && byte ≤ 0xBF

/-- Whether `second` may follow `lead` in an encoding of three or four bytes. -/
def mayFollow (lead second : UInt8) : Bool :=
  if lead == 0xE0 then 0xA0 ≤ second && second ≤ 0xBF
  else if lead == 0xED then 0x80 ≤ second && second ≤ 0x9F
  else if lead == 0xF0 then 0x90 ≤ second && second ≤ 0xBF
  else if lead == 0xF4 then 0x80 ≤ second && second ≤ 0x8F
  else 0xE1 ≤ lead && lead ≤ 0xF3 && isContinuation second

/-- The length of the broken run that the bytes start with, when they start with no character. -/
def brokenLength : Bytes → Nat
  | lead :: second :: rest =>
      if mayFollow lead second then
        match rest with
        | third :: _ => if 0xF0 ≤ lead && isContinuation third then 3 else 2
        | [] => 2
      else 1
  | _ => 1

theorem brokenLength_pos (bytes : Bytes) : 0 < brokenLength bytes := by
  unfold brokenLength
  repeat' split
  all_goals decide

/-- The pieces of a byte string, in order. -/
def pieces (bytes : Bytes) : List Piece :=
  match bytes with
  | [] => []
  | byte :: rest =>
      match first? (byte :: rest) with
      | some character => .char character :: pieces ((byte :: rest).drop character.utf8Size)
      | none =>
          .broken ((byte :: rest).take (brokenLength (byte :: rest))) ::
            pieces ((byte :: rest).drop (brokenLength (byte :: rest)))
termination_by bytes.length
decreasing_by
  · have := character.utf8Size_pos
    simp only [List.length_drop, List.length_cons]
    omega
  · have := brokenLength_pos (byte :: rest)
    simp only [List.length_drop, List.length_cons]
    omega

/-- The character that stands for a piece in shown text: broken bytes show as U+FFFD. -/
def Piece.shown : Piece → Char
  | .char character => character
  | .broken _ => '\uFFFD'

/-- The character of a piece, unless it is broken. -/
def Piece.char? : Piece → Option Char
  | .char character => some character
  | .broken _ => none

/-- The text that shows a byte string, with one U+FFFD for each broken run. -/
def display (bytes : Bytes) : String :=
  String.ofList ((pieces bytes).map Piece.shown)

/-- The text that a byte string encodes, if it encodes one. -/
def decode? (bytes : Bytes) : Option String :=
  ((pieces bytes).mapM Piece.char?).map String.ofList

theorem first?_encode (character : Char) (rest : Bytes) :
    first? (String.utf8EncodeChar character ++ rest) = some character := by
  have size_le : character.utf8Size ≤ 4 := character.utf8Size_le_four
  have taken : (String.utf8EncodeChar character ++ rest).take 4 =
      String.utf8EncodeChar character ++ rest.take (4 - character.utf8Size) := by
    rw [List.take_append, String.length_utf8EncodeChar, List.take_of_length_le]
    simpa using size_le
  rw [first?, taken, List.toByteArray_append]
  exact ByteArray.utf8DecodeChar?_utf8EncodeChar_append

theorem pieces_encode_append (character : Char) (rest : Bytes) :
    pieces (String.utf8EncodeChar character ++ rest) = .char character :: pieces rest := by
  have first := first?_encode character rest
  have dropped : (String.utf8EncodeChar character ++ rest).drop character.utf8Size = rest := by
    rw [← String.length_utf8EncodeChar character, List.drop_left]
  cases shape : String.utf8EncodeChar character ++ rest with
  | nil =>
      have := String.utf8EncodeChar_ne_nil (c := character)
      simp_all
  | cons byte tail =>
      rw [shape] at first dropped
      rw [pieces, first]
      simp only [dropped]

theorem pieces_encode (characters : List Char) :
    pieces (encodeChars characters) = characters.map .char := by
  induction characters with
  | nil => simp [encodeChars, pieces]
  | cons character rest ih =>
      rw [encodeChars, List.flatMap_cons, pieces_encode_append, List.map_cons, ← ih, encodeChars]

theorem display_encode (text : String) : display (encode text) = text := by
  have shown : Piece.shown ∘ Piece.char = id := rfl
  simp [display, encode, pieces_encode, shown]

end Utf8
end CardKeeper

import CardKeeper.Text.Lowercase
import CardKeeper.Text.PrintData
import CardKeeper.Text.Utf8

/-!
# Quoted arguments

Reports show the arguments of a program as a bracketed list of quoted texts.  Inside the quotes a
double quote and a backslash follow a backslash, the four common control characters have their
letters, every other character that does not print or that extends the grapheme before it is
written by its code point, and a byte that belongs to no character by its value.
-/

namespace CardKeeper
namespace Text

/-- A digit of a number in lower-case hexadecimal. -/
def hexDigit (value : Nat) : Char :=
  Nat.digitChar value

/-- A number in lower-case hexadecimal without leading zeros. -/
def hexText (value : Nat) : List Char :=
  Nat.toDigits 16 value

/-- Whether a character can be shown as it is wherever it stands. -/
def printsAlone (character : Char) : Bool :=
  !inRanges graphemeExtendRanges character && !inRanges unprintableRanges character

/-- A character as it is written between quotes. -/
def quotedChar (character : Char) : List Char :=
  if character = '\x00' then ['\\', '0']
  else if character = '\t' then ['\\', 't']
  else if character = '\r' then ['\\', 'r']
  else if character = '\n' then ['\\', 'n']
  else if character = '\\' then ['\\', '\\']
  else if character = '"' then ['\\', '"']
  else if printsAlone character then [character]
  else ['\\', 'u', '\x7b'] ++ hexText character.toNat ++ ['\x7d']

/-- A byte that belongs to no character, as it is written between quotes. -/
def quotedByte (byte : UInt8) : List Char :=
  ['\\', 'x', (hexDigit (byte.toNat / 16)).toUpper, (hexDigit (byte.toNat % 16)).toUpper]

/-- A piece of a byte string as it is written between quotes. -/
def quotedPiece : Utf8.Piece → List Char
  | .char character => quotedChar character
  | .broken bytes => bytes.flatMap quotedByte

/-- A byte string between quotes. -/
def quoted (bytes : Bytes) : List Char :=
  '"' :: (Utf8.pieces bytes).flatMap quotedPiece ++ ['"']

/-- A list of byte strings, quoted and set off by commas, between brackets. -/
def quotedList (items : List Bytes) : String :=
  String.ofList ('[' :: [',', ' '].intercalate (items.map quoted) ++ [']'])

end Text
end CardKeeper

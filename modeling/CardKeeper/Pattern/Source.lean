import CardKeeper.Text.Blank

/-!
# Places in a written pattern

A pattern is read from the left by a cursor, which knows the characters that are left and the place
of the first of them.  Faults are reported by spans of places.  In a loosely written pattern blanks
and comments are padding between the characters that count.
-/

namespace CardKeeper
namespace Pattern

/-- A place in a text. -/
structure Place where
  /-- The number of the line, from one on. -/
  line : Nat
  /-- The number of the character in the line, from one on. -/
  column : Nat
  deriving DecidableEq

namespace Place

/-- The place of the first character. -/
def start : Place := ⟨1, 1⟩

/-- The place after a character. -/
def after (place : Place) (character : Char) : Place :=
  if character = '\n' then ⟨place.line + 1, 1⟩ else ⟨place.line, place.column + 1⟩

/-- Whether one place comes before another, or is the same. -/
def le (left right : Place) : Bool :=
  left.line < right.line || (left.line = right.line && left.column ≤ right.column)

end Place

/-- A stretch of a text. -/
structure Span where
  /-- Where it starts. -/
  first : Place
  /-- The place after its end. -/
  last : Place
  deriving DecidableEq

/-- Where reading has come to. -/
structure Cursor where
  /-- The place of the next character. -/
  place : Place
  /-- The characters that are left. -/
  rest : List Char
  deriving DecidableEq

namespace Cursor

/-- The cursor before a text. -/
def start (text : List Char) : Cursor := ⟨.start, text⟩

/-- Whether nothing is left. -/
def atEnd (here : Cursor) : Bool := here.rest.isEmpty

/-- The next character. -/
def head? (here : Cursor) : Option Char := here.rest.head?

/-- The cursor after the next character. -/
def next (here : Cursor) : Cursor :=
  match here.rest with
  | [] => here
  | character :: rest => ⟨here.place.after character, rest⟩

/-- The cursor after some characters. -/
def skip (here : Cursor) : Nat → Cursor
  | 0 => here
  | count + 1 => here.next.skip count

/-- The cursor after a text, if that comes next. -/
def after? (here : Cursor) (text : String) : Option Cursor :=
  if text.toList.isPrefixOf here.rest then some (here.skip text.length) else none

/-- The empty span at the cursor. -/
def span (here : Cursor) : Span := ⟨here.place, here.place⟩

/-- The span of the next character. -/
def headSpan (here : Cursor) : Span := ⟨here.place, here.next.place⟩

/-- The span from a place up to the cursor. -/
def spanFrom (here : Cursor) (place : Place) : Span := ⟨place, here.place⟩

/-- The cursor after the padding that characters start with. -/
def afterPadding (inComment : Bool) (place : Place) : List Char → Cursor
  | [] => ⟨place, []⟩
  | character :: rest =>
      if inComment then afterPadding (character ≠ '\n') (place.after character) rest
      else if Text.isBlank character then afterPadding false (place.after character) rest
      else if character = '#' then afterPadding true (place.after character) rest
      else ⟨place, character :: rest⟩

/-- The cursor after padding, if there is padding. -/
def skipPadding (loose : Bool) (here : Cursor) : Cursor :=
  if loose then afterPadding false here.place here.rest else here

/-- The cursor after the next character and padding. -/
def advance (loose : Bool) (here : Cursor) : Cursor :=
  here.next.skipPadding loose

/-- The cursor after blanks. -/
def skipBlanks (here : Cursor) : Cursor :=
  here.skip (here.rest.takeWhile Text.isBlank).length

/-- What follows the next character.  Padding is looked through, and the sign of a comment counts as
padding while the comment itself does not. -/
def second? (loose : Bool) (here : Cursor) : Option Char :=
  let rest := here.rest.tail
  if !loose then rest.head?
  else
    let shown :=
      match rest.dropWhile Text.isBlank with
      | '#' :: comment => comment.dropWhile Text.isBlank
      | more => more
    shown.head?.or rest.head?

/-- The characters that pass a test, with padding after each of them, and the cursor after them.
At most a number of characters is taken. -/
def collectUpTo (loose : Bool) (test : Char → Bool) : Nat → Cursor → List Char × Cursor
  | 0, here => ([], here)
  | count + 1, here =>
      match here.rest with
      | [] => ([], here)
      | character :: _ =>
          if test character then
            let (more, after) := collectUpTo loose test count (here.advance loose)
            (character :: more, after)
          else ([], here)

/-- All characters from here on that pass a test, with padding after each of them, and the cursor
after them. -/
def collect (loose : Bool) (test : Char → Bool) (here : Cursor) : List Char × Cursor :=
  collectUpTo loose test here.rest.length here

end Cursor
end Pattern
end CardKeeper

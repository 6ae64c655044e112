import CardKeeper.Pattern.Charset

/-!
# Patterns

A pattern describes texts.  Whether one occurs in a text is found out with marks on the places of
the text: each part of the pattern carries the marks from where it may start to where it may end.
There is one place more than there are characters, and no part needs to be repeated more often than
there are places.
-/

namespace CardKeeper

namespace Pattern

/-- What a condition asks of the characters around a place as to words. -/
inductive WordCondition where
  /-- Exactly one of them belongs to a word. -/
  | boundary
  /-- Both of them belong to words, or none. -/
  | noBoundary
  /-- Only the one that comes next does. -/
  | start
  /-- Only the one that comes before does. -/
  | ending
  /-- The one that comes before does not. -/
  | noneBefore
  /-- The one that comes next does not. -/
  | noneAfter
  deriving DecidableEq

/-- A condition on a place. -/
inductive Condition where
  /-- The text starts. -/
  | textStart
  /-- The text ends. -/
  | textEnd
  /-- A line starts; a carriage return may end one. -/
  | lineStart (carriageReturn : Bool)
  /-- A line ends; a carriage return may end one. -/
  | lineEnd (carriageReturn : Bool)
  /-- A condition as to words of ASCII characters. -/
  | word (asked : WordCondition)
  /-- A condition as to words of any characters.  It cannot be decided. -/
  | anyWord
  deriving DecidableEq

end Pattern

/-- A description of texts. -/
inductive Pattern where
  /-- The empty text. -/
  | empty
  /-- A text of one character. -/
  | oneOf (set : Pattern.Charset)
  /-- The empty text, at a place with a condition. -/
  | condition (asked : Pattern.Condition)
  /-- A text in two parts. -/
  | sequence (first second : Pattern)
  /-- One of two kinds of text. -/
  | choice (left right : Pattern)
  /-- A text in equal parts, at least so many, and at most so many if there is a limit. -/
  | repeated (least : Nat) (most : Option Nat) (inner : Pattern)
  /-- A group whose text is remembered. -/
  | captured (inner : Pattern)
  deriving DecidableEq

namespace Pattern

/-- Whether a character belongs to a word of ASCII characters. -/
def inWord (character : Option Char) : Bool :=
  character.any fun character => character.isAlphanum || character = '_'

/-- Whether a condition holds between words. -/
def WordCondition.holds (before after : Option Char) : WordCondition → Bool
  | .boundary => inWord before != inWord after
  | .noBoundary => inWord before == inWord after
  | .start => !inWord before && inWord after
  | .ending => inWord before && !inWord after
  | .noneBefore => !inWord before
  | .noneAfter => !inWord after

/-- Whether a condition holds at a place between two characters, or at an end of the text. -/
def Condition.holds (before after : Option Char) : Condition → Bool
  | .textStart => before.isNone
  | .textEnd => after.isNone
  | .lineStart carriageReturn =>
      before.isNone || before = some '\n' ||
        (carriageReturn && before = some '\r' && after ≠ some '\n')
  | .lineEnd carriageReturn =>
      after.isNone || (carriageReturn && after = some '\r') ||
        (after = some '\n' && !(carriageReturn && before = some '\r'))
  | .word asked => asked.holds before after
  | .anyWord => false

/-- Marks on the places of a text. -/
abbrev Marks := List Bool

/-- The characters around each place of a text. -/
def surroundings (before : Option Char) : List Char → List (Option Char × Option Char)
  | [] => [(before, none)]
  | character :: rest => (before, some character) :: surroundings (some character) rest

/-- Marks of one kind or another. -/
def either (left right : Marks) : Marks :=
  List.zipWith or left right

/-- The marks on the left without those on the right. -/
def without (left right : Marks) : Marks :=
  List.zipWith (fun mark other => mark && !other) left right

/-- The marks that have been reached, and those that up to a number of steps reach from the latest of
them.  A place that was reached before leads to nothing new. -/
def spread (step : Marks → Marks) : Nat → Marks → Marks → Marks
  | 0, reached, _ => reached
  | count + 1, reached, latest =>
      let more := without (step latest) reached
      if more.any id then spread step count (either reached more) more else reached

/-- The marks after a number of steps. -/
def stepTimes (step : Marks → Marks) : Nat → Marks → Marks
  | 0, marks => marks
  | count + 1, marks => stepTimes step count (step marks)

/-- Whether a pattern that is repeated without limit may be replaced by what it repeats itself. -/
def isAbsorbed (least : Nat) (most : Option Nat) : Bool :=
  least ≤ 1 && (most = none || most = some 1)

/-- Where texts of a pattern end that start at marked places.  For a pattern that is repeated without
limit it is enough to tell where the steps of its own repetitions end. -/
def ends (text : List Char) : Pattern → Bool → Marks → Marks
  | .empty, _, marks => marks
  | .oneOf set, _, marks =>
      false :: List.zipWith (fun mark character => mark && set.contains character.toNat) marks text
  | .condition asked, _, marks =>
      List.zipWith (fun mark around => mark && asked.holds around.1 around.2) marks
        (surroundings none text)
  | .sequence first second, _, marks => ends text second false (ends text first false marks)
  | .choice left right, looped, marks =>
      either (ends text left looped marks) (ends text right looped marks)
  | .repeated least most inner, looped, marks =>
      if looped && isAbsorbed least most then ends text inner true marks
      else
        let places := text.length + 1
        let enough := stepTimes (ends text inner false) (Nat.min least places) marks
        match most with
        | none => spread (ends text inner true) places enough enough
        | some most =>
            spread (ends text inner false) (Nat.min (most - least) places) enough enough
  | .captured inner, looped, marks => ends text inner looped marks

/-- Whether a pattern describes some stretch of a text. -/
def occursIn (pattern : Pattern) (text : List Char) : Bool :=
  (ends text pattern false (List.replicate (text.length + 1) true)).any id

end Pattern
end CardKeeper

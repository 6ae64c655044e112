import CardKeeper.Pattern.Fault

/-!
# Written patterns

A pattern as it is written: what its parts are and where they stand, before flags are applied to
them.  Parts may be nested only so deeply (`Tree.tooDeep?`).
-/

namespace CardKeeper
namespace Pattern

/-- A condition on a place. -/
inductive Assertion where
  /-- A line starts, or the text if lines do not count. -/
  | lineStart
  /-- A line ends, or the text if lines do not count. -/
  | lineEnd
  /-- The text starts. -/
  | textStart
  /-- The text ends. -/
  | textEnd
  /-- A word starts or ends. -/
  | boundary
  /-- No word starts or ends. -/
  | noBoundary
  /-- A word starts. -/
  | wordStart
  /-- A word ends. -/
  | wordEnd
  /-- No word character comes before. -/
  | noWordBefore
  /-- No word character comes next. -/
  | noWordAfter
  deriving DecidableEq

/-- A class with a letter of its own. -/
inductive Shorthand where
  /-- Digits. -/
  | digit
  /-- Blanks. -/
  | space
  /-- What words are made of. -/
  | word
  deriving DecidableEq

/-- The name of a class of ASCII characters. -/
inductive NamedClass where
  /-- Letters and digits. -/
  | alnum
  /-- Letters. -/
  | alpha
  /-- All of them. -/
  | ascii
  /-- The space and the tab. -/
  | blank
  /-- Control characters. -/
  | cntrl
  /-- Digits. -/
  | digit
  /-- Characters with a glyph. -/
  | graph
  /-- Small letters. -/
  | lower
  /-- Characters with a glyph, and the space. -/
  | print
  /-- Punctuation. -/
  | punct
  /-- Blanks. -/
  | space
  /-- Capital letters. -/
  | upper
  /-- Letters, digits and the underscore. -/
  | word
  /-- Hexadecimal digits. -/
  | xdigit
  deriving DecidableEq

/-- The class with a name. -/
def NamedClass.ofName? (name : List Char) : Option NamedClass :=
  let classes : List (String × NamedClass) :=
    [("alnum", .alnum), ("alpha", .alpha), ("ascii", .ascii), ("blank", .blank),
      ("cntrl", .cntrl), ("digit", .digit), ("graph", .graph), ("lower", .lower),
      ("print", .print), ("punct", .punct), ("space", .space), ("upper", .upper),
      ("word", .word), ("xdigit", .xdigit)]
  (classes.find? fun entry => entry.1.toList == name).map (·.2)

/-- A way of reading the parts of a pattern that can be switched on and off. -/
inductive Flag where
  /-- Case is ignored. -/
  | ignoreCase
  /-- Lines start and end within the text. -/
  | multiLine
  /-- The dot stands for every character. -/
  | dotAll
  /-- Repetitions prefer few. -/
  | swapGreed
  /-- Characters count, and not bytes. -/
  | unicode
  /-- A line may end in a carriage return. -/
  | carriageReturn
  /-- The pattern is loosely written. -/
  | loose
  deriving DecidableEq

/-- The flag with a letter. -/
def Flag.ofLetter? (letter : Char) : Option Flag :=
  let flags : List (Char × Flag) :=
    [('i', .ignoreCase), ('m', .multiLine), ('s', .dotAll), ('U', .swapGreed), ('u', .unicode),
      ('R', .carriageReturn), ('x', .loose)]
  (flags.find? fun entry => entry.1 == letter).map (·.2)

/-- Flags with what they become. -/
abbrev FlagChanges := List (Flag × Bool)

/-- A flag after changes. -/
def FlagChanges.apply (changes : FlagChanges) (flag : Flag) (before : Bool) : Bool :=
  ((changes.find? fun change => change.1 == flag).map (·.2)).getD before

/-- A character of a pattern that stands for itself. -/
structure Literal where
  /-- Where it is written. -/
  span : Span
  /-- The character. -/
  character : Char
  /-- Whether it is written as a byte in hexadecimal. -/
  asByte : Bool

/-- How two classes are combined. -/
inductive Operation where
  /-- What belongs to both. -/
  | intersection
  /-- What belongs to the first and not to the second. -/
  | difference
  /-- What belongs to one of them only. -/
  | symmetricDifference
  deriving DecidableEq

/-- What is written in a class. -/
inductive ClassTree where
  /-- Nothing. -/
  | nothing (span : Span)
  /-- A character. -/
  | literal (literal : Literal)
  /-- All characters from one to another. -/
  | range (span : Span) (first last : Literal)
  /-- A class with a name. -/
  | named (span : Span) (negated : Bool) (name : NamedClass)
  /-- A class with a letter. -/
  | shorthand (span : Span) (negated : Bool) (shorthand : Shorthand)
  /-- A property of characters, with its name if no value is asked for. -/
  | property (span : Span) (name : Option (List Char))
  /-- A class within the class. -/
  | bracketed (span : Span) (negated : Bool) (inner : ClassTree)
  /-- Several of these. -/
  | union (span : Span) (items : List ClassTree)
  /-- Two of these, combined. -/
  | combined (span : Span) (operation : Operation) (left right : ClassTree)

/-- Where something is written in a class. -/
def ClassTree.span : ClassTree → Span
  | .literal written => written.span
  | .nothing span | .range span _ _ | .named span _ _ | .shorthand span _ _ | .property span _
  | .bracketed span _ _ | .union span _ | .combined span _ _ _ => span

/-- A part of a pattern. -/
inductive Tree where
  /-- Nothing. -/
  | empty (span : Span)
  /-- Flags for what follows. -/
  | flags (span : Span) (changes : FlagChanges)
  /-- A character. -/
  | literal (literal : Literal)
  /-- A dot. -/
  | dot (span : Span)
  /-- A condition. -/
  | assertion (span : Span) (assertion : Assertion)
  /-- A class with a letter. -/
  | shorthand (span : Span) (negated : Bool) (shorthand : Shorthand)
  /-- A property of characters, with its name if no value is asked for. -/
  | property (span : Span) (name : Option (List Char))
  /-- A class between brackets. -/
  | bracketed (span : Span) (negated : Bool) (inner : ClassTree)
  /-- A repetition, without an upper limit if none is given. -/
  | repeated (span : Span) (least : Nat) (most : Option Nat) (inner : Tree)
  /-- A group, with flags of its own. -/
  | group (span : Span) (changes : FlagChanges) (captures : Bool) (inner : Tree)
  /-- Parts one after the other. -/
  | sequence (span : Span) (items : List Tree)
  /-- Parts of which one is chosen. -/
  | choice (span : Span) (branches : List Tree)

/-- Where a part is written. -/
def Tree.span : Tree → Span
  | .literal written => written.span
  | .empty span | .flags span _ | .dot span | .assertion span _ | .shorthand span _ _
  | .property span _ | .bracketed span _ _ | .repeated span _ _ _ | .group span _ _ _
  | .sequence span _ | .choice span _ => span

/-- Parts one after the other, given last first. -/
def Tree.ofItems (span : Span) : List Tree → Tree
  | [] => .empty span
  | [item] => item
  | items => .sequence span items.reverse

mutual

/-- The first thing in a class that is nested more deeply than a number of levels. -/
def ClassTree.tooDeep? (levels : Nat) : ClassTree → Option Span
  | .bracketed span _ inner =>
      match levels with
      | 0 => some span
      | levels + 1 => inner.tooDeep? levels
  | .union span items =>
      match levels with
      | 0 => some span
      | levels + 1 => ClassTree.anyTooDeep? levels items
  | .combined span _ left right =>
      match levels with
      | 0 => some span
      | levels + 1 => (left.tooDeep? levels).or (right.tooDeep? levels)
  | _ => none

/-- The first thing in parts of a class that is nested more deeply than a number of levels. -/
def ClassTree.anyTooDeep? (levels : Nat) : List ClassTree → Option Span
  | [] => none
  | item :: rest => (item.tooDeep? levels).or (ClassTree.anyTooDeep? levels rest)

end

mutual

/-- The first part that is nested more deeply than a number of levels. -/
def Tree.tooDeep? (levels : Nat) : Tree → Option Span
  | .bracketed span _ inner =>
      match levels with
      | 0 => some span
      | levels + 1 => inner.tooDeep? levels
  | .repeated span _ _ inner | .group span _ _ inner =>
      match levels with
      | 0 => some span
      | levels + 1 => inner.tooDeep? levels
  | .sequence span items | .choice span items =>
      match levels with
      | 0 => some span
      | levels + 1 => Tree.anyTooDeep? levels items
  | _ => none

/-- The first of some parts that is nested more deeply than a number of levels, or holds one that
is. -/
def Tree.anyTooDeep? (levels : Nat) : List Tree → Option Span
  | [] => none
  | item :: rest => (item.tooDeep? levels).or (Tree.anyTooDeep? levels rest)

end

end Pattern
end CardKeeper

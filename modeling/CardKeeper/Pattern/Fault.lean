import CardKeeper.Pattern.Source

/-!
# Faults of a written pattern

What can be wrong with a pattern as it is written, where it is wrong, and how that is reported: with
the lines of the pattern, and carets under the spans that matter.
-/

namespace CardKeeper
namespace Pattern

/-- What is wrong with a pattern. -/
inductive Problem where
  /-- An escape sequence stands for no character of a class. -/
  | classEscape
  /-- A range of a class ends before it starts. -/
  | classRange
  /-- A range of a class starts or ends in something other than a character. -/
  | classBoundary
  /-- A class is not closed. -/
  | classUnclosed
  /-- A number is too large. -/
  | decimal
  /-- A code point has no digits. -/
  | hexEmpty
  /-- A code point is that of no character. -/
  | hexValue
  /-- A code point has a digit that is none. -/
  | hexDigit
  /-- The pattern ends within an escape sequence. -/
  | escapeEnd
  /-- An escape sequence has no meaning. -/
  | escapeUnknown
  /-- Nothing follows the negation of flags. -/
  | flagDangling
  /-- A flag is written twice. -/
  | flagRepeated
  /-- Flags are negated twice. -/
  | negationRepeated
  /-- The pattern ends within flags. -/
  | flagEnd
  /-- A flag has no meaning. -/
  | flagUnknown
  /-- Two groups have the same name. -/
  | nameRepeated
  /-- The name of a group is empty. -/
  | nameEmpty
  /-- The name of a group holds a character that it may not. -/
  | nameCharacter
  /-- The pattern ends within the name of a group. -/
  | nameEnd
  /-- Groups and the like are nested too deeply. -/
  | tooDeep
  /-- A group is not closed. -/
  | groupUnclosed
  /-- A group is closed that was not opened. -/
  | groupUnopened
  /-- The greatest number of repetitions is less than the least one. -/
  | countOrder
  /-- A number of repetitions is missing. -/
  | countEmpty
  /-- The numbers of repetitions do not end. -/
  | countUnclosed
  /-- Nothing precedes a repetition. -/
  | nothingToRepeat
  /-- The name of a word boundary does not end. -/
  | boundaryUnclosed
  /-- The name of a word boundary has no meaning. -/
  | boundaryUnknown
  /-- The pattern ends after the brace behind a word boundary. -/
  | boundaryEnd
  /-- A property of characters has no name. -/
  | propertyName
  /-- A group is referred to. -/
  | backreference
  /-- A group looks around. -/
  | lookAround
  /-- Something that needs Unicode stands where only bytes do. -/
  | unicodeNotAllowed
  /-- Something other than text could be matched. -/
  | notText
  /-- A property of characters is not known. -/
  | propertyUnknown
  /-- A value of a property of characters is not known. -/
  | propertyValueUnknown
  /-- A class with a letter of its own is known for bytes only. -/
  | shorthandUnknown
  /-- Case can be ignored for bytes only. -/
  | caseUnknown
  deriving DecidableEq

/-- How deeply groups and the like may be nested. -/
def depthLimit : Nat := 250

/-- The words for a problem. -/
def Problem.message : Problem → String
  | .classEscape => "invalid escape sequence found in character class"
  | .classRange => "invalid character class range, the start must be <= the end"
  | .classBoundary => "invalid range boundary, must be a literal"
  | .classUnclosed => "unclosed character class"
  | .decimal => "decimal literal invalid"
  | .hexEmpty => "hexadecimal literal empty"
  | .hexValue => "hexadecimal literal is not a Unicode scalar value"
  | .hexDigit => "invalid hexadecimal digit"
  | .escapeEnd => "incomplete escape sequence, reached end of pattern prematurely"
  | .escapeUnknown => "unrecognized escape sequence"
  | .flagDangling => "dangling flag negation operator"
  | .flagRepeated => "duplicate flag"
  | .negationRepeated => "flag negation operator repeated"
  | .flagEnd => "expected flag but got end of regex"
  | .flagUnknown => "unrecognized flag"
  | .nameRepeated => "duplicate capture group name"
  | .nameEmpty => "empty capture group name"
  | .nameCharacter => "invalid capture group character"
  | .nameEnd => "unclosed capture group name"
  | .tooDeep =>
      "exceed the maximum number of nested parentheses/brackets (" ++ toString depthLimit ++ ")"
  | .groupUnclosed => "unclosed group"
  | .groupUnopened => "unopened group"
  | .countOrder => "invalid repetition count range, the start must be <= the end"
  | .countEmpty => "repetition quantifier expects a valid decimal"
  | .countUnclosed => "unclosed counted repetition"
  | .nothingToRepeat => "repetition operator missing expression"
  | .boundaryUnclosed =>
      "special word boundary assertion is either unclosed or contains an invalid character"
  | .boundaryUnknown =>
      "unrecognized special word boundary assertion, valid choices are: start, end, " ++
        "start-half or end-half"
  | .boundaryEnd =>
      "found either the beginning of a special word boundary or a bounded repetition on a \\b " ++
        "with an opening brace, but no closing brace"
  | .propertyName => "invalid Unicode character class"
  | .backreference => "backreferences are not supported"
  | .lookAround => "look-around, including look-ahead and look-behind, is not supported"
  | .unicodeNotAllowed => "Unicode not allowed here"
  | .notText => "pattern can match invalid UTF-8"
  | .propertyUnknown => "Unicode property not found"
  | .propertyValueUnknown => "Unicode property value not found"
  | .shorthandUnknown =>
      "Unicode-aware Perl class not found (make sure the unicode-perl feature is enabled)"
  | .caseUnknown =>
      "Unicode-aware case insensitivity matching is not available " ++
        "(make sure the unicode-case feature is enabled)"

/-- What is wrong with a pattern, and where. -/
structure Fault where
  /-- What is wrong. -/
  problem : Problem
  /-- Where it is noticed. -/
  span : Span
  /-- The other place that matters, if there is one. -/
  other : Option Span
  deriving DecidableEq

/-- Reading fails on account of a span. -/
def fail {α : Type} (problem : Problem) (span : Span) : Except Fault α :=
  .error ⟨problem, span, none⟩

/-- Reading fails on account of two spans. -/
def failBoth {α : Type} (problem : Problem) (span other : Span) : Except Fault α :=
  .error ⟨problem, span, some other⟩

/-- The lines of a text without their ends.  A carriage return is part of the end of a line that has
an end. -/
def linesOf (text : List Char) : List (List Char) :=
  let cut (line : List Char) : List Char :=
    if line.getLast? = some '\r' then line.dropLast else line
  let pieces := text.splitOn '\n'
  let last := pieces.getLastD []
  pieces.dropLast.map cut ++ if last.isEmpty then [] else [last]

namespace Fault

/-- The spans of a fault, in order. -/
def spans (fault : Fault) : List Span :=
  match fault.other with
  | none => [fault.span]
  | some other =>
      if fault.span.first.le other.first then [fault.span, other] else [other, fault.span]

/-- Carets under spans of one line, from a column on. -/
def caretsFrom (column : Nat) : List Span → List Char
  | [] => []
  | span :: rest =>
      let gap := span.first.column - column
      let width := Nat.max 1 (span.last.column - span.first.column)
      List.replicate gap ' ' ++ List.replicate width '^' ++ caretsFrom (column + gap + width) rest

/-- The lines of a pattern, each with what comes before it and with the carets under it. -/
def notedLines (fault : Fault) (pattern : List Char) : List Char :=
  let lines := linesOf pattern
  let count := lines.length + if pattern.getLast? = some '\n' then 1 else 0
  let width := if count ≤ 1 then 0 else (Nat.repr count).length
  let label (number : Nat) : List Char :=
    if width = 0 then List.replicate 4 ' '
    else
      let digits := (Nat.repr number).toList
      List.replicate (width - digits.length) ' ' ++ digits ++ [':', ' ']
  let padding := List.replicate (if width = 0 then 4 else width + 2) ' '
  (lines.zipIdx 1).flatMap fun (line, number) =>
    let noted := fault.spans.filter fun span =>
      span.first.line = span.last.line && span.first.line = number
    label number ++ line ++ ['\n'] ++
      if noted.isEmpty then [] else padding ++ caretsFrom 1 noted ++ ['\n']

/-- Where a span of several lines starts and ends. -/
def extent (span : Span) : String :=
  "on line " ++ toString span.first.line ++ " (column " ++ toString span.first.column ++
    ") through line " ++ toString span.last.line ++ " (column " ++
    toString (span.last.column - 1) ++ ")"

/-- The report of a fault of a pattern. -/
def report (fault : Fault) (pattern : List Char) : String :=
  let noted := String.ofList (fault.notedLines pattern)
  let message := "error: " ++ fault.problem.message
  let body :=
    if pattern.contains '\n' then
      let divider := String.ofList (List.replicate 79 '~') ++ "\n"
      let long := fault.spans.filter fun span => span.first.line != span.last.line
      let extents := if long.isEmpty then "" else "\n".intercalate (long.map extent) ++ "\n"
      divider ++ noted ++ divider ++ extents
    else noted
  "regex parse error:\n" ++ body ++ message

end Fault
end Pattern
end CardKeeper

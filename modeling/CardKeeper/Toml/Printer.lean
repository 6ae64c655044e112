import CardKeeper.Toml.Lexeme

/-!
# Writing strings and keys of TOML

A string is written in the plainest of four ways in which it can be written at all: on one line
with quotes or with apostrophes, where the latter need no escapes, or over several lines with
either.  When none of them takes the string as it is, its special characters are escaped.
-/

namespace CardKeeper
namespace Toml

/-- A way to write a string. -/
inductive Style where
  /-- On one line, with escapes. -/
  | basic
  /-- On one line, as it is. -/
  | literal
  /-- Over several lines, with escapes. -/
  | basicBlock
  /-- Over several lines, as it is. -/
  | literalBlock
  deriving DecidableEq

/-- The length of the longest stretch of a character, given the length of the stretch that has just
been passed. -/
def longestRun (wanted : Char) (run : Nat) : List Char → Nat
  | [] => run
  | character :: rest =>
      if character = wanted then longestRun wanted (run + 1) rest
      else max run (longestRun wanted 0 rest)

/-- Whether a character can only be written with an escape.  The tab and the line feed can be
written as they are. -/
def needsEscape (character : Char) : Bool :=
  (character < ' ' && character != '\t' && character != '\n') || character == '\x7F'

/-- The way in which a string is written. -/
def style (content : List Char) : Style :=
  let special := content.any needsEscape
  let slashes := content.contains backslash
  let lines := content.contains '\n'
  let quotes := longestRun quote 0 content
  let apostrophes := longestRun apostrophe 0 content
  if !special && !slashes && quotes = 0 && !lines then .basic
  else if !special && apostrophes = 0 && !lines then .literal
  else if !special && !slashes && quotes ≤ 2 then .basicBlock
  else if !special && apostrophes ≤ 2 then .literalBlock
  else if lines then .basicBlock
  else .basic

/-- A character other than a quote in a string with escapes. -/
def escapedCharacter (block : Bool) (character : Char) : List Char :=
  if character = '\x08' then [backslash, 'b']
  else if character = '\t' then [backslash, 't']
  else if character = '\n' then if block then ['\n'] else [backslash, 'n']
  else if character = '\x0C' then [backslash, 'f']
  else if character = '\r' then [backslash, 'r']
  else if character = backslash then [backslash, backslash]
  else if character < ' ' ∨ character = '\x7F' then
    [backslash, 'u', '0', '0', (Nat.digitChar (character.toNat / 16)).toUpper,
      (Nat.digitChar (character.toNat % 16)).toUpper]
  else [character]

/-- The content of a string with escapes, given how many quotes have just been written.  On one line
every quote is escaped, over several lines each third one. -/
def escapedContent (block : Bool) (quotes : Nat) : List Char → List Char
  | [] => []
  | character :: rest =>
      if character = quote then
        if quotes < (if block then 2 else 0) then quote :: escapedContent block (quotes + 1) rest
        else backslash :: quote :: escapedContent block 0 rest
      else escapedCharacter block character ++ escapedContent block 0 rest

/-- A string written in a way.  Content that has several lines starts on a line of its own. -/
def Style.write (style : Style) (content : List Char) : List Char :=
  let lead := if content.contains '\n' then ['\n'] else []
  match style with
  | .basic => quote :: escapedContent false 0 content ++ [quote]
  | .literal => apostrophe :: content ++ [apostrophe]
  | .basicBlock =>
      [quote, quote, quote] ++ lead ++ escapedContent true 0 content ++ [quote, quote, quote]
  | .literalBlock =>
      [apostrophe, apostrophe, apostrophe] ++ lead ++ content ++
        [apostrophe, apostrophe, apostrophe]

/-- A string. -/
def writeText (text : String) : List Char :=
  (style text.toList).write text.toList

/-- A key: as it is if it may stand without quotes, else as a string on one line. -/
def writeKey (key : String) : List Char :=
  let content := key.toList
  let special := content.any fun character => needsEscape character || character == '\n'
  if !content.isEmpty && content.all isBare then content
  else if !special && !content.contains backslash && !content.contains quote then
    Style.basic.write content
  else if !special && !content.contains apostrophe then Style.literal.write content
  else Style.basic.write content

/-- A list of strings: on one line if there are fewer than two, else each on a line of its own. -/
def writeTexts (texts : List String) : List Char :=
  match texts with
  | [] => ['[', ']']
  | [text] => '[' :: writeText text ++ [']']
  | texts =>
      ['[', '\n'] ++
        texts.flatMap (fun text => [' ', ' ', ' ', ' '] ++ writeText text ++ [',', '\n']) ++ [']']

/-- A line with a key and what is written after the equals sign. -/
def writeMember (key : String) (written : List Char) : List Char :=
  writeKey key ++ [' ', '=', ' '] ++ written ++ ['\n']

/-- The header of a table. -/
def writeHeader (path : List String) : List Char :=
  ['['] ++ ['.'].intercalate (path.map writeKey) ++ [']', '\n']

end Toml
end CardKeeper

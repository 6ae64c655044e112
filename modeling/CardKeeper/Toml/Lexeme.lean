/-!
# Characters, strings and keys of TOML

The functions here take what is left of a document and give what they have read with what is left
then, which is never longer.  `none` means that the document is not TOML.
-/

namespace CardKeeper
namespace Toml

/-- The character around basic strings. -/
abbrev quote : Char := '"'

/-- The character around literal strings. -/
abbrev apostrophe : Char := '\x27'

/-- The character that starts an escape. -/
abbrev backslash : Char := '\\'

/-- Whether a character is a blank within a line. -/
def isBlank (character : Char) : Bool :=
  character == ' ' || character == '\t'

/-- Whether a character may stand as itself in a comment or a string.  Control characters other
than the tab may not. -/
def isPlain (character : Char) : Bool :=
  character == '\t' || (' ' ≤ character && character != '\x7F')

/-- What follows the blanks at the start. -/
def skipBlanks (characters : List Char) : List Char :=
  characters.dropWhile isBlank

/-- What follows the end of a line. -/
def newline? : List Char → Option (List Char)
  | '\n' :: rest => some rest
  | '\r' :: '\n' :: rest => some rest
  | _ => none

/-- What follows the rest of a line: blanks, a comment, and the end of the line or the document. -/
def lineEnd? (characters : List Char) : Option (List Char) :=
  let rest :=
    match skipBlanks characters with
    | '#' :: comment => comment.dropWhile isPlain
    | rest => rest
  if rest.isEmpty then some [] else newline? rest

/-- What follows blanks, comments and ends of lines, given whether a comment has begun. -/
def skipLines? (inComment : Bool) : List Char → Option (List Char)
  | [] => some []
  | '\r' :: '\n' :: rest => skipLines? false rest
  | character :: rest =>
      if character = '\n' then skipLines? false rest
      else if inComment then if isPlain character then skipLines? true rest else none
      else if isBlank character then skipLines? false rest
      else if character = '#' then skipLines? true rest
      else some (character :: rest)

/-- The value of a hexadecimal digit. -/
def hexValue? (character : Char) : Option Nat :=
  if '0' ≤ character ∧ character ≤ '9' then some (character.toNat - 0x30)
  else if 'a' ≤ character ∧ character ≤ 'f' then some (character.toNat - 0x61 + 10)
  else if 'A' ≤ character ∧ character ≤ 'F' then some (character.toNat - 0x41 + 10)
  else none

/-- The number that a count of hexadecimal digits spells, after a number read before. -/
def hexNumber? (value : Nat) : Nat → List Char → Option (Nat × List Char)
  | 0, rest => some (value, rest)
  | _ + 1, [] => none
  | count + 1, character :: rest =>
      (hexValue? character).bind fun digit => hexNumber? (value * 16 + digit) count rest

/-- The character with a code point, if there is one. -/
def scalar? (code : Nat) : Option Char :=
  if code.isValidChar then some (Char.ofNat code) else none

/-- The character that an escape of a number of digits stands for. -/
def numericEscape? (count : Nat) (characters : List Char) : Option (Char × List Char) :=
  (hexNumber? 0 count characters).bind fun (code, rest) =>
    (scalar? code).map fun character => (character, rest)

/-- The character that an escape of one letter stands for. -/
def shortEscape? (letter : Char) : Option Char :=
  if letter = 'b' then some '\x08'
  else if letter = 't' then some '\t'
  else if letter = 'n' then some '\n'
  else if letter = 'f' then some '\x0C'
  else if letter = 'r' then some '\r'
  else if letter = quote then some quote
  else if letter = backslash then some backslash
  else none

/-- The character that an escape stands for, given what follows the backslash. -/
def escape? : List Char → Option (Char × List Char)
  | [] => none
  | letter :: rest =>
      if letter = 'u' then numericEscape? 4 rest
      else if letter = 'U' then numericEscape? 8 rest
      else (shortEscape? letter).map fun character => (character, rest)

theorem length_hexNumber? {value result count : Nat} {characters rest : List Char}
    (read : hexNumber? value count characters = some (result, rest)) :
    rest.length ≤ characters.length := by
  induction count generalizing value characters with
  | zero =>
      simp only [hexNumber?, Option.some.injEq, Prod.mk.injEq] at read
      simp [read.2]
  | succ count ih =>
      cases characters with
      | nil => simp [hexNumber?] at read
      | cons character tail =>
          simp only [hexNumber?, Option.bind_eq_some_iff] at read
          obtain ⟨digit, -, more⟩ := read
          exact Nat.le_succ_of_le (ih more)

theorem length_escape? {characters rest : List Char} {character : Char}
    (read : escape? characters = some (character, rest)) : rest.length < characters.length := by
  have numeric : ∀ {count : Nat} {tail : List Char},
      numericEscape? count tail = some (character, rest) → rest.length ≤ tail.length := by
    intro count tail found
    simp only [numericEscape?, Option.bind_eq_some_iff, Option.map_eq_some_iff] at found
    obtain ⟨⟨code, after⟩, spelled, scalar, -, equal⟩ := found
    cases equal
    exact length_hexNumber? spelled
  cases characters with
  | nil => simp [escape?] at read
  | cons letter tail =>
      simp only [escape?] at read
      split at read
      · exact Nat.lt_succ_of_le (numeric read)
      split at read
      · exact Nat.lt_succ_of_le (numeric read)
      · simp only [Option.map_eq_some_iff] at read
        obtain ⟨scalar, -, equal⟩ := read
        cases equal
        simp

/-- The content of a basic string on one line, given what follows its opening quote. -/
def basicText? (characters : List Char) : Option (List Char × List Char) :=
  match characters with
  | [] => none
  | character :: rest =>
      if character = quote then some ([], rest)
      else if character = backslash then
        match _ : escape? rest with
        | none => none
        | some (escaped, after) =>
            (basicText? after).map fun (content, rest) => (escaped :: content, rest)
      else if isPlain character then
        (basicText? rest).map fun (content, rest) => (character :: content, rest)
      else none
termination_by characters.length
decreasing_by
  · have := length_escape? ‹_›
    simp only [List.length_cons]
    omega
  · simp

/-- The content of a literal string on one line, given what follows its opening apostrophe. -/
def literalText? : List Char → Option (List Char × List Char)
  | [] => none
  | character :: rest =>
      if character = apostrophe then some ([], rest)
      else if isPlain character then
        (literalText? rest).map fun (content, rest) => (character :: content, rest)
      else none

/-- The last characters of a string over several lines: up to two delimiters more than the three
that close it. -/
def closing (delimiter : Char) (rest : List Char) : List Char × List Char :=
  let extra := (rest.takeWhile (· == delimiter)).take 2
  (extra, rest.drop extra.length)

/-- What follows blanks and ends of lines. -/
def skipFold : List Char → List Char
  | [] => []
  | '\r' :: '\n' :: rest => skipFold rest
  | character :: rest =>
      if character = '\n' || isBlank character then skipFold rest else character :: rest

/-- What follows the end of a line that a backslash folds, with the blanks and line ends after it,
if nothing but blanks stands between the two. -/
def lineFold? (characters : List Char) : Option (List Char) :=
  (newline? (skipBlanks characters)).map skipFold

theorem length_skipFold_le (characters : List Char) :
    (skipFold characters).length ≤ characters.length := by
  fun_induction skipFold characters with
  | case1 => exact Nat.le_refl _
  | case2 rest ih => exact Nat.le_succ_of_le (Nat.le_succ_of_le ih)
  | case3 character rest _ _ ih => exact Nat.le_succ_of_le ih
  | case4 => exact Nat.le_refl _

theorem length_newline? {characters rest : List Char} (read : newline? characters = some rest) :
    rest.length < characters.length := by
  unfold newline? at read
  split at read
  · cases read
    simp
  · cases read
    simp only [List.length_cons]
    omega
  · cases read

theorem length_lineFold? {characters rest : List Char} (read : lineFold? characters = some rest) :
    rest.length < characters.length := by
  simp only [lineFold?, Option.map_eq_some_iff] at read
  obtain ⟨after, ended, rfl⟩ := read
  have := length_newline? ended
  have := length_skipFold_le after
  have : (skipBlanks characters).length ≤ characters.length :=
    (List.dropWhile_suffix isBlank).length_le
  omega

/-- Whether characters start with two more of a delimiter. -/
def closes (delimiter : Char) (rest : List Char) : Bool :=
  rest.take 2 == [delimiter, delimiter]

/-- The content of a basic string over several lines, given what follows its opening quotes. -/
def basicBlock? (characters : List Char) : Option (List Char × List Char) :=
  match characters with
  | [] => none
  | character :: rest =>
      if character = quote && closes quote rest then some (closing quote (rest.drop 2))
      else if character = backslash then
        match _ : lineFold? rest with
        | some after => basicBlock? after
        | none =>
            match _ : escape? rest with
            | none => none
            | some (escaped, after) =>
                (basicBlock? after).map fun (content, rest) => (escaped :: content, rest)
      else if isPlain character then
        (basicBlock? rest).map fun (content, rest) => (character :: content, rest)
      else
        match _ : newline? (character :: rest) with
        | none => none
        | some after => (basicBlock? after).map fun (content, rest) => ('\n' :: content, rest)
termination_by characters.length
decreasing_by
  · have := length_lineFold? ‹_›
    simp only [List.length_cons]
    omega
  · have := length_escape? ‹_›
    simp only [List.length_cons]
    omega
  · simp
  · exact length_newline? ‹_›

/-- The content of a literal string over several lines, given what follows its opening
apostrophes. -/
def literalBlock? (characters : List Char) : Option (List Char × List Char) :=
  match characters with
  | [] => none
  | character :: rest =>
      if character = apostrophe && closes apostrophe rest then
        some (closing apostrophe (rest.drop 2))
      else if isPlain character then
        (literalBlock? rest).map fun (content, rest) => (character :: content, rest)
      else
        match _ : newline? (character :: rest) with
        | none => none
        | some after => (literalBlock? after).map fun (content, rest) => ('\n' :: content, rest)
termination_by characters.length
decreasing_by
  · simp
  · exact length_newline? ‹_›

/-- What follows the end of a line that stands at the very start of a string over several lines,
which does not belong to its content. -/
def skipFirstLineEnd (characters : List Char) : List Char :=
  (newline? characters).getD characters

/-- The content of a string of any kind that starts here. -/
def anyText? (characters : List Char) : Option (List Char × List Char) :=
  match characters with
  | [] => none
  | first :: rest =>
      if first = quote then
        if closes quote rest then basicBlock? (skipFirstLineEnd (rest.drop 2))
        else basicText? rest
      else if first = apostrophe then
        if closes apostrophe rest then literalBlock? (skipFirstLineEnd (rest.drop 2))
        else literalText? rest
      else none

/-- Whether a character may stand in a key without quotes. -/
def isBare (character : Char) : Bool :=
  character.isAlphanum || character == '_' || character == '-'

/-- One key that starts here. -/
def simpleKey? (characters : List Char) : Option (List Char × List Char) :=
  match characters with
  | [] => none
  | first :: rest =>
      if first = quote then basicText? rest
      else if first = apostrophe then literalText? rest
      else if isBare first then
        some ((first :: rest).takeWhile isBare, (first :: rest).dropWhile isBare)
      else none

/-- Keys with dots between them, with blanks around each, of at most the given number. -/
def dottedKey? : Nat → List Char → Option (List String × List Char)
  | 0, _ => none
  | limit + 1, characters =>
      (simpleKey? (skipBlanks characters)).bind fun (key, rest) =>
        match skipBlanks rest with
        | '.' :: rest =>
            (dottedKey? limit rest).map fun (keys, rest) => (String.ofList key :: keys, rest)
        | rest => some ([String.ofList key], rest)

/-- The number of keys and of open brackets that a document must stay below. -/
def depthLimit : Nat := 80

/-- The key of a member or the name of a table. -/
def key? (characters : List Char) : Option (List String × List Char) :=
  dottedKey? (depthLimit - 1) characters

end Toml
end CardKeeper

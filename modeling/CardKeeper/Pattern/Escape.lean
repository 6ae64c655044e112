import CardKeeper.Pattern.Tree

/-!
# Escape sequences

What a backslash starts: a character that would mean something else without it, a control
character, a code point in hexadecimal, a class with a letter, a property of characters, or a
condition on a place.
-/

namespace CardKeeper
namespace Pattern

/-- Whether a character is a digit of a hexadecimal number. -/
def isHexDigit (character : Char) : Bool :=
  ('0' ≤ character && character ≤ '9') || ('a' ≤ character && character ≤ 'f') ||
    ('A' ≤ character && character ≤ 'F')

/-- The number that hexadecimal digits spell. -/
def ofHexDigits (digits : List Char) : Nat :=
  digits.foldl
    (fun value digit =>
      value * 16 +
        if digit ≤ '9' then digit.toNat - 0x30 else digit.toLower.toNat - 0x57)
    0

/-- The character with a code point, if there is one. -/
def charOfCode? (code : Nat) : Option Char :=
  if _ : code.isValidChar then some (Char.ofNatAux code ‹_›) else none

/-- Whether a character stands for itself after a backslash: an ASCII character that is neither a
letter nor a digit, and starts no condition. -/
def isEscapable (character : Char) : Bool :=
  character.toNat ≤ 0x7F && !character.isAlphanum && character ≠ '<' && character ≠ '>'

/-- The control character with a letter. -/
def control? (letter : Char) : Option Char :=
  match letter with
  | 'a' => some '\x07'
  | 'f' => some '\x0c'
  | 't' => some '\t'
  | 'n' => some '\n'
  | 'r' => some '\r'
  | 'v' => some '\x0b'
  | _ => none

/-- The condition with a letter. -/
def condition? (letter : Char) : Option Assertion :=
  match letter with
  | 'A' => some .textStart
  | 'z' => some .textEnd
  | 'b' => some .boundary
  | 'B' => some .noBoundary
  | '<' => some .wordStart
  | '>' => some .wordEnd
  | _ => none

/-- The class with a letter, and whether it is meant or its complement. -/
def shorthand? (letter : Char) : Option (Bool × Shorthand) :=
  match letter with
  | 'd' => some (false, .digit)
  | 'D' => some (true, .digit)
  | 's' => some (false, .space)
  | 'S' => some (true, .space)
  | 'w' => some (false, .word)
  | 'W' => some (true, .word)
  | _ => none

/-- The condition with a name. -/
def namedCondition? (name : String) : Option Assertion :=
  match name with
  | "start" => some .wordStart
  | "end" => some .wordEnd
  | "start-half" => some .noWordBefore
  | "end-half" => some .noWordAfter
  | _ => none

/-- A number of hexadecimal digits. -/
def readDigits (loose : Bool) : Nat → Cursor → Except Fault (List Char × Cursor)
  | 0, here => .ok ([], here)
  | count + 1, here =>
      match here.rest with
      | [] => fail .escapeEnd here.span
      | digit :: _ =>
          if isHexDigit digit then
            (readDigits loose count (here.advance loose)).map fun (digits, after) =>
              (digit :: digits, after)
          else fail .hexDigit here.headSpan

/-- The character with a code point of a fixed number of digits. -/
def readFixedCode (loose : Bool) (count : Nat) (start : Place) (here : Cursor) :
    Except Fault (Tree × Cursor) :=
  (readDigits loose count here).bind fun (digits, after) =>
    match charOfCode? (ofHexDigits digits) with
    | some character => .ok (.literal ⟨after.spanFrom start, character, count = 2⟩, after)
    | none => fail .hexValue (after.spanFrom here.place)

/-- The character with a code point between braces. -/
def readBracedCode (loose : Bool) (start : Place) (brace : Cursor) :
    Except Fault (Tree × Cursor) :=
  let (digits, stop) := (brace.advance loose).collect loose isHexDigit
  let after := stop.advance loose
  match stop.head? with
  | none => fail .escapeEnd (stop.spanFrom brace.place)
  | some '\x7d' =>
      if digits.isEmpty then fail .hexEmpty (after.spanFrom brace.place)
      else
        match charOfCode? (ofHexDigits digits) with
        | some character => .ok (.literal ⟨after.spanFrom start, character, false⟩, after)
        | none => fail .hexValue (stop.spanFrom brace.next.place)
  | some _ => fail .hexDigit stop.headSpan

/-- The character with a code point, given the cursor at the letter before it. -/
def readCode (loose : Bool) (start : Place) (letter : Cursor) : Except Fault (Tree × Cursor) :=
  let digits := letter.advance loose
  let count : Nat :=
    match letter.head? with
    | some 'x' => 2
    | some 'u' => 4
    | _ => 8
  match digits.head? with
  | none => fail .escapeEnd digits.span
  | some '\x7b' => readBracedCode loose start digits
  | some _ => readFixedCode loose count start digits

/-- A property of characters, given the cursor at the letter before its name. -/
def readProperty (loose : Bool) (start : Place) (letter : Cursor) :
    Except Fault (Tree × Cursor) :=
  let name := letter.advance loose
  match name.head? with
  | none => fail .escapeEnd name.span
  | some '\x7b' =>
      let (text, stop) := (name.advance loose).collect loose (· ≠ '\x7d')
      let after := stop.next
      if stop.atEnd then fail .escapeEnd stop.span
      else
        let alone := !text.contains '=' && !text.contains ':'
        .ok (.property (after.spanFrom start) (if alone then some text else none), after)
  | some '\\' => fail .propertyName name.headSpan
  | some character =>
      let after := name.advance loose
      .ok (.property (after.spanFrom start) (some [character]), after)

/-- Whether the name of a word boundary may hold a character. -/
def isBoundaryLetter (character : Char) : Bool :=
  character.isAlpha || character = '-'

/-- What a word boundary becomes by a name between braces, if there is one. -/
def readBoundaryName (loose : Bool) (start : Place) (here : Cursor) :
    Except Fault (Tree × Cursor) :=
  let plain : Tree × Cursor := (.assertion (here.spanFrom start) .boundary, here)
  if here.head? ≠ some '\x7b' then .ok plain
  else
    let inner := here.advance loose
    match inner.head? with
    | none => fail .boundaryEnd (inner.spanFrom start)
    | some first =>
        if !isBoundaryLetter first then .ok plain
        else
          let (name, stop) := inner.collect loose isBoundaryLetter
          if stop.head? ≠ some '\x7d' then fail .boundaryUnclosed (stop.spanFrom here.place)
          else
            match namedCondition? (String.ofList name) with
            | some asked =>
                .ok (.assertion (stop.next.spanFrom start) asked, stop.next)
            | none => fail .boundaryUnknown (stop.spanFrom inner.place)

/-- An escape sequence, given the cursor at its backslash. -/
def readEscape (loose : Bool) (here : Cursor) : Except Fault (Tree × Cursor) :=
  let start := here.place
  let letter := here.next
  let after := letter.next
  let span := after.spanFrom start
  match letter.head? with
  | none => fail .escapeEnd span
  | some character =>
      if '0' ≤ character && character ≤ '9' then fail .backreference span
      else if character = 'x' || character = 'u' || character = 'U' then
        readCode loose start letter
      else if character = 'p' || character = 'P' then readProperty loose start letter
      else if isEscapable character then .ok (.literal ⟨span, character, false⟩, after)
      else
        match shorthand? character, control? character, condition? character with
        | some (negated, shorthand), _, _ => .ok (.shorthand span negated shorthand, after)
        | none, some control, _ => .ok (.literal ⟨span, control, false⟩, after)
        | none, none, some .boundary => readBoundaryName loose start after
        | none, none, some asked => .ok (.assertion span asked, after)
        | none, none, none => fail .escapeUnknown span

end Pattern
end CardKeeper

import Mathlib

/-!
# What a JSON text says

The values of JSON and the texts that spell them, as the format has them.  Nothing here knows how a
text is read.  One value has many texts: there may be white space around every value and every
mark, a character of a string may stand for itself or be escaped in several ways, and a number may
have an exponent.
-/

namespace CardKeeper
namespace Json

/-- A value of JSON. -/
inductive Value where
  | null
  | boolean (value : Bool)
  | number (value : ℚ)
  | text (content : String)
  | list (items : List Value)
  /-- The members of an object in the order of the text.  A key may occur more than once. -/
  | object (members : List (String × Value))

/-- White space. -/
def IsBlank (space : List Char) : Prop :=
  ∀ character ∈ space, character ∈ [' ', '\t', '\n', '\r']

/-! ## Numbers -/

/-- The characters of decimal digits. -/
def digitChars (digits : List (Fin 10)) : List Char :=
  digits.map fun digit : Fin 10 => Nat.digitChar digit.val

/-- The number that decimal digits spell. -/
def digitsValue (digits : List (Fin 10)) : ℕ :=
  digits.foldl (fun value digit => value * 10 + digit.val) 0

/-- The digits of a fraction after a point, or nothing. -/
inductive SpellsFraction : List (Fin 10) → List Char → Prop
  | none : SpellsFraction [] []
  | some {digits : List (Fin 10)} (present : digits ≠ []) :
      SpellsFraction digits ('.' :: digitChars digits)

/-- An exponent with its mark and perhaps a sign, or nothing. -/
inductive SpellsScale : ℤ → List Char → Prop
  | none : SpellsScale 0 []
  | plain {mark : Char} {digits : List (Fin 10)} (marked : mark = 'e' ∨ mark = 'E')
      (present : digits ≠ []) : SpellsScale (digitsValue digits) (mark :: digitChars digits)
  | plus {mark : Char} {digits : List (Fin 10)} (marked : mark = 'e' ∨ mark = 'E')
      (present : digits ≠ []) :
      SpellsScale (digitsValue digits) (mark :: '+' :: digitChars digits)
  | minus {mark : Char} {digits : List (Fin 10)} (marked : mark = 'e' ∨ mark = 'E')
      (present : digits ≠ []) :
      SpellsScale (-digitsValue digits) (mark :: '-' :: digitChars digits)

/-- A number without a sign.  The whole part has no leading zero. -/
inductive SpellsSize : ℚ → List Char → Prop
  | intro {whole fraction : List (Fin 10)} {exponent : ℤ} {point scale : List Char}
      (present : whole ≠ []) (leading : whole.head? = some 0 → whole = [0])
      (fractional : SpellsFraction fraction point) (scaled : SpellsScale exponent scale) :
      SpellsSize (digitsValue (whole ++ fraction) * 10 ^ (exponent - fraction.length))
        (digitChars whole ++ point ++ scale)

/-- A number. -/
inductive SpellsNumber : ℚ → List Char → Prop
  | plain {size : ℚ} {spelled : List Char} (spells : SpellsSize size spelled) :
      SpellsNumber size spelled
  | minus {size : ℚ} {spelled : List Char} (spells : SpellsSize size spelled) :
      SpellsNumber (-size) ('-' :: spelled)

/-! ## Strings -/

/-- A hexadecimal digit, in lower or upper case. -/
def IsHexDigit (value : ℕ) (digit : Char) : Prop :=
  value < 16 ∧ (digit = Nat.digitChar value ∨ digit = (Nat.digitChar value).toUpper)

/-- Four hexadecimal digits. -/
inductive SpellsUnit : ℕ → List Char → Prop
  | intro {a b c d : ℕ} {first second third fourth : Char} (isFirst : IsHexDigit a first)
      (isSecond : IsHexDigit b second) (isThird : IsHexDigit c third)
      (isFourth : IsHexDigit d fourth) :
      SpellsUnit (((a * 16 + b) * 16 + c) * 16 + d) [first, second, third, fourth]

/-- The letters of short escapes with the characters they stand for. -/
def shortEscapes : List (Char × Char) :=
  [('"', '"'), ('\\', '\\'), ('/', '/'), ('b', '\x08'), ('f', '\x0C'), ('n', '\n'), ('r', '\r'),
    ('t', '\t')]

/-- A character of a string. -/
inductive SpellsChar : Char → List Char → Prop
  /-- It stands for itself. -/
  | plain {character : Char} (unquoted : character ≠ '"') (unescaped : character ≠ '\\')
      (visible : 0x20 ≤ character.toNat) : SpellsChar character [character]
  /-- It is escaped with one letter. -/
  | short {letter character : Char} (known : (letter, character) ∈ shortEscapes) :
      SpellsChar character ['\\', letter]
  /-- It is escaped by its code point. -/
  | unit {character : Char} {digits : List Char} (spells : SpellsUnit character.toNat digits) :
      SpellsChar character ('\\' :: 'u' :: digits)
  /-- It is escaped by its surrogate pair. -/
  | pair {character : Char} {leading trailing : ℕ} {first second : List Char}
      (isLeading : 0xD800 ≤ leading ∧ leading ≤ 0xDBFF)
      (isTrailing : 0xDC00 ≤ trailing ∧ trailing ≤ 0xDFFF)
      (code : character.toNat = (leading - 0xD800) * 0x400 + (trailing - 0xDC00) + 0x10000)
      (spellsFirst : SpellsUnit leading first) (spellsSecond : SpellsUnit trailing second) :
      SpellsChar character ('\\' :: 'u' :: (first ++ '\\' :: 'u' :: second))

/-- The characters of a string, one after the other. -/
inductive SpellsChars : List Char → List Char → Prop
  | nil : SpellsChars [] []
  | cons {character : Char} {content first rest : List Char} (head : SpellsChar character first)
      (tail : SpellsChars content rest) : SpellsChars (character :: content) (first ++ rest)

/-- A string without quotes, backslashes and control characters may be spelled as it is. -/
theorem spellsChars_plain {content : List Char}
    (plain : ∀ character ∈ content,
      character ≠ '"' ∧ character ≠ '\\' ∧ 0x20 ≤ character.toNat) :
    SpellsChars content content := by
  induction content with
  | nil => exact .nil
  | cons character content ih =>
      obtain ⟨unquoted, unescaped, visible⟩ := plain character List.mem_cons_self
      exact .cons (.plain unquoted unescaped visible)
        (ih fun other member => plain other (List.mem_cons_of_mem _ member))

/-- A string between its quotes. -/
inductive SpellsText : String → List Char → Prop
  | intro {content : String} {spelled : List Char} (spells : SpellsChars content.toList spelled) :
      SpellsText content ('"' :: (spelled ++ ['"']))

/-! ## Values -/

/-- A key and its colon, with white space around both. -/
inductive SpellsLabel : String → List Char → Prop
  | intro {key : String} {before quoted gap after : List Char} (blankBefore : IsBlank before)
      (spells : SpellsText key quoted) (blankGap : IsBlank gap) (blankAfter : IsBlank after) :
      SpellsLabel key (before ++ quoted ++ gap ++ ':' :: after)

mutual

/-- Characters spell a value, without white space around it. -/
inductive Spells : Value → List Char → Prop
  | null : Spells .null ['n', 'u', 'l', 'l']
  | yes : Spells (.boolean true) ['t', 'r', 'u', 'e']
  | no : Spells (.boolean false) ['f', 'a', 'l', 's', 'e']
  | number {value : ℚ} {spelled : List Char} (spells : SpellsNumber value spelled) :
      Spells (.number value) spelled
  | text {content : String} {spelled : List Char} (spells : SpellsText content spelled) :
      Spells (.text content) spelled
  | emptyList {space : List Char} (blank : IsBlank space) :
      Spells (.list []) ('[' :: (space ++ [']']))
  | list {items : List Value} {spelled : List Char} (spells : SpellsItems items spelled) :
      Spells (.list items) ('[' :: (spelled ++ [']']))
  | emptyObject {space : List Char} (blank : IsBlank space) :
      Spells (.object []) ('\x7b' :: (space ++ ['\x7d']))
  | object {members : List (String × Value)} {spelled : List Char}
      (spells : SpellsMembers members spelled) :
      Spells (.object members) ('\x7b' :: (spelled ++ ['\x7d']))

/-- The items of a list, at least one, with commas between them and white space around them. -/
inductive SpellsItems : List Value → List Char → Prop
  | last {item : Value} {before spelled after : List Char} (blankBefore : IsBlank before)
      (spells : Spells item spelled) (blankAfter : IsBlank after) :
      SpellsItems [item] (before ++ spelled ++ after)
  | more {item : Value} {items : List Value} {before spelled after rest : List Char}
      (blankBefore : IsBlank before) (spells : Spells item spelled) (blankAfter : IsBlank after)
      (tail : SpellsItems items rest) :
      SpellsItems (item :: items) (before ++ spelled ++ after ++ ',' :: rest)

/-- The members of an object, at least one. -/
inductive SpellsMembers : List (String × Value) → List Char → Prop
  | last {key : String} {value : Value} {label spelled after : List Char}
      (labelled : SpellsLabel key label) (spells : Spells value spelled)
      (blankAfter : IsBlank after) :
      SpellsMembers [(key, value)] (label ++ spelled ++ after)
  | more {key : String} {value : Value} {members : List (String × Value)}
      {label spelled after rest : List Char} (labelled : SpellsLabel key label)
      (spells : Spells value spelled) (blankAfter : IsBlank after)
      (tail : SpellsMembers members rest) :
      SpellsMembers ((key, value) :: members) (label ++ spelled ++ after ++ ',' :: rest)

end

/-- A whole text that spells a value, with white space around it. -/
inductive IsTextOf : Value → List Char → Prop
  | intro {value : Value} {before spelled after : List Char} (blankBefore : IsBlank before)
      (spells : Spells value spelled) (blankAfter : IsBlank after) :
      IsTextOf value (before ++ spelled ++ after)

end Json
end CardKeeper

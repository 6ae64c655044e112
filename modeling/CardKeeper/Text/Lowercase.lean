import CardKeeper.Text.CaseData

/-!
# Lower-casing text

Extensions are compared in lower case.  A character goes to its partner in `caseRuns`, with two
exceptions: the dotted capital I becomes two characters, and a capital sigma becomes the final
form when it ends a word.  A sigma ends a word when, looking through case-ignorable characters, a
cased character stands before it and none stands after it.
-/

namespace CardKeeper
namespace Text

/-- Whether a character's code point lies in one of the ranges. -/
def inRanges (ranges : List (Nat × Nat)) (character : Char) : Bool :=
  ranges.any fun range => range.1 ≤ character.toNat && character.toNat ≤ range.2

/-- Whether a character has the property Cased. -/
def isCased (character : Char) : Bool :=
  inRanges casedRanges character

/-- Whether a character has the property Case_Ignorable. -/
def isCaseIgnorable (character : Char) : Bool :=
  inRanges caseIgnorableRanges character

/-- Whether the run holds this code point. -/
def CaseRun.holds (run : CaseRun) (code : Nat) : Bool :=
  run.first ≤ code && code ≤ run.last && (code - run.first) % run.stride == 0

/-- The lower-case partner of a character, or the character itself. -/
def lowerChar (character : Char) : Char :=
  match caseRuns.find? (·.holds character.toNat) with
  | some run => Char.ofNat (run.target + (character.toNat - run.first))
  | none => character

/-- Whether a cased character comes next, looking through case-ignorable ones. -/
def reachesCased (characters : List Char) : Bool :=
  match characters.dropWhile isCaseIgnorable with
  | next :: _ => isCased next
  | [] => false

/-- Lower-case characters, given those that precede them, nearest first. -/
def lowerAfter (before : List Char) : List Char → List Char
  | [] => []
  | character :: after =>
      let lowered :=
        if character = 'Σ' then
          [if reachesCased before && !reachesCased after then 'ς' else 'σ']
        else if character = 'İ' then ['i', '\u0307']
        else [lowerChar character]
      lowered ++ lowerAfter (character :: before) after

/-- A text in lower case. -/
def lowercase (text : String) : String :=
  String.ofList (lowerAfter [] text.toList)

/-- The lower-case form of an ASCII letter, and any other character unchanged. -/
def asciiLower (character : Char) : Char :=
  if 'A' ≤ character ∧ character ≤ 'Z' then Char.ofNat (character.toNat + 32) else character

/-- Whether two texts are the same up to the case of ASCII letters. -/
def sameAsciiCase (left right : String) : Bool :=
  left.toList.map asciiLower == right.toList.map asciiLower

end Text
end CardKeeper

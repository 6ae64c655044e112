import CardKeeper.Decimal.Shortest
import CardKeeper.Json.Fault

/-!
# Numbers of JSON

`readNumber` gives the value of a number, which is only ever wanted for the report that a number
stands in the wrong place.  A whole number of 64 bits keeps its value.  Any other number becomes a
double: the digits that fit into 64 bits make the significand, digits after them only count, and
the significand is then scaled by powers of ten.  `skipNumber` checks the spelling alone.  Both
start after the sign.
-/

namespace CardKeeper
namespace Json

/-- The value of a number. -/
inductive Number where
  /-- A whole number of 64 bits. -/
  | integer (value : Int)
  /-- Any other number. -/
  | real (value : Float)

/-- Whether a byte is a decimal digit. -/
def isDigit (byte : UInt8) : Bool :=
  0x30 ≤ byte && byte ≤ 0x39

/-- The value of a decimal digit. -/
def digitValue (byte : UInt8) : Nat :=
  byte.toNat - 0x30

/-- The decimal point. -/
abbrev point : UInt8 := 0x2E

/-- The minus sign. -/
abbrev minus : UInt8 := 0x2D

/-- The plus sign. -/
abbrev plus : UInt8 := 0x2B

/-- Whether a byte sets off an exponent. -/
def isExponentMark (byte : UInt8) : Bool :=
  byte == 0x65 || byte == 0x45

/-- The bytes after leading digits. -/
def skipDigits (bytes : Bytes) : Bytes :=
  bytes.dropWhile isDigit

theorem length_skipDigits_le (bytes : Bytes) : (skipDigits bytes).length ≤ bytes.length :=
  (List.dropWhile_suffix isDigit).length_le

/-- The bytes after an exponent, given what follows its mark. -/
def skipExponent (bytes : Bytes) : Except Fault Bytes :=
  let unsigned :=
    match bytes with
    | sign :: rest => if sign = plus ∨ sign = minus then rest else sign :: rest
    | [] => []
  match unsigned with
  | digit :: rest => if isDigit digit then .ok (skipDigits rest) else failBefore .badNumber rest
  | [] => failBefore .badNumber []

/-- The bytes after an exponent, if one starts here. -/
def skipScale (bytes : Bytes) : Except Fault Bytes :=
  match bytes with
  | mark :: rest => if isExponentMark mark then skipExponent rest else .ok (mark :: rest)
  | [] => .ok []

/-- The bytes after the fraction and the exponent of a number. -/
def skipFraction (bytes : Bytes) : Except Fault Bytes :=
  match bytes with
  | mark :: rest =>
      if mark = point then
        match rest with
        | digit :: more =>
            if isDigit digit then skipScale (skipDigits more) else failOn .badNumber (digit :: more)
        | [] => failOn .badNumber []
      else skipScale (mark :: rest)
  | [] => .ok []

/-- The bytes after a number. -/
def skipNumber (bytes : Bytes) : Except Fault Bytes :=
  match bytes with
  | [] => failBefore .badNumber []
  | first :: rest =>
      if first = 0x30 then
        match rest with
        | next :: more =>
            if isDigit next then failOn .badNumber (next :: more) else skipFraction (next :: more)
        | [] => .ok []
      else if isDigit first then skipFraction (skipDigits rest)
      else failBefore .badNumber rest

theorem length_skipExponent {bytes rest : Bytes} (read : skipExponent bytes = .ok rest) :
    rest.length ≤ bytes.length := by
  unfold skipExponent at read
  have unsigned_le : ∀ unsigned : Bytes, unsigned.length ≤ bytes.length →
      (match unsigned with
        | digit :: rest =>
            if isDigit digit then .ok (skipDigits rest) else failBefore .badNumber rest
        | [] => failBefore .badNumber []) = (.ok rest : Except Fault Bytes) →
      rest.length ≤ bytes.length := by
    intro unsigned le equal
    split at equal
    · split at equal
      · cases equal
        exact Nat.le_trans (length_skipDigits_le _) (Nat.le_of_succ_le le)
      · cases equal
    · cases equal
  refine unsigned_le _ ?_ read
  split
  · split <;> simp
  · simp

theorem length_skipScale {bytes rest : Bytes} (read : skipScale bytes = .ok rest) :
    rest.length ≤ bytes.length := by
  unfold skipScale at read
  split at read
  · split at read
    · exact Nat.le_succ_of_le (length_skipExponent read)
    · cases read
      exact Nat.le_refl _
  · cases read
    exact Nat.le_refl _

theorem length_skipFraction {bytes rest : Bytes} (read : skipFraction bytes = .ok rest) :
    rest.length ≤ bytes.length := by
  unfold skipFraction at read
  split at read
  · split at read
    · split at read
      · split at read
        · have := length_skipScale read
          have := length_skipDigits_le ‹_›
          simp only [List.length_cons]
          omega
        · cases read
      · cases read
    · exact length_skipScale read
  · cases read
    exact Nat.le_refl _

theorem length_skipNumber {bytes rest : Bytes} (read : skipNumber bytes = .ok rest) :
    rest.length < bytes.length := by
  unfold skipNumber at read
  split at read
  · cases read
  · split at read
    · split at read
      · split at read
        · cases read
        · exact Nat.lt_succ_of_le (length_skipFraction read)
      · cases read
        simp
    · split at read
      · exact Nat.lt_succ_of_le (Nat.le_trans (length_skipFraction read) (length_skipDigits_le _))
      · cases read

/-- The largest significand. -/
def largest : Nat := 0xFFFFFFFFFFFFFFFF

/-- A significand with the leading digits appended as long as it fits into 64 bits, with the
number of digits it took and the bytes after them. -/
def absorb (significand : Nat) : Bytes → Nat × Nat × Bytes
  | [] => (significand, 0, [])
  | byte :: rest =>
      if isDigit byte && significand * 10 + digitValue byte ≤ largest then
        let (total, count, after) := absorb (significand * 10 + digitValue byte) rest
        (total, count + 1, after)
      else (significand, 0, byte :: rest)

/-- A double scaled by a power of ten.  A power beyond `10 ^ 308` is taken off in steps of that
size, which ends early when nothing is left of the double. -/
def scale (value : Float) (exponent : Int) : Nat → Option Float
  | 0 => some value
  | steps + 1 =>
      if exponent.natAbs ≤ 308 then
        let power := Float.ofScientific 1 false exponent.natAbs
        if 0 ≤ exponent then
          if (value * power).isInf then none else some (value * power)
        else some (value / power)
      else if value == 0 then some value
      else if 0 ≤ exponent then none
      else scale (value / Float.ofScientific 1 false 308) (exponent + 308) steps

/-- An exponent of 32 bits, at the nearer end of the range when it lies outside. -/
def clampExponent (exponent : Int) : Int :=
  max (-0x80000000) (min exponent 0x7FFFFFFF)

/-- The value of a significand, an exponent and a sign. -/
def assemble (positive : Bool) (significand : Nat) (exponent : Int) (rest : Bytes) :
    Except Fault (Number × Bytes) :=
  match scale significand.toUInt64.toFloat exponent (exponent.natAbs / 308 + 1) with
  | none => failBefore .numberTooLarge rest
  | some value => .ok (.real (if positive then value else -value), rest)

/-- The value of the digits of an exponent, or what follows the digit at which it leaves 32
bits. -/
def exponentValue (value : Nat) : Bytes → Except Bytes (Nat × Bytes)
  | [] => .ok (value, [])
  | byte :: rest =>
      if isDigit byte then
        if value * 10 + digitValue byte < 0x80000000 then
          exponentValue (value * 10 + digitValue byte) rest
        else .error rest
      else .ok (value, byte :: rest)

/-- A number from its exponent on, given what follows the exponent's mark. -/
def readExponent (positive : Bool) (significand : Nat) (start : Int) (bytes : Bytes) :
    Except Fault (Number × Bytes) :=
  let (negative, unsigned) :=
    match bytes with
    | sign :: rest =>
        if sign = plus then (false, rest)
        else if sign = minus then (true, rest)
        else (false, sign :: rest)
    | [] => (false, [])
  match unsigned with
  | [] => failBefore .endInValue []
  | digit :: rest =>
      if !isDigit digit then failBefore .badNumber rest
      else
        match exponentValue (digitValue digit) rest with
        | .ok (value, rest) =>
            assemble positive significand
              (clampExponent (if negative then start - value else start + value)) rest
        | .error rest =>
            if significand ≠ 0 ∧ !negative then failBefore .numberTooLarge rest
            else .ok (.real (if positive then 0.0 else -0.0), skipDigits rest)

/-- A number from its exponent on, if it has one. -/
def readScale (positive : Bool) (significand : Nat) (exponent : Int) (bytes : Bytes) :
    Except Fault (Number × Bytes) :=
  match bytes with
  | mark :: rest =>
      if isExponentMark mark then readExponent positive significand exponent rest
      else assemble positive significand exponent (mark :: rest)
  | [] => assemble positive significand exponent []

/-- A number from its fraction on, given what follows the point. -/
def readFraction (positive : Bool) (significand : Nat) (exponent : Int) (bytes : Bytes) :
    Except Fault (Number × Bytes) :=
  let (total, count, after) := absorb significand bytes
  match after with
  | next :: rest =>
      if isDigit next then readScale positive total (exponent - count) (skipDigits rest)
      else if count = 0 then failOn .badNumber (next :: rest)
      else readScale positive total (exponent - count) (next :: rest)
  | [] =>
      if count = 0 then failBefore .endInValue []
      else readScale positive total (exponent - count) []

/-- A number whose integer part is a significand times a power of ten. -/
def readRest (positive : Bool) (significand : Nat) (exponent : Int) (bytes : Bytes) :
    Except Fault (Number × Bytes) :=
  match bytes with
  | mark :: rest =>
      if mark = point then readFraction positive significand exponent rest
      else readScale positive significand exponent (mark :: rest)
  | [] => assemble positive significand exponent []

/-- A whole number of 64 bits, or a double when the sign takes it out of that range; minus zero is
a double. -/
def wholeNumber (positive : Bool) (significand : Nat) : Number :=
  if positive then .integer significand
  else if significand = 0 ∨ 0x8000000000000000 < significand then
    .real (-significand.toUInt64.toFloat)
  else .integer (-significand)

/-- A number whose integer part fits into 64 bits. -/
def readShort (positive : Bool) (significand : Nat) (bytes : Bytes) :
    Except Fault (Number × Bytes) :=
  match bytes with
  | mark :: rest =>
      if mark = point || isExponentMark mark then
        readRest positive significand 0 (mark :: rest)
      else .ok (wholeNumber positive significand, mark :: rest)
  | [] => .ok (wholeNumber positive significand, [])

/-- The value of a number, and the bytes after it. -/
def readNumber (positive : Bool) (bytes : Bytes) : Except Fault (Number × Bytes) :=
  match bytes with
  | [] => failBefore .endInValue []
  | first :: rest =>
      if first = 0x30 then
        match rest with
        | next :: more =>
            if isDigit next then failOn .badNumber (next :: more)
            else readShort positive 0 (next :: more)
        | [] => readShort positive 0 []
      else if isDigit first then
        let (significand, _, after) := absorb (digitValue first) rest
        let further := after.takeWhile isDigit
        if further.isEmpty then readShort positive significand after
        else readRest positive significand further.length (skipDigits after)
      else failBefore .badNumber rest

end Json
end CardKeeper

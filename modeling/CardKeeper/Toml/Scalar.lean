import CardKeeper.Toml.Value

/-!
# Numbers, dates and words of TOML

Everything that is not a string, a list or a table is a run of letters, digits and a few signs.  A
run is read whole and then has to be one of the forms below.  A date may be followed by a blank and
a time.
-/

namespace CardKeeper
namespace Toml

/-- Whether a character can stand in a number, a date or a word. -/
def inRun (character : Char) : Bool :=
  character.isAlphanum || character == '_' || character == '+' || character == '-' ||
    character == '.' || character == ':'

/-- The value of digits in a base that is at most sixteen. -/
def number (base : Nat) (digits : List Char) : Nat :=
  digits.foldl (fun value digit =>
    value * base +
      (if '0' ≤ digit ∧ digit ≤ '9' then digit.toNat - 0x30
        else if 'a' ≤ digit ∧ digit ≤ 'f' then digit.toNat - 0x61 + 10
        else digit.toNat - 0x41 + 10)) 0

/-- Digits with underscores between them, without the underscores. -/
def digits? (isDigit : Char → Bool) : List Char → Option (List Char)
  | [] => none
  | [digit] => if isDigit digit then some [digit] else none
  | digit :: '_' :: rest =>
      if isDigit digit then (digits? isDigit rest).map (digit :: ·) else none
  | digit :: rest => if isDigit digit then (digits? isDigit rest).map (digit :: ·) else none

/-- Digits of a whole number, which start with a zero only if that is all. -/
def wholeDigits? (characters : List Char) : Option (List Char) :=
  match digits? Char.isDigit characters with
  | some ('0' :: _ :: _) => none
  | other => other

/-- A sign, true for minus, and what follows it. -/
def splitSign : List Char → Bool × List Char
  | '+' :: rest => (false, rest)
  | '-' :: rest => (true, rest)
  | rest => (false, rest)

/-- A number, if it fits into 64 bits with a sign. -/
def inRange? (value : Int) : Option Int :=
  if -0x8000000000000000 ≤ value ∧ value < 0x8000000000000000 then some value else none

/-- The value of a whole number. -/
def integer? (run : List Char) : Option Int :=
  match run with
  | '0' :: 'x' :: rest =>
      (digits? (fun digit => digit.isDigit || ('a' ≤ digit && digit ≤ 'f') ||
        ('A' ≤ digit && digit ≤ 'F')) rest).bind fun digits => inRange? (number 16 digits)
  | '0' :: 'o' :: rest =>
      (digits? (fun digit => '0' ≤ digit && digit ≤ '7') rest).bind fun digits =>
        inRange? (number 8 digits)
  | '0' :: 'b' :: rest =>
      (digits? (fun digit => digit == '0' || digit == '1') rest).bind fun digits =>
        inRange? (number 2 digits)
  | _ =>
      let (negative, rest) := splitSign run
      (wholeDigits? rest).bind fun digits =>
        inRange? (if negative then -(number 10 digits : Int) else number 10 digits)

/-- Whether `significand * 10 ^ exponent` is too large for a double: it rounds to infinity when it
reaches half a unit above the largest one. -/
def overflows (significand : Nat) (exponent : Int) : Bool :=
  let size := (Nat.toDigits 10 significand).length
  if significand = 0 || exponent + size < 300 then false
  else if 320 < exponent + size then true
  else Nat.pow 2 1024 - Nat.pow 2 970 ≤
    significand * Nat.pow 10 exponent.toNat / Nat.pow 10 (-exponent).toNat

/-- Whether a run is a number with a fraction or an exponent that is not too large.  A negative
number may be as large as it likes. -/
def isReal (run : List Char) : Bool :=
  let (negative, rest) := splitSign run
  if rest = ['i', 'n', 'f'] || rest = ['n', 'a', 'n'] then true
  else
    let isMark (character : Char) : Bool := character == 'e' || character == 'E'
    let mantissa := rest.takeWhile fun character => !isMark character
    let whole := mantissa.takeWhile (· != '.')
    let fraction? : Option (List Char) :=
      if whole.length = mantissa.length then some []
      else digits? Char.isDigit (mantissa.drop (whole.length + 1))
    let exponent? : Option Int :=
      if mantissa.length = rest.length then some 0
      else
        let (below, digits) := splitSign (rest.drop (mantissa.length + 1))
        (digits? Char.isDigit digits).map fun digits =>
          if below then -(number 10 digits : Int) else number 10 digits
    match wholeDigits? whole, fraction?, exponent? with
    | some whole, some fraction, some exponent =>
        (!fraction.isEmpty || mantissa.length < rest.length) &&
          (negative || !overflows (number 10 (whole ++ fraction)) (exponent - fraction.length))
    | _, _, _ => false

/-- The value of exactly two digits, if it lies between two bounds. -/
def pair? (low high : Nat) : List Char → Option Nat
  | [tens, ones] =>
      if tens.isDigit && ones.isDigit && low ≤ number 10 [tens, ones] &&
          number 10 [tens, ones] ≤ high then
        some (number 10 [tens, ones])
      else none
  | _ => none

/-- The number of days of a month. -/
def daysIn (year month : Nat) : Nat :=
  if month = 2 then
    if year % 4 = 0 && (year % 100 != 0 || year % 400 = 0) then 29 else 28
  else if month = 4 || month = 6 || month = 9 || month = 11 then 30
  else 31

/-- Whether ten characters are a date. -/
def isDate (run : List Char) : Bool :=
  let year := run.take 4
  let month := (run.drop 5).take 2
  let day := run.drop 8
  run.length == 10 && year.all Char.isDigit && run[4]? == some '-' && run[7]? == some '-' &&
    match pair? 1 12 month with
    | some month => (pair? 1 (daysIn (number 10 year) month) day).isSome
    | none => false

/-- A distance from universal time in its plain form: `Z`, or a sign, hours and minutes. -/
def offset? (run : List Char) : Option (List Char) :=
  match run with
  | [] => some []
  | [letter] => if letter = 'Z' || letter = 'z' then some ['Z'] else none
  | sign :: rest =>
      if (sign = '+' || sign = '-') && (pair? 0 23 (rest.take 2)).isSome && rest[2]? == some ':' &&
          (pair? 0 59 (rest.drop 3)).isSome then
        some (if rest = ['0', '0', ':', '0', '0'] then '+' :: rest else sign :: rest)
      else none

/-- A fraction of a second in its plain form, which has at most nine digits and no zero at the
end. -/
def plainFraction (digits : List Char) : List Char :=
  let kept := ((digits.take 9).reverse.dropWhile (· == '0')).reverse
  if kept.isEmpty then [] else '.' :: kept

/-- A time of the day in its plain form, and what follows it. -/
def time? (run : List Char) : Option (List Char × List Char) :=
  let clock := run.take 8
  if (pair? 0 23 (clock.take 2)).isSome && clock[2]? == some ':' &&
      (pair? 0 59 ((clock.drop 3).take 2)).isSome && clock[5]? == some ':' &&
      (pair? 0 60 (clock.drop 6)).isSome then
    match run.drop 8 with
    | '.' :: rest =>
        let fraction := rest.takeWhile Char.isDigit
        if fraction.isEmpty then none
        else some (clock ++ plainFraction fraction, rest.dropWhile Char.isDigit)
    | rest => some (clock, rest)
  else none

/-- A time of the day with or without a distance from universal time, in its plain form. -/
def timeWithOffset? (run : List Char) : Option (List Char) :=
  (time? run).bind fun (time, rest) => (offset? rest).map fun offset => time ++ offset

/-- A date, a time or both written in one run, in plain form. -/
def moment? (run : List Char) : Option (List Char) :=
  if isDate run then some run
  else if isDate (run.take 10) && (run[10]? == some 'T' || run[10]? == some 't') then
    (timeWithOffset? (run.drop 11)).map fun time => run.take 10 ++ 'T' :: time
  else
    (time? run).bind fun (time, rest) => if rest.isEmpty then some time else none

/-- The value of a run. -/
def ofRun? (run : List Char) : Option Value :=
  if run = "true".toList then some (.boolean true)
  else if run = "false".toList then some (.boolean false)
  else
    match moment? run with
    | some shown => some (.moment (String.ofList shown))
    | none =>
        match integer? run with
        | some value => some (.integer value)
        | none => if isReal run then some (.real (String.ofList run)) else none

/-- The number, date or word that starts here, and what follows it. -/
def scalarValue? (characters : List Char) : Option (Value × List Char) :=
  let run := characters.takeWhile inRun
  let rest := characters.dropWhile inRun
  match isDate run, rest with
  | true, ' ' :: after =>
      match timeWithOffset? (after.takeWhile inRun) with
      | some time => some (.moment (String.ofList (run ++ 'T' :: time)), after.dropWhile inRun)
      | none => (ofRun? run).map fun value => (value, rest)
  | _, _ => (ofRun? run).map fun value => (value, rest)

end Toml
end CardKeeper

import CardKeeper.Text.Quoted

/-!
# What can be wrong with a JSON text

A reader of JSON stops at the first fault.  While it runs a fault is held with the number of bytes
that were left to read; seen from outside it has a line and a column.
-/

namespace CardKeeper
namespace Json

/-- A value that stands where another kind of value is wanted. -/
inductive Found where
  /-- The value `null`. -/
  | null
  /-- A truth value. -/
  | boolean (value : Bool)
  /-- A whole number of 64 bits. -/
  | integer (value : Int)
  /-- Any other number, as it is shown. -/
  | real (shown : String)
  /-- A text. -/
  | text (bytes : Bytes)
  /-- A list. -/
  | list
  /-- An object. -/
  | object
  deriving DecidableEq

/-- The words that name a value in a report. -/
def Found.describe : Found → String
  | .null => "null"
  | .boolean value => "boolean `" ++ (if value then "true" else "false") ++ "`"
  | .integer value => "integer `" ++ toString value ++ "`"
  | .real shown => "floating point `" ++ shown ++ "`"
  | .text bytes => "string " ++ String.ofList (Text.quoted bytes)
  | .list => "sequence"
  | .object => "map"

/-- What is wrong with a text. -/
inductive Problem where
  /-- The text ends where a value is wanted or inside of one. -/
  | endInValue
  /-- The text ends inside a string. -/
  | endInText
  /-- The text ends inside an object. -/
  | endInObject
  /-- The text ends inside a list. -/
  | endInList
  /-- No value starts here. -/
  | noValue
  /-- A word that starts like `null`, `true` or `false` is another word. -/
  | unknownWord
  /-- A key has no colon after it. -/
  | noColon
  /-- Two elements of a list are not set apart. -/
  | noListSeparator
  /-- Two members of an object are not set apart. -/
  | noObjectSeparator
  /-- A member of an object does not start with a string. -/
  | noKey
  /-- A comma has nothing after it. -/
  | trailingComma
  /-- Something follows the value. -/
  | trailingBytes
  /-- A backslash in a string starts no known escape. -/
  | badEscape
  /-- A number is misspelt. -/
  | badNumber
  /-- A number is larger than any double. -/
  | numberTooLarge
  /-- A string holds a control character. -/
  | controlByte
  /-- A surrogate lacks its other half. -/
  | loneSurrogate
  /-- The escape of a leading surrogate is not followed by an escape. -/
  | brokenPair
  /-- A value is of the wrong kind. -/
  | wrongKind (found : Found) (wanted : String)
  /-- A list has fewer elements than the fields it stands for. -/
  | tooShort (wanted : String)
  /-- A field is absent. -/
  | missingField (name : String)
  /-- A field occurs twice. -/
  | repeatedField (name : String)
  deriving DecidableEq

/-- The words for a problem. -/
def Problem.message : Problem → String
  | .endInValue => "EOF while parsing a value"
  | .endInText => "EOF while parsing a string"
  | .endInObject => "EOF while parsing an object"
  | .endInList => "EOF while parsing a list"
  | .noValue => "expected value"
  | .unknownWord => "expected ident"
  | .noColon => "expected `:`"
  | .noListSeparator => "expected `,` or `]`"
  | .noObjectSeparator => "expected `,` or `\x7d`"
  | .noKey => "key must be a string"
  | .trailingComma => "trailing comma"
  | .trailingBytes => "trailing characters"
  | .badEscape => "invalid escape"
  | .badNumber => "invalid number"
  | .numberTooLarge => "number out of range"
  | .controlByte => "control character (\\u0000-\\u001F) found while parsing a string"
  | .loneSurrogate => "lone leading surrogate in hex escape"
  | .brokenPair => "unexpected end of hex escape"
  | .wrongKind found wanted => "invalid type: " ++ found.describe ++ ", expected " ++ wanted
  | .tooShort wanted => "invalid length 0, expected " ++ wanted
  | .missingField name => "missing field `" ++ name ++ "`"
  | .repeatedField name => "duplicate field `" ++ name ++ "`"

/-- A problem with the number of bytes that were left when it was noticed. -/
structure Fault where
  /-- What is wrong. -/
  problem : Problem
  /-- How many bytes were left. -/
  left : Nat
  deriving DecidableEq

/-- A problem noticed with these bytes left. -/
def failBefore {α : Type} (problem : Problem) (rest : Bytes) : Except Fault α :=
  .error ⟨problem, rest.length⟩

/-- A problem with the first of these bytes, which counts as read; at the end of the text no byte
is counted. -/
def failOn {α : Type} (problem : Problem) (rest : Bytes) : Except Fault α :=
  .error ⟨problem, rest.length - 1⟩

/-- A problem with its place in a text. -/
structure Error where
  /-- What is wrong. -/
  problem : Problem
  /-- The line, counted from one. -/
  line : Nat
  /-- The number of bytes read on that line. -/
  column : Nat
  deriving DecidableEq

/-- The byte that ends a line. -/
abbrev newline : UInt8 := 0x0A

/-- A fault found while reading these bytes, with its place. -/
def Fault.locate (fault : Fault) (text : Bytes) : Error :=
  let read := text.take (text.length - fault.left)
  ⟨fault.problem, read.count newline + 1, (read.reverse.takeWhile (· != newline)).length⟩

/-- The report of an error. -/
def Error.message (error : Error) : String :=
  error.problem.message ++ " at line " ++ toString error.line ++ " column " ++
    toString error.column

end Json
end CardKeeper

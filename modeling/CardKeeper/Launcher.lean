import CardKeeper.Json.Skip
import CardKeeper.Text.Blank
import CardKeeper.Text.Lowercase

/-!
# What the launcher knows about a console

The launcher keeps a JSON file per console.  Of its fields only the list of accepted extensions is
of interest here.  The file may be an object with that field or a list of one element that stands
for it; in an object all other fields are checked as JSON and forgotten.
-/

namespace CardKeeper

/-- What the launcher knows about a console. -/
structure Launcher where
  /-- The accepted extensions without their dots, set apart by bars. -/
  extensionList : String
  deriving DecidableEq

namespace Launcher

open Json

/-- The name of the field. -/
def fieldName : String := "extlist"

/-- What a report calls the whole configuration. -/
def recordName : String := "struct EmuConfig"

/-- The problem of a value of the wrong kind, given its first byte and the bytes after that.  A
scalar is read before it is reported; a list or an object is not looked into. -/
def wrongKind {α : Type} (wanted : String) (first : UInt8) (rest : Bytes) : Except Fault α :=
  let report (found : Found) (rest : Bytes) : Except Fault α :=
    failBefore (.wrongKind found wanted) rest
  let number : Number × Bytes → Except Fault α
    | (.integer value, rest) => report (.integer value) rest
    | (.real value, rest) => report (.real (Decimal.floatText value)) rest
  if first = quote then (readText rest).bind fun (content, rest) => report (.text content) rest
  else if first = listStart then report .list (first :: rest)
  else if first = objectStart then report .object (first :: rest)
  else if first = minus then (readNumber false rest).bind number
  else if isDigit first then (readNumber true (first :: rest)).bind number
  else if first = 0x6E then (readWord ull rest).bind (report .null)
  else if first = 0x74 then (readWord rue rest).bind (report (.boolean true))
  else if first = 0x66 then (readWord alse rest).bind (report (.boolean false))
  else failOn .noValue (first :: rest)

/-- The content of the field's value, which has to be a string. -/
def readValue (bytes : Bytes) : Except Fault (Bytes × Bytes) :=
  match skipSpace bytes with
  | [] => failBefore .endInValue []
  | first :: rest =>
      if first = quote then readText rest else wrongKind "a string" first rest

/-- The bytes after the colon that follows a key. -/
def readColon (bytes : Bytes) : Except Fault Bytes :=
  match skipSpace bytes with
  | [] => failBefore .endInObject []
  | next :: rest => if next = colon then .ok rest else failOn .noColon (next :: rest)

/-- A problem with a whole list or object, noticed after its end if that comes next. -/
def failAfter {α : Type} (problem : Problem) (close : UInt8) (bytes : Bytes) : Except Fault α :=
  match skipSpace bytes with
  | next :: rest => failBefore problem (if next = close then rest else next :: rest)
  | [] => failBefore problem []

/-- The key of the next member, or nothing at the end of the object, with the bytes after it. -/
def readKey (isFirst : Bool) (bytes : Bytes) : Except Fault (Option Bytes × Bytes) :=
  let key (rest : Bytes) : Except Fault (Option Bytes × Bytes) :=
    (readText rest).map fun (content, rest) => (some content, rest)
  match skipSpace bytes with
  | [] => failBefore .endInObject []
  | next :: rest =>
      if next = objectEnd then .ok (none, rest)
      else if isFirst then
        if next = quote then key rest else failOn .noKey (next :: rest)
      else if next = comma then
        match skipSpace rest with
        | [] => failBefore .endInValue []
        | after :: rest =>
            if after = quote then key rest
            else if after = objectEnd then failOn .trailingComma (after :: rest)
            else failOn .noKey (after :: rest)
      else failOn .noObjectSeparator (next :: rest)

/-- The content of the field after one more member, and the bytes after that member, given the
content so far, the member's key and the bytes after it. -/
def readMember (found : Option Bytes) (key rest : Bytes) :
    Except Fault (Option Bytes × Bytes) :=
  if key = Utf8.encode fieldName then
    if found.isSome then failAfter (.repeatedField fieldName) objectEnd rest
    else
      (readColon rest).bind fun rest =>
        (readValue rest).map fun (content, rest) => (some content, rest)
  else
    (readColon rest).bind fun rest => (skipValue rest).map fun rest => (found, rest)

theorem length_readKey {isFirst : Bool} {bytes rest : Bytes} {key : Option Bytes}
    (read : readKey isFirst bytes = .ok (key, rest)) : rest.length < bytes.length := by
  have space := length_skipSpace_le bytes
  have keyed : ∀ {tail : Bytes},
      ((readText tail).map fun (content, rest) => (some content, rest)) = .ok (key, rest) →
      rest.length < tail.length := by
    intro tail equal
    cases more : readText tail with
    | error fault => rw [more] at equal; cases equal
    | ok pair =>
        obtain ⟨content, after⟩ := pair
        rw [more] at equal
        cases equal
        exact length_readText more
  unfold readKey at read
  split at read
  · cases read
  · next next tail shape =>
      rw [shape, List.length_cons] at space
      split at read
      · cases read
        omega
      split at read
      · split at read
        · have := keyed read
          omega
        · cases read
      split at read
      · have gap := length_skipSpace_le tail
        split at read
        · cases read
        · next shape =>
            rw [shape, List.length_cons] at gap
            split at read
            · have := keyed read
              omega
            split at read
            · cases read
            · cases read
      · cases read

theorem length_readColon {bytes rest : Bytes} (read : readColon bytes = .ok rest) :
    rest.length < bytes.length := by
  have space := length_skipSpace_le bytes
  unfold readColon at read
  split at read
  · cases read
  · next shape =>
      rw [shape, List.length_cons] at space
      split at read
      · cases read
        omega
      · cases read

theorem wrongKind_ne_ok {α : Type} {wanted : String} {first : UInt8} {rest : Bytes} {value : α} :
    wrongKind wanted first rest ≠ .ok value := by
  intro equal
  have never : ∀ {β : Type} {read : Except Fault β} {report : β → Except Fault α},
      (∀ item, report item ≠ .ok value) → read.bind report = .ok value → False := by
    intro β read report fails equal
    cases read with
    | error fault => cases equal
    | ok item => exact fails item equal
  unfold wrongKind at equal
  split at equal
  · exact never (fun _ done => by cases done) equal
  split at equal
  · cases equal
  split at equal
  · cases equal
  split at equal
  · exact never (fun item done => by rcases item with ⟨_ | _, _⟩ <;> cases done) equal
  split at equal
  · exact never (fun item done => by rcases item with ⟨_ | _, _⟩ <;> cases done) equal
  split at equal
  · exact never (fun _ done => by cases done) equal
  split at equal
  · exact never (fun _ done => by cases done) equal
  split at equal
  · exact never (fun _ done => by cases done) equal
  · cases equal

theorem length_readValue {bytes content rest : Bytes}
    (read : readValue bytes = .ok (content, rest)) :
    rest.length < bytes.length := by
  have space := length_skipSpace_le bytes
  unfold readValue at read
  split at read
  · cases read
  · next shape =>
      rw [shape, List.length_cons] at space
      split at read
      · have := length_readText read
        omega
      · exact absurd read wrongKind_ne_ok

theorem length_readMember {found value : Option Bytes} {key bytes rest : Bytes}
    (read : readMember found key bytes = .ok (value, rest)) : rest.length < bytes.length := by
  have colon : ∀ {next : Bytes → Except Fault (Option Bytes × Bytes)},
      (∀ after, next after = .ok (value, rest) → rest.length ≤ after.length) →
      (readColon bytes).bind next = .ok (value, rest) → rest.length < bytes.length := by
    intro next le equal
    cases more : readColon bytes with
    | error fault => rw [more] at equal; cases equal
    | ok after =>
        rw [more] at equal
        exact Nat.lt_of_le_of_lt (le after equal) (length_readColon more)
  unfold readMember at read
  split at read
  · split at read
    · unfold failAfter at read
      split at read <;> cases read
    · refine colon (fun after equal => ?_) read
      cases more : readValue after with
      | error fault => rw [more] at equal; cases equal
      | ok pair =>
          obtain ⟨content, last⟩ := pair
          rw [more] at equal
          cases equal
          exact Nat.le_of_lt (length_readValue more)
  · refine colon (fun after equal => ?_) read
    cases more : skipValue after with
    | error fault => rw [more] at equal; cases equal
    | ok last =>
        rw [more] at equal
        cases equal
        exact length_skipValue more

/-- The content of the field in an object and the bytes after the object, given what follows its
opening brace or one of its members. -/
def readMembers (isFirst : Bool) (found : Option Bytes) (bytes : Bytes) :
    Except Fault (Bytes × Bytes) :=
  match _ : readKey isFirst bytes with
  | .error fault => .error fault
  | .ok (none, rest) =>
      match found with
      | some content => .ok (content, rest)
      | none => failBefore (.missingField fieldName) rest
  | .ok (some key, rest) =>
      match _ : readMember found key rest with
      | .error fault => .error fault
      | .ok (found, rest) => readMembers false found rest
termination_by bytes.length
decreasing_by exact Nat.lt_trans (length_readMember ‹_›) (length_readKey ‹_›)

/-- The bytes after the end of a list whose one element has been read. -/
def readListEnd (bytes : Bytes) : Except Fault Bytes :=
  match skipSpace bytes with
  | [] => failBefore .endInList []
  | next :: rest =>
      if next = listEnd then .ok rest
      else if next = comma then
        match skipSpace rest with
        | after :: rest =>
            failOn (if after = listEnd then .trailingComma else .trailingBytes) (after :: rest)
        | [] => failOn .trailingBytes []
      else failOn .trailingBytes (next :: rest)

/-- The only element of a list and the bytes after the list, given what follows its opening
bracket. -/
def readElement (bytes : Bytes) : Except Fault (Bytes × Bytes) :=
  match skipSpace bytes with
  | [] => failBefore .endInList []
  | first :: rest =>
      if first = listEnd then failBefore (.tooShort (recordName ++ " with 1 element")) rest
      else
        (readValue (first :: rest)).bind fun (content, rest) =>
          (readListEnd rest).map fun rest => (content, rest)

/-- The content of the field in a whole text. -/
def readContent (bytes : Bytes) : Except Fault Bytes :=
  let record : Except Fault (Bytes × Bytes) :=
    match skipSpace bytes with
    | [] => failBefore .endInValue []
    | first :: rest =>
        if first = listStart then readElement rest
        else if first = objectStart then readMembers true none rest
        else wrongKind recordName first rest
  record.bind fun (content, rest) =>
    match skipSpace rest with
    | [] => .ok content
    | next :: rest => failOn .trailingBytes (next :: rest)

/-- The configuration that a JSON text spells. -/
def ofJson? (text : String) : Except Json.Error Launcher :=
  let bytes := Utf8.encode text
  match readContent bytes with
  | .ok content => .ok ⟨Utf8.display content⟩
  | .error fault => .error (fault.locate bytes)

/-- The extension of shortcuts, which are never games. -/
def reservedExtension : String := "miyoocmd"

/-- An item of the list of extensions in lower case, without blanks around it. -/
def normalize (item : List Char) : String :=
  Text.lowercase (String.ofList (Text.trim item))

/-- The accepted extensions in lower case, in ascending order and each once. -/
def extensions (launcher : Launcher) : List String :=
  let items := (launcher.extensionList.toList.splitOn '|').map normalize
  ((items.filter fun item => item != "" && item != reservedExtension).eraseDups).mergeSort
    fun left right => left ≤ right

end Launcher
end CardKeeper

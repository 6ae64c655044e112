import CardKeeper.Json.Number
import CardKeeper.Json.Text

/-!
# Passing over a value of JSON

Fields nobody asks for are checked as JSON and then forgotten.  `skipValue` walks over one value
with the list of brackets that are open, innermost first, so a value may nest as deep as it likes.
-/

namespace CardKeeper
namespace Json

/-- The rest of `null` after its first letter. -/
def ull : Bytes := [0x75, 0x6C, 0x6C]

/-- The rest of `true` after its first letter. -/
def rue : Bytes := [0x72, 0x75, 0x65]

/-- The rest of `false` after its first letter. -/
def alse : Bytes := [0x61, 0x6C, 0x73, 0x65]

/-- The comma. -/
abbrev comma : UInt8 := 0x2C

/-- The colon. -/
abbrev colon : UInt8 := 0x3A

/-- The bracket that opens a list. -/
abbrev listStart : UInt8 := 0x5B

/-- The bracket that closes a list. -/
abbrev listEnd : UInt8 := 0x5D

/-- The brace that opens an object. -/
abbrev objectStart : UInt8 := 0x7B

/-- The brace that closes an object. -/
abbrev objectEnd : UInt8 := 0x7D

/-- What an open bracket holds. -/
inductive Bracket where
  /-- A list. -/
  | list
  /-- An object. -/
  | object
  deriving DecidableEq

namespace Bracket

/-- The byte that closes a bracket. -/
def close : Bracket → UInt8
  | .list => listEnd
  | .object => objectEnd

/-- The problem of a text that ends inside a bracket. -/
def unclosed : Bracket → Problem
  | .list => .endInList
  | .object => .endInObject

/-- The problem of two items that are not set apart. -/
def unseparated : Bracket → Problem
  | .list => .noListSeparator
  | .object => .noObjectSeparator

/-- The bytes from the value of an item on: in an object a key and a colon come first. -/
def skipLabel (bracket : Bracket) (bytes : Bytes) : Except Fault Bytes :=
  match bracket with
  | .list => .ok bytes
  | .object =>
      match skipSpace bytes with
      | [] => failBefore .endInObject []
      | first :: rest =>
          if first = quote then
            (skipText rest).bind fun rest =>
              match skipSpace rest with
              | [] => failBefore .endInObject []
              | next :: rest => if next = colon then .ok rest else failOn .noColon (next :: rest)
          else failOn .noKey (first :: rest)

theorem length_skipLabel {bracket : Bracket} {bytes rest : Bytes}
    (read : bracket.skipLabel bytes = .ok rest) : rest.length ≤ bytes.length := by
  cases bracket with
  | list =>
      cases read
      exact Nat.le_refl _
  | object =>
      have outer := length_skipSpace_le bytes
      simp only [skipLabel] at read
      split at read
      · cases read
      · next first tail shape =>
          rw [shape] at outer
          split at read
          · cases more : skipText tail with
            | error fault => rw [more] at read; cases read
            | ok after =>
                have inner := length_skipText more
                have gap := length_skipSpace_le after
                rw [more] at read
                simp only [Except.bind] at read
                split at read
                · cases read
                · next next last shape =>
                    rw [shape] at gap
                    split at read
                    · cases read
                      simp only [List.length_cons] at *
                      omega
                    · cases read
          · cases read

end Bracket

/-- How a value starts. -/
inductive Start where
  /-- It was whole, and these bytes follow. -/
  | whole (rest : Bytes)
  /-- A bracket opened, and these bytes follow. -/
  | bracket (bracket : Bracket) (rest : Bytes)

/-- The bytes after the start of a value. -/
def Start.rest : Start → Bytes
  | .whole rest => rest
  | .bracket _ rest => rest

/-- The start of a value, given its first byte and the bytes after that. -/
def skipStart (first : UInt8) (rest : Bytes) : Except Fault Start :=
  if first = quote then (skipText rest).map .whole
  else if first = listStart then .ok (.bracket .list rest)
  else if first = objectStart then .ok (.bracket .object rest)
  else if first = minus then (skipNumber rest).map .whole
  else if isDigit first then (skipNumber (first :: rest)).map .whole
  else if first = 0x6E then (readWord ull rest).map .whole
  else if first = 0x74 then (readWord rue rest).map .whole
  else if first = 0x66 then (readWord alse rest).map .whole
  else failOn .noValue (first :: rest)

theorem length_skipStart {first : UInt8} {rest : Bytes} {start : Start}
    (read : skipStart first rest = .ok start) : start.rest.length ≤ rest.length := by
  have whole : ∀ {skipped : Except Fault Bytes},
      (∀ after, skipped = .ok after → after.length ≤ rest.length) →
      skipped.map .whole = .ok start → start.rest.length ≤ rest.length := by
    intro skipped le equal
    cases skipped with
    | error fault => cases equal
    | ok after =>
        cases equal
        exact le after rfl
  unfold skipStart at read
  split at read
  · exact whole (fun after skipped => Nat.le_of_lt (length_skipText skipped)) read
  split at read
  · cases read
    exact Nat.le_refl _
  split at read
  · cases read
    exact Nat.le_refl _
  split at read
  · exact whole (fun after skipped => Nat.le_of_lt (length_skipNumber skipped)) read
  split at read
  · refine whole (fun after skipped => ?_) read
    have := length_skipNumber skipped
    simp only [List.length_cons] at this
    omega
  split at read
  · exact whole (fun after skipped => length_readWord skipped) read
  split at read
  · exact whole (fun after skipped => length_readWord skipped) read
  split at read
  · exact whole (fun after skipped => length_readWord skipped) read
  · cases read

/-- Where a walk over a value stands. -/
inductive Stage where
  /-- Before a value. -/
  | value
  /-- After the start of the innermost bracket. -/
  | opened
  /-- After a value. -/
  | closed
  deriving DecidableEq

/-- How far a stage is from its next value. -/
def Stage.rank : Stage → Nat
  | .value => 0
  | .opened => 1
  | .closed => 1

/-- The bytes after the outermost of the values that are being passed over. -/
def skipFrom (stage : Stage) (brackets : List Bracket) (bytes : Bytes) : Except Fault Bytes :=
  match stage, brackets with
  | .value, brackets =>
      match _ : skipSpace bytes with
      | [] => failBefore .endInValue []
      | first :: rest =>
          match _ : skipStart first rest with
          | .error fault => .error fault
          | .ok (.whole rest) => skipFrom .closed brackets rest
          | .ok (.bracket bracket rest) => skipFrom .opened (bracket :: brackets) rest
  | .opened, [] => .ok bytes
  | .opened, bracket :: brackets =>
      match _ : skipSpace bytes with
      | [] => failBefore bracket.unclosed []
      | next :: rest =>
          if next = bracket.close then skipFrom .closed brackets rest
          else
            match _ : bracket.skipLabel (next :: rest) with
            | .error fault => .error fault
            | .ok rest => skipFrom .value (bracket :: brackets) rest
  | .closed, [] => .ok bytes
  | .closed, bracket :: brackets =>
      match _ : skipSpace bytes with
      | [] => failBefore bracket.unclosed []
      | next :: rest =>
          if next = comma then
            match _ : bracket.skipLabel rest with
            | .error fault => .error fault
            | .ok rest => skipFrom .value (bracket :: brackets) rest
          else if next = bracket.close then skipFrom .closed brackets rest
          else failOn bracket.unseparated (next :: rest)
termination_by (bytes.length, stage.rank)
decreasing_by
  all_goals
    have space := length_skipSpace_le bytes
    simp only [*, List.length_cons] at space
    first
      | have start := length_skipStart ‹_›
        simp only [Start.rest] at start
        exact .left _ _ (by omega)
      | have label := Bracket.length_skipLabel ‹_›
        simp only [List.length_cons] at label
        rcases Nat.lt_or_eq_of_le (Nat.le_trans label space) with less | same
        · exact .left _ _ less
        · rw [same]
          exact .right _ (by decide)
      | have label := Bracket.length_skipLabel ‹_›
        exact .left _ _ (by omega)
      | exact .left _ _ (by omega)

theorem length_skipFrom {stage : Stage} {brackets : List Bracket} {bytes rest : Bytes}
    (read : skipFrom stage brackets bytes = .ok rest) : rest.length ≤ bytes.length := by
  fun_induction skipFrom stage brackets bytes with
  | case1 => cases read
  | case2 => cases read
  | case3 bytes brackets first tail shape after start ih =>
      have space := length_skipSpace_le bytes
      have shorter := length_skipStart start
      have := ih read
      simp only [shape, List.length_cons, Start.rest] at *
      omega
  | case4 bytes brackets first tail shape bracket after start ih =>
      have space := length_skipSpace_le bytes
      have shorter := length_skipStart start
      have := ih read
      simp only [shape, List.length_cons, Start.rest] at *
      omega
  | case5 =>
      cases read
      exact Nat.le_refl _
  | case6 => cases read
  | case7 bytes bracket brackets tail shape ih =>
      have space := length_skipSpace_le bytes
      have := ih read
      simp only [shape, List.length_cons] at *
      omega
  | case8 => cases read
  | case9 bytes bracket brackets next tail shape _ after label ih =>
      have space := length_skipSpace_le bytes
      have shorter := Bracket.length_skipLabel label
      have := ih read
      simp only [shape, List.length_cons] at *
      omega
  | case10 =>
      cases read
      exact Nat.le_refl _
  | case11 => cases read
  | case12 => cases read
  | case13 bytes bracket brackets tail after label shape ih =>
      have space := length_skipSpace_le bytes
      have shorter := Bracket.length_skipLabel label
      have := ih read
      simp only [shape, List.length_cons] at *
      omega
  | case14 bytes bracket brackets tail shape _ ih =>
      have space := length_skipSpace_le bytes
      have := ih read
      simp only [shape, List.length_cons] at *
      omega
  | case15 => cases read

/-- The bytes after a value. -/
def skipValue (bytes : Bytes) : Except Fault Bytes :=
  skipFrom .value [] bytes

theorem length_skipValue {bytes rest : Bytes} (read : skipValue bytes = .ok rest) :
    rest.length ≤ bytes.length :=
  length_skipFrom read

end Json
end CardKeeper

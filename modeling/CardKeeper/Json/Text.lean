import CardKeeper.Json.Fault

/-!
# Space, words and strings of JSON

`readText` gives the content of a string with its escapes resolved.  `skipText` passes over a
string whose content nobody wants: it checks the spelling of escapes but lets surrogates stand
alone.  Both start after the opening quote and hand on what follows the closing one, which is
shorter than what they were given.
-/

namespace CardKeeper
namespace Json

/-- The byte around strings. -/
abbrev quote : UInt8 := 0x22

/-- The byte that starts an escape. -/
abbrev backslash : UInt8 := 0x5C

/-- Whether a byte is white space. -/
def isSpace (byte : UInt8) : Bool :=
  byte == 0x20 || byte == 0x09 || byte == newline || byte == 0x0D

/-- The bytes after leading white space. -/
def skipSpace (bytes : Bytes) : Bytes :=
  bytes.dropWhile isSpace

theorem length_skipSpace_le (bytes : Bytes) : (skipSpace bytes).length ≤ bytes.length :=
  (List.dropWhile_suffix isSpace).length_le

/-- The bytes after a word. -/
def readWord : Bytes → Bytes → Except Fault Bytes
  | [], rest => .ok rest
  | _ :: _, [] => failBefore .endInValue []
  | wanted :: word, byte :: rest =>
      if byte = wanted then readWord word rest else failBefore .unknownWord rest

theorem length_readWord {word bytes rest : Bytes} (read : readWord word bytes = .ok rest) :
    rest.length ≤ bytes.length := by
  induction word generalizing bytes with
  | nil =>
      cases read
      exact Nat.le_refl _
  | cons wanted word ih =>
      cases bytes with
      | nil => cases read
      | cons byte bytes =>
          simp only [readWord] at read
          split at read
          · exact Nat.le_succ_of_le (ih read)
          · cases read

/-- The value of a hexadecimal digit. -/
def hexValue? (byte : UInt8) : Option Nat :=
  if 0x30 ≤ byte ∧ byte ≤ 0x39 then some (byte.toNat - 0x30)
  else if 0x61 ≤ byte ∧ byte ≤ 0x66 then some (byte.toNat - 0x61 + 10)
  else if 0x41 ≤ byte ∧ byte ≤ 0x46 then some (byte.toNat - 0x41 + 10)
  else none

/-- The number that four hexadecimal digits spell. -/
def hexUnit (bytes : Bytes) : Except Fault (Nat × Bytes) :=
  match bytes with
  | first :: second :: third :: fourth :: rest =>
      match hexValue? first, hexValue? second, hexValue? third, hexValue? fourth with
      | some a, some b, some c, some d => .ok (((a * 16 + b) * 16 + c) * 16 + d, rest)
      | _, _, _, _ => failBefore .badEscape rest
  | _ => failBefore .endInText []

/-- The character that an escape of one letter stands for. -/
def shortEscape? (letter : UInt8) : Option Char :=
  if letter = quote then some '"'
  else if letter = backslash then some '\\'
  else if letter = 0x2F then some '/'
  else if letter = 0x62 then some '\x08'
  else if letter = 0x66 then some '\x0C'
  else if letter = 0x6E then some '\n'
  else if letter = 0x72 then some '\r'
  else if letter = 0x74 then some '\t'
  else none

/-- Whether a number is the first half of a surrogate pair. -/
def isLeading (unit : Nat) : Bool :=
  0xD800 ≤ unit && unit ≤ 0xDBFF

/-- Whether a number is the second half of a surrogate pair. -/
def isTrailing (unit : Nat) : Bool :=
  0xDC00 ≤ unit && unit ≤ 0xDFFF

/-- The second half of a surrogate pair, which must be an escape of its own. -/
def trailingUnit (bytes : Bytes) : Except Fault (Nat × Bytes) :=
  match bytes with
  | [] => failBefore .endInText []
  | first :: rest =>
      if first = backslash then
        match rest with
        | [] => failBefore .endInText []
        | second :: rest =>
            if second = 0x75 then
              (hexUnit rest).bind fun (unit, rest) =>
                if isTrailing unit then .ok (unit, rest) else failBefore .loneSurrogate rest
            else failBefore .brokenPair rest
      else failBefore .brokenPair rest

/-- The character that an escape by code point stands for. -/
def numericEscape (bytes : Bytes) : Except Fault (Char × Bytes) :=
  (hexUnit bytes).bind fun (unit, rest) =>
    if isTrailing unit then failBefore .loneSurrogate rest
    else if isLeading unit then
      (trailingUnit rest).bind fun (second, rest) =>
        .ok (Char.ofNat ((unit - 0xD800) * 0x400 + (second - 0xDC00) + 0x10000), rest)
    else .ok (Char.ofNat unit, rest)

/-- The character that an escape stands for, given what follows the backslash. -/
def readEscape (bytes : Bytes) : Except Fault (Char × Bytes) :=
  match bytes with
  | [] => failBefore .endInText []
  | letter :: rest =>
      if letter = 0x75 then numericEscape rest
      else
        match shortEscape? letter with
        | some character => .ok (character, rest)
        | none => failBefore .badEscape rest

/-- The bytes after an escape whose spelling alone is checked. -/
def skipEscape (bytes : Bytes) : Except Fault Bytes :=
  match bytes with
  | [] => failBefore .endInText []
  | letter :: rest =>
      if letter = 0x75 then (hexUnit rest).map (·.2)
      else if (shortEscape? letter).isSome then .ok rest
      else failBefore .badEscape rest

theorem length_hexUnit {bytes rest : Bytes} {unit : Nat}
    (read : hexUnit bytes = .ok (unit, rest)) : rest.length < bytes.length := by
  unfold hexUnit at read
  split at read
  · split at read
    · cases read
      simp only [List.length_cons]
      omega
    · cases read
  · cases read

theorem length_trailingUnit {bytes rest : Bytes} {unit : Nat}
    (read : trailingUnit bytes = .ok (unit, rest)) : rest.length < bytes.length := by
  unfold trailingUnit at read
  split at read
  · cases read
  · split at read
    · split at read
      · cases read
      · split at read
        · cases unitRead : hexUnit _ with
          | error fault => rw [unitRead] at read; cases read
          | ok pair =>
              obtain ⟨second, after⟩ := pair
              rw [unitRead] at read
              simp only [Except.bind] at read
              split at read
              · cases read
                have := length_hexUnit unitRead
                simp only [List.length_cons]
                omega
              · cases read
        · cases read
    · cases read

theorem length_readEscape {bytes rest : Bytes} {character : Char}
    (read : readEscape bytes = .ok (character, rest)) : rest.length < bytes.length := by
  unfold readEscape at read
  split at read
  · cases read
  · split at read
    · unfold numericEscape at read
      cases unitRead : hexUnit _ with
      | error fault => rw [unitRead] at read; cases read
      | ok pair =>
          obtain ⟨unit, after⟩ := pair
          have shorter := length_hexUnit unitRead
          rw [unitRead] at read
          simp only [Except.bind] at read
          split at read
          · cases read
          · split at read
            · cases secondRead : trailingUnit after with
              | error fault => rw [secondRead] at read; cases read
              | ok pair =>
                  obtain ⟨second, last⟩ := pair
                  have := length_trailingUnit secondRead
                  simp only [secondRead, Except.ok.injEq, Prod.mk.injEq] at read
                  obtain ⟨-, rfl⟩ := read
                  simp only [List.length_cons]
                  omega
            · simp only [Except.ok.injEq, Prod.mk.injEq] at read
              obtain ⟨-, rfl⟩ := read
              simp only [List.length_cons]
              omega
    · split at read
      · cases read
        simp
      · cases read

theorem length_skipEscape {bytes rest : Bytes} (read : skipEscape bytes = .ok rest) :
    rest.length < bytes.length := by
  unfold skipEscape at read
  split at read
  · cases read
  · split at read
    · cases unitRead : hexUnit _ with
      | error fault => rw [unitRead] at read; cases read
      | ok pair =>
          obtain ⟨unit, after⟩ := pair
          have := length_hexUnit unitRead
          rw [unitRead] at read
          cases read
          simp only [List.length_cons]
          omega
    · split at read
      · cases read
        simp
      · cases read

/-- The content of a string in bytes, and the bytes after its closing quote. -/
def readText (bytes : Bytes) : Except Fault (Bytes × Bytes) :=
  match bytes with
  | [] => failBefore .endInText []
  | byte :: rest =>
      if byte = quote then .ok ([], rest)
      else if byte = backslash then
        match _ : readEscape rest with
        | .error fault => .error fault
        | .ok (character, after) =>
            (readText after).map fun (content, rest) =>
              (String.utf8EncodeChar character ++ content, rest)
      else if byte < 0x20 then failBefore .controlByte rest
      else (readText rest).map fun (content, rest) => (byte :: content, rest)
termination_by bytes.length
decreasing_by
  · have := length_readEscape ‹_›
    simp only [List.length_cons]
    omega
  · simp

/-- The bytes after the closing quote of a string whose content nobody wants. -/
def skipText (bytes : Bytes) : Except Fault Bytes :=
  match bytes with
  | [] => failBefore .endInText []
  | byte :: rest =>
      if byte = quote then .ok rest
      else if byte = backslash then
        match _ : skipEscape rest with
        | .error fault => .error fault
        | .ok after => skipText after
      else if byte < 0x20 then failBefore .controlByte (byte :: rest)
      else skipText rest
termination_by bytes.length
decreasing_by
  · have := length_skipEscape ‹_›
    simp only [List.length_cons]
    omega
  · simp

theorem length_readText {bytes content rest : Bytes}
    (read : readText bytes = .ok (content, rest)) : rest.length < bytes.length := by
  fun_induction readText bytes generalizing content rest with
  | case1 => cases read
  | case2 =>
      cases read
      simp
  | case3 => cases read
  | case4 tail character after escape _ ih =>
      have shorter := length_readEscape escape
      cases more : readText after with
      | error fault => rw [more] at read; cases read
      | ok pair =>
          obtain ⟨inner, last⟩ := pair
          have := ih more
          rw [more] at read
          cases read
          simp only [List.length_cons]
          omega
  | case5 => cases read
  | case6 byte tail _ _ _ ih =>
      cases more : readText tail with
      | error fault => rw [more] at read; cases read
      | ok pair =>
          obtain ⟨inner, last⟩ := pair
          have := ih more
          rw [more] at read
          cases read
          simp only [List.length_cons]
          omega

theorem length_skipText {bytes rest : Bytes} (read : skipText bytes = .ok rest) :
    rest.length < bytes.length := by
  fun_induction skipText bytes with
  | case1 => cases read
  | case2 =>
      cases read
      simp
  | case3 => cases read
  | case4 tail after escape _ ih =>
      have := length_skipEscape escape
      have := ih read
      simp only [List.length_cons]
      omega
  | case5 => cases read
  | case6 byte tail _ _ _ ih =>
      have := ih read
      simp only [List.length_cons]
      omega

end Json
end CardKeeper

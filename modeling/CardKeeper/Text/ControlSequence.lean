import CardKeeper.Text.Utf8

/-!
# Control sequences

What the program tells is plain text, even where the name of a file holds characters that would
steer a terminal.  A control sequence starts with an escape character; how it goes on, and where it
ends, follows the usual automaton of terminals.  `plain` drops such sequences and all control
characters except blanks: what it keeps is visible (`isVisible_of_mem_plainFrom`), and visible text
is kept whole (`plainFrom_of_visible`), so a second pass changes nothing (`plain_plain`).
-/

namespace CardKeeper
namespace Text

/-- What a reader of text is in the middle of. -/
inductive Sequence where
  /-- Plain text. -/
  | none
  /-- A sequence of which only the escape character has been read. -/
  | escape
  /-- A short sequence, before its last character. -/
  | short
  /-- A sequence with parameters, before its last character. -/
  | control
  /-- A command to the system around the terminal. -/
  | system
  /-- The start of a command to a device. -/
  | device
  /-- The parameters of a command to a device. -/
  | parameters
  /-- What follows the parameters of a command to a device. -/
  | middle
  /-- A string that is addressed to nobody here. -/
  | string
  deriving DecidableEq

/-- Whether a character is a blank that also suspends most sequences. -/
def isPlainBlank (character : Char) : Bool :=
  character = '\t' || character = '\n' || character = '\x0c' || character = '\r'

/-- Whether plain text may hold a character. -/
def isVisible (character : Char) : Bool :=
  (' ' ≤ character && character ≠ '\x7f') || isPlainBlank character

/-- Whether one of the bytes of a character ends a string. -/
def endsString (character : Char) : Bool :=
  (String.utf8EncodeChar character).contains 0x9C

namespace Sequence

/-- Whether a character lies between two others. -/
def between (first last character : Char) : Bool :=
  first ≤ character && character ≤ last

/-- What the second character of a sequence starts. -/
def afterEscape (character : Char) : Sequence :=
  if character = '[' then .control
  else if character = ']' then .system
  else if character = 'P' then .device
  else if character = 'X' || character = '^' || character = '_' then .string
  else if between ' ' '/' character then .short
  else if between '0' '~' character then .none
  else .escape

/-- What comes after a character inside of a sequence. -/
def next (sequence : Sequence) (character : Char) : Sequence :=
  match sequence with
  | .none => .none
  | .escape => afterEscape character
  | .short => if between '0' '~' character then .none else .short
  | .control => if between '@' '~' character then .none else .control
  | .system => if character = '\x07' then .none else .system
  | .device =>
      if between '@' '~' character then .string
      else if between '0' '?' character then .parameters
      else if between ' ' '/' character then .middle
      else .device
  | .parameters =>
      if between '@' '~' character || between '<' '?' character then .string
      else if between ' ' '/' character then .middle
      else .parameters
  | .middle =>
      if between '@' '~' character || between '0' '?' character then .string else .middle
  | .string => if endsString character then .none else .string

/-- Whether a blank suspends a sequence and is shown. -/
def yieldsToBlank : Sequence → Bool
  | .none | .escape | .short | .control => true
  | _ => false

end Sequence

/-- How far a reader of text has come. -/
structure Reading where
  /-- The sequence that has not ended. -/
  sequence : Sequence
  /-- Whether plain text comes between, which a blank has started. -/
  suspended : Bool
  deriving DecidableEq

namespace Reading

/-- Outside of all sequences. -/
def outside : Reading := ⟨.none, false⟩

/-- How far a reader has come after a character, and whether the character is shown.  Plain text
inside of a sequence goes on until a control character; a character of several bytes ends the
sequence for good. -/
def step (reading : Reading) (character : Char) : Reading × Bool :=
  if character = '\x1b' then (⟨.escape, false⟩, false)
  else if character = '\x18' || character = '\x1a' then (outside, false)
  else if reading.suspended || reading.sequence = .none then
    if !isVisible character then (⟨reading.sequence, false⟩, false)
    else if 0x7F < character.toNat then (outside, true)
    else (reading, true)
  else if isPlainBlank character && reading.sequence.yieldsToBlank then
    (⟨reading.sequence, true⟩, true)
  else (⟨reading.sequence.next character, false⟩, false)

theorem isVisible_of_step {reading : Reading} {character : Char}
    (shown : (reading.step character).2 = true) : isVisible character = true := by
  unfold step at shown
  split at shown
  · exact absurd shown (by decide)
  split at shown
  · exact absurd shown (by decide)
  split at shown
  · split at shown
    · exact Bool.noConfusion shown
    · next visible => simpa using visible
  split at shown
  · next blank =>
      rw [Bool.and_eq_true] at blank
      simp [isVisible, blank.1]
  · exact Bool.noConfusion shown

theorem step_outside {character : Char} (visible : isVisible character = true) :
    outside.step character = (outside, true) := by
  have plain : ∀ other : Char, isVisible other = false → character ≠ other :=
    fun other hidden same => by rw [same, hidden] at visible; exact absurd visible (by decide)
  have outer : (outside.suspended || decide (outside.sequence = .none)) = true := rfl
  unfold step
  rw [if_neg (plain '\x1b' (by decide)), if_neg, if_pos outer, if_neg (by simp [visible])]
  · exact ite_self _
  · simp [plain '\x18' (by decide), plain '\x1a' (by decide)]

end Reading

/-- The characters that are shown, given how far the reader has come. -/
def plainFrom (reading : Reading) : List Char → List Char
  | [] => []
  | character :: rest =>
      let (next, shown) := reading.step character
      if shown then character :: plainFrom next rest else plainFrom next rest

/-- A text without control sequences and control characters. -/
def plain (text : String) : String :=
  String.ofList (plainFrom .outside text.toList)

theorem isVisible_of_mem_plainFrom {characters : List Char} {reading : Reading}
    {character : Char} (member : character ∈ plainFrom reading characters) :
    isVisible character = true := by
  induction characters generalizing reading with
  | nil => exact absurd member List.not_mem_nil
  | cons first rest ih =>
      simp only [plainFrom] at member
      split at member
      · next shown =>
          rcases List.mem_cons.mp member with rfl | member
          · exact Reading.isVisible_of_step shown
          · exact ih member
      · exact ih member

theorem plainFrom_append_of_visible {characters : List Char}
    (visible : ∀ character ∈ characters, isVisible character = true) (rest : List Char) :
    plainFrom .outside (characters ++ rest) = characters ++ plainFrom .outside rest := by
  induction characters with
  | nil => rfl
  | cons first more ih =>
      obtain ⟨here, there⟩ := List.forall_mem_cons.mp visible
      simp [plainFrom, Reading.step_outside here, ih there]

theorem plainFrom_of_visible {characters : List Char}
    (visible : ∀ character ∈ characters, isVisible character = true) :
    plainFrom .outside characters = characters := by
  simpa [plainFrom] using plainFrom_append_of_visible visible []

/-- Visible text stays at the front. -/
theorem plain_append_of_visible {text : String}
    (visible : ∀ character ∈ text.toList, isVisible character = true) (rest : String) :
    plain (text ++ rest) = text ++ plain rest := by
  rw [plain, String.toList_append, plainFrom_append_of_visible visible, String.ofList_append,
    String.ofList_toList, plain]

theorem plain_plain (text : String) : plain (plain text) = plain text := by
  have visible : ∀ character ∈ (plain text).toList, isVisible character = true := by
    intro character member
    exact isVisible_of_mem_plainFrom (by simpa [plain] using member)
  rw [plain, plainFrom_of_visible visible]
  simp

end Text
end CardKeeper

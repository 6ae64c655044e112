import Mathlib
import CardKeeper.Toml.Printer

/-!
# Reading strings that were written

Each of the four ways to write a string is read back by its own reader, as long as what follows does
not go on with the string's delimiter: `anyText?_writeText`.  Over several lines the delimiter may
stand in the content, but never three times in a row.
-/

namespace CardKeeper
namespace Toml

variable {character : Char} {content rest more : List Char}

/-! ## Escapes -/

theorem hexValue?_digit {value : ℕ} (small : value < 16) :
    hexValue? (Nat.digitChar value).toUpper = some value := by
  have all : ∀ value : Fin 16, hexValue? (Nat.digitChar value).toUpper = some value.val := by
    decide
  exact all ⟨value, small⟩

/-- An escape by code point is read back. -/
theorem escape?_code (low : character.toNat < 0x80) (more : List Char) :
    escape? ('u' :: '0' :: '0' :: (Nat.digitChar (character.toNat / 16)).toUpper ::
      (Nat.digitChar (character.toNat % 16)).toUpper :: more) = some (character, more) := by
  have zero : hexValue? '0' = some 0 := by decide
  have high := hexValue?_digit (by omega : character.toNat / 16 < 16)
  have unit := hexValue?_digit (by omega : character.toNat % 16 < 16)
  have code : ((0 * 16 + 0) * 16 + 0) * 16 + character.toNat / 16 = character.toNat / 16 := by
    omega
  have whole : character.toNat / 16 * 16 + character.toNat % 16 = character.toNat := by omega
  have valid : character.toNat.isValidChar := .inl (by omega)
  simp only [escape?, if_true, numericEscape?, hexNumber?, zero, high, unit, Option.bind_some, code,
    whole, scalar?, valid, Char.ofNat_toNat, Option.map_some]

/-- A character other than a quote is written as itself, with an escape, or, over several lines, as
the end of a line. -/
theorem escapedCharacter_cases (block : Bool) (unquoted : character ≠ quote) :
    (escapedCharacter block character = [character] ∧ isPlain character = true ∧
        character ≠ backslash) ∨
      (∃ letter spelled, escapedCharacter block character = backslash :: letter :: spelled ∧
        letter ∈ ['b', 't', 'n', 'f', 'r', backslash, 'u'] ∧
          ∀ more, escape? (letter :: (spelled ++ more)) = some (character, more)) ∨
      (block = true ∧ character = '\n' ∧ escapedCharacter block character = ['\n']) := by
  by_cases backspace : character = '\x08'
  · subst backspace
    exact .inr (.inl ⟨'b', [], rfl, by simp, fun _ => rfl⟩)
  by_cases tab : character = '\t'
  · subst tab
    exact .inr (.inl ⟨'t', [], rfl, by simp, fun _ => rfl⟩)
  by_cases line : character = '\n'
  · subst line
    cases block with
    | true => exact .inr (.inr ⟨rfl, rfl, rfl⟩)
    | false => exact .inr (.inl ⟨'n', [], rfl, by simp, fun _ => rfl⟩)
  by_cases page : character = '\x0C'
  · subst page
    exact .inr (.inl ⟨'f', [], rfl, by simp, fun _ => rfl⟩)
  by_cases returns : character = '\r'
  · subst returns
    exact .inr (.inl ⟨'r', [], rfl, by simp, fun _ => rfl⟩)
  by_cases slash : character = backslash
  · subst slash
    exact .inr (.inl ⟨backslash, [], rfl, by simp, fun _ => rfl⟩)
  by_cases control : character < ' ' ∨ character = '\x7F'
  · have low : character.toNat < 0x80 := by
      rcases control with below | rfl
      · have below : character.toNat < 0x20 := below
        omega
      · decide
    refine .inr (.inl ⟨'u', ['0', '0', (Nat.digitChar (character.toNat / 16)).toUpper,
      (Nat.digitChar (character.toNat % 16)).toUpper], ?_, by simp, escape?_code low⟩)
    simp only [escapedCharacter, backspace, tab, line, page, returns, slash, control, if_false,
      if_true]
  · refine .inl ⟨?_, ?_, slash⟩
    · simp only [escapedCharacter, backspace, tab, line, page, returns, slash, control, if_false]
    · rw [not_or, Char.not_lt] at control
      simp [isPlain, control.1, control.2]

/-! ## Strings on one line -/

theorem basicText?_plain (unquoted : character ≠ quote) (unescaped : character ≠ backslash)
    (plain : isPlain character = true) (read : basicText? rest = some (content, more)) :
    basicText? (character :: rest) = some (character :: content, more) := by
  rw [basicText?, if_neg unquoted, if_neg unescaped, if_pos plain, read]
  rfl

theorem basicText?_escape {spelled : List Char} (escape : escape? spelled = some (character, rest))
    (read : basicText? rest = some (content, more)) :
    basicText? (backslash :: spelled) = some (character :: content, more) := by
  rw [basicText?, if_neg (by decide), if_pos rfl]
  split
  · next failed =>
      rw [escape] at failed
      cases failed
  · next again =>
      rw [escape] at again
      cases again
      rw [read]
      rfl

/-- A string on one line with escapes is read back. -/
theorem basicText?_written (content rest : List Char) :
    basicText? (escapedContent false 0 content ++ quote :: rest) = some (content, rest) := by
  induction content with
  | nil => rw [escapedContent, List.nil_append, basicText?, if_pos rfl]
  | cons character content ih =>
      by_cases quoted : character = quote
      · subst quoted
        exact basicText?_escape rfl ih
      · rw [escapedContent, if_neg quoted, List.append_assoc]
        rcases escapedCharacter_cases false quoted with
          ⟨shape, plain, unescaped⟩ | ⟨letter, spelled, shape, -, escape⟩ | ⟨never, -⟩
        · rw [shape]
          exact basicText?_plain quoted unescaped plain ih
        · rw [shape]
          exact basicText?_escape (escape _) ih
        · cases never

/-- A string on one line without escapes is read back. -/
theorem literalText?_written (plain : ∀ character ∈ content, isPlain character = true)
    (free : apostrophe ∉ content) (rest : List Char) :
    literalText? (content ++ apostrophe :: rest) = some (content, rest) := by
  induction content with
  | nil => rfl
  | cons character content ih =>
      rw [List.mem_cons, not_or] at free
      rw [List.cons_append, literalText?, if_neg (Ne.symm free.1),
        if_pos (plain character List.mem_cons_self),
        ih (fun other member => plain other (List.mem_cons_of_mem _ member)) free.2]
      rfl

/-! ## Strings over several lines -/

/-- What follows a string does not start like its delimiter. -/
def Stops (delimiter : Char) (rest : List Char) : Prop :=
  rest.head? ≠ some delimiter

theorem closing_stops {delimiter : Char} (stops : Stops delimiter rest) (count : ℕ)
    (few : count ≤ 2) :
    closing delimiter (List.replicate count delimiter ++ rest) =
      (List.replicate count delimiter, rest) := by
  have none : rest.takeWhile (· == delimiter) = [] := by
    cases rest with
    | nil => rfl
    | cons first rest =>
        have differs : first ≠ delimiter := fun same => stops (same ▸ rfl)
        simp [differs]
  have extra : ((List.replicate count delimiter ++ rest).takeWhile (· == delimiter)).take 2 =
      List.replicate count delimiter := by
    rw [List.takeWhile_append_of_pos (by simp), none, List.append_nil, List.take_of_length_le]
    simpa using few
  rw [closing, extra, List.length_replicate]
  simp

theorem closes_iff (delimiter : Char) (characters : List Char) :
    closes delimiter characters = true ↔ ∃ rest, characters = delimiter :: delimiter :: rest := by
  match characters with
  | [] => simp [closes]
  | [first] => simp [closes]
  | first :: second :: rest => simp [closes]

theorem basicBlock?_plain (goesOn : (character == quote && closes quote rest) = false)
    (unescaped : character ≠ backslash) (plain : isPlain character = true)
    (read : basicBlock? rest = some (content, more)) :
    basicBlock? (character :: rest) = some (character :: content, more) := by
  rw [basicBlock?, if_neg (by simpa using goesOn), if_neg unescaped, if_pos plain, read]
  rfl

theorem not_closing {delimiter other : Char} (differs : other ≠ delimiter)
    (characters : List Char) : ¬(other = delimiter && closes delimiter characters) = true := by
  simp [differs]

theorem basicBlock?_line (read : basicBlock? rest = some (content, more)) :
    basicBlock? ('\n' :: rest) = some ('\n' :: content, more) := by
  rw [basicBlock?, if_neg (not_closing (by decide) _), if_neg (by decide), if_neg (by decide)]
  split
  · next failed => cases failed
  · next again =>
      cases again
      rw [read]
      rfl

theorem basicBlock?_escape {letter : Char} {spelled : List Char}
    (inside : letter ∈ ['b', 't', 'n', 'f', 'r', backslash, 'u', quote])
    (escape : escape? (letter :: spelled) = some (character, rest))
    (read : basicBlock? rest = some (content, more)) :
    basicBlock? (backslash :: letter :: spelled) = some (character :: content, more) := by
  have unfolded : lineFold? (letter :: spelled) = none := by
    simp only [List.mem_cons, List.not_mem_nil, or_false] at inside
    rcases inside with rfl | rfl | rfl | rfl | rfl | rfl | rfl | rfl <;> rfl
  rw [basicBlock?, if_neg (not_closing (by decide) _), if_pos rfl]
  split
  · next folded =>
      rw [unfolded] at folded
      cases folded
  · split
    · next failed =>
        rw [escape] at failed
        cases failed
    · next again =>
        rw [escape] at again
        cases again
        rw [read]
        rfl

/-- Only a quote that is not escaped is written as a quote. -/
theorem head_escapedContent {block : Bool} {quotes : ℕ}
    (other : character ≠ quote ∨ (if block then 2 else 0) ≤ quotes) (content : List Char) :
    ∃ first tail, escapedContent block quotes (character :: content) = first :: tail ∧
      first ≠ quote := by
  by_cases quoted : character = quote
  · have escaped := other.resolve_left (not_not_intro quoted)
    refine ⟨backslash, quote :: escapedContent block 0 content, ?_, by decide⟩
    rw [escapedContent, if_pos quoted, if_neg (Nat.not_lt.mpr escaped)]
  · rw [escapedContent, if_neg quoted]
    rcases escapedCharacter_cases block quoted with
      ⟨shape, -⟩ | ⟨letter, spelled, shape, -⟩ | ⟨-, rfl, shape⟩
    · exact ⟨character, _, by rw [shape]; rfl, quoted⟩
    · exact ⟨backslash, _, by rw [shape]; rfl, by decide⟩
    · exact ⟨'\n', _, by rw [shape]; rfl, by decide⟩

/-- After a quote as it is, two more of them only stand where the string ends. -/
theorem of_closes_escapedContent {quotes : ℕ} (some : 1 ≤ quotes) {tail : List Char}
    (closed : closes quote (escapedContent true quotes content ++ tail) = true) :
    content = [] ∨ content = [quote] ∧ quotes = 1 := by
  obtain ⟨rest, shape⟩ := (closes_iff quote _).mp closed
  have apart {character : Char} {content more rest : List Char} {quotes : ℕ}
      (shape : escapedContent true quotes (character :: content) ++ more = quote :: rest) :
      character = quote ∧ quotes < 2 := by
    by_contra other
    rw [not_and_or, Nat.not_lt] at other
    obtain ⟨first, _, same, differs⟩ := @head_escapedContent _ true _ other content
    rw [same] at shape
    cases shape
    exact differs rfl
  match content with
  | [] => exact .inl rfl
  | first :: content =>
      obtain ⟨rfl, few⟩ := apart shape
      have one : quotes = 1 := by omega
      subst one
      match content with
      | [] => exact .inr ⟨rfl, rfl⟩
      | second :: content =>
          rw [escapedContent, if_pos rfl, if_pos (by decide), List.cons_append] at shape
          have two := (apart (List.cons.inj shape).2).2
          contradiction

/-- A string over several lines with escapes is read back.  So many quotes have just been read. -/
theorem basicBlock?_written (content : List Char) {quotes : ℕ} (few : quotes ≤ 2)
    (stops : Stops quote rest) :
    basicBlock? (escapedContent true quotes content ++ quote :: quote :: quote :: rest) =
      some (content, rest) := by
  induction content generalizing quotes with
  | nil =>
      have closed := closing_stops stops 0 (by omega)
      rw [escapedContent, List.nil_append, basicBlock?, if_pos (by simp [closes])]
      exact congrArg some closed
  | cons character content ih =>
      by_cases quoted : character = quote
      · subst quoted
        rw [escapedContent, if_pos rfl]
        by_cases third : quotes < 2
        · rw [if_pos (by simpa using third), List.cons_append]
          by_cases closed : closes quote (escapedContent true (quotes + 1) content ++
              quote :: quote :: quote :: rest) = true
          · -- The string ends here, and its last quotes belong to the closing ones.
            rcases of_closes_escapedContent (Nat.le_add_left 1 quotes) closed with
              rfl | ⟨rfl, one⟩
            · rw [basicBlock?, if_pos (by simpa using closed)]
              exact congrArg some (closing_stops stops 1 (by decide))
            · rw [one] at closed ⊢
              rw [basicBlock?, if_pos (by simpa using closed)]
              exact congrArg some (closing_stops stops 2 (by decide))
          · exact basicBlock?_plain (by simpa using closed) (by decide) (by decide) (ih (by omega))
        · rw [if_neg (by simpa using third)]
          exact basicBlock?_escape (by simp) rfl (ih (by omega))
      · rw [escapedContent, if_neg quoted, List.append_assoc]
        rcases escapedCharacter_cases true quoted with
          ⟨shape, plain, unescaped⟩ | ⟨letter, spelled, shape, inside, escape⟩ | ⟨-, rfl, shape⟩
        · rw [shape]
          exact basicBlock?_plain (by simp [quoted]) unescaped plain (ih (by omega))
        · rw [shape]
          refine basicBlock?_escape ?_ (escape _) (ih (by omega))
          simp only [List.mem_cons, List.not_mem_nil, or_false] at inside ⊢
          tauto
        · rw [shape]
          exact basicBlock?_line (ih (by omega))

theorem literalBlock?_plain
    (goesOn : (character == apostrophe && closes apostrophe rest) = false)
    (plain : isPlain character = true) (read : literalBlock? rest = some (content, more)) :
    literalBlock? (character :: rest) = some (character :: content, more) := by
  rw [literalBlock?, if_neg (by simpa using goesOn), if_pos plain, read]
  rfl

theorem literalBlock?_line (read : literalBlock? rest = some (content, more)) :
    literalBlock? ('\n' :: rest) = some ('\n' :: content, more) := by
  rw [literalBlock?, if_neg (not_closing (by decide) _), if_neg (by decide)]
  split
  · next failed => cases failed
  · next again =>
      cases again
      rw [read]
      rfl

/-- The longest run is not shorter than the first one, nor than those in the rest. -/
theorem longestRun_cons_le {wanted : Char} {run bound : ℕ}
    (short : longestRun wanted run (character :: content) ≤ bound) :
    longestRun wanted (if character = wanted then run + 1 else 0) content ≤ bound := by
  rw [longestRun] at short
  split
  · next same => rwa [if_pos same] at short
  · next differs =>
      rw [if_neg differs] at short
      exact Nat.le_trans (Nat.le_max_right _ _) short

theorem le_longestRun (wanted : Char) (run : ℕ) (content : List Char) :
    run ≤ longestRun wanted run content := by
  induction content generalizing run with
  | nil => exact Nat.le_refl _
  | cons character content ih =>
      rw [longestRun]
      split
      · exact Nat.le_trans (Nat.le_succ run) (ih (run + 1))
      · exact Nat.le_max_left _ _

/-- After an apostrophe, two more of them only stand where the string ends. -/
theorem of_closes_literal {run : ℕ}
    (short : longestRun apostrophe run (apostrophe :: content) ≤ 2) {tail : List Char}
    (closed : closes apostrophe (content ++ tail) = true) :
    content = [] ∨ content = [apostrophe] := by
  obtain ⟨rest, shape⟩ := (closes_iff apostrophe _).mp closed
  match content with
  | [] => exact .inl rfl
  | [first] =>
      cases shape
      exact .inr rfl
  | first :: second :: content =>
      cases shape
      have three := le_longestRun apostrophe (run + 1 + 1 + 1) content
      simp only [longestRun, if_true] at short
      omega

/-- A string over several lines without escapes is read back.  So many apostrophes have just been
read. -/
theorem literalBlock?_written {content : List Char} {run : ℕ}
    (plain : ∀ character ∈ content, isPlain character = true ∨ character = '\n')
    (short : longestRun apostrophe run content ≤ 2) (stops : Stops apostrophe rest) :
    literalBlock? (content ++ apostrophe :: apostrophe :: apostrophe :: rest) =
      some (content, rest) := by
  induction content generalizing run with
  | nil =>
      have closed := closing_stops stops 0 (by omega)
      rw [List.nil_append, literalBlock?, if_pos (by simp [closes])]
      exact congrArg some closed
  | cons character content ih =>
      have later := longestRun_cons_le short
      have read := ih (fun other member => plain other (List.mem_cons_of_mem _ member)) later
      rw [List.cons_append]
      by_cases delimiter : character = apostrophe
      · subst delimiter
        by_cases closed : closes apostrophe
            (content ++ apostrophe :: apostrophe :: apostrophe :: rest) = true
        · -- The string ends here, and its last apostrophes belong to the closing ones.
          rcases of_closes_literal short closed with rfl | rfl
          · rw [literalBlock?, if_pos (by simpa using closed)]
            exact congrArg some (closing_stops stops 1 (by decide))
          · rw [literalBlock?, if_pos (by simpa using closed)]
            exact congrArg some (closing_stops stops 2 (by decide))
        · exact literalBlock?_plain (by simpa using closed) (by decide) read
      · rcases plain character List.mem_cons_self with alone | rfl
        · exact literalBlock?_plain (by simp [delimiter]) alone read
        · exact literalBlock?_line read

/-! ## Strings of any kind -/

theorem newline?_cons (noFeed : character ≠ '\n') (noReturn : character ≠ '\r')
    (rest : List Char) : newline? (character :: rest) = none := by
  unfold newline?
  split
  · next shape => exact absurd (List.cons.inj shape).1 noFeed
  · next shape => exact absurd (List.cons.inj shape).1 noReturn
  · rfl

theorem ne_return_of_isPlain (plain : isPlain character = true) :
    character ≠ '\n' ∧ character ≠ '\r' := by
  constructor <;> (rintro rfl; exact absurd plain (by decide))

/-- Only content with several lines starts on a line of its own, so none of it is lost. -/
theorem skipFirstLineEnd_lead {body : List Char}
    (flat : '\n' ∉ content → newline? body = none) :
    skipFirstLineEnd ((if content.contains '\n' then ['\n'] else []) ++ body) = body := by
  by_cases lines : '\n' ∈ content
  · simp [lines, skipFirstLineEnd, newline?]
  · simp [lines, skipFirstLineEnd, flat lines]

theorem newline?_escapedContent (flat : '\n' ∉ content) (tail : List Char) :
    newline? (escapedContent true 0 content ++ quote :: tail) = none := by
  cases content with
  | nil => rfl
  | cons character content =>
      rw [List.mem_cons, not_or] at flat
      by_cases quoted : character = quote
      · rw [escapedContent, if_pos quoted, if_pos (by decide)]
        rfl
      · rw [escapedContent, if_neg quoted]
        rcases escapedCharacter_cases true quoted with
          ⟨shape, plain, -⟩ | ⟨letter, spelled, shape, -⟩ | ⟨-, same, -⟩
        · rw [shape]
          exact newline?_cons (Ne.symm flat.1) (ne_return_of_isPlain plain).2 _
        · rw [shape]
          exact newline?_cons (by decide) (by decide) _
        · exact absurd same.symm flat.1

theorem isPlain_of_not_needsEscape (unescaped : needsEscape character = false) :
    isPlain character = true ∨ character = '\n' := by
  by_cases line : character = '\n'
  · exact .inr line
  by_cases tab : character = '\t'
  · exact .inl (by simp [isPlain, tab])
  · simp only [needsEscape, Bool.or_eq_false_iff, Bool.and_eq_false_iff] at unescaped
    refine .inl ?_
    simp_all [isPlain]

theorem not_mem_of_longestRun {wanted : Char} {run : ℕ}
    (none : longestRun wanted run content = 0) : wanted ∉ content := by
  induction content generalizing run with
  | nil => exact List.not_mem_nil
  | cons character content ih =>
      have short : longestRun wanted run (character :: content) ≤ 0 := by rw [none]
      have later := longestRun_cons_le short
      by_cases same : character = wanted
      · rw [if_pos same] at later
        have run_le := le_longestRun wanted (run + 1) content
        omega
      · rw [if_neg same] at later
        rw [List.mem_cons, not_or]
        exact ⟨Ne.symm same, ih (Nat.le_zero.mp later)⟩

/-- Content is only written without escapes on one line if it needs none and stays on the line. -/
theorem of_style_literal (chosen : style content = .literal) :
    (∀ character ∈ content, isPlain character = true) ∧ apostrophe ∉ content := by
  simp only [style] at chosen
  split_ifs at chosen with _ fits
  simp only [Bool.and_eq_true, Bool.not_eq_true', List.any_eq_false, decide_eq_true_eq,
    List.contains_eq_mem, decide_eq_false_iff_not] at fits
  obtain ⟨⟨unescaped, none⟩, flat⟩ := fits
  refine ⟨fun character member => ?_, not_mem_of_longestRun none⟩
  have single : character ≠ '\n' := fun line => flat (line ▸ member)
  have plainOrFeed := isPlain_of_not_needsEscape (by simpa using unescaped character member)
  exact plainOrFeed.resolve_right single

/-- Content is only written without escapes over several lines if it needs none. -/
theorem of_style_literalBlock (chosen : style content = .literalBlock) :
    (∀ character ∈ content, isPlain character = true ∨ character = '\n') ∧
      longestRun apostrophe 0 content ≤ 2 := by
  simp only [style] at chosen
  split_ifs at chosen with _ _ _ fits
  simp only [Bool.and_eq_true, Bool.not_eq_true', List.any_eq_false, decide_eq_true_eq] at fits
  exact ⟨fun character member =>
    isPlain_of_not_needsEscape (by simpa using fits.1 character member), fits.2⟩

theorem not_closes {delimiter first : Char} (differs : first ≠ delimiter) (rest : List Char) :
    closes delimiter (first :: rest) = false := by
  rw [Bool.eq_false_iff, Ne, closes_iff]
  rintro ⟨more, shape⟩
  exact differs (List.cons.inj shape).1

theorem not_closes_once {delimiter : Char} (stops : Stops delimiter rest) :
    closes delimiter (delimiter :: rest) = false := by
  rw [Bool.eq_false_iff, Ne, closes_iff]
  rintro ⟨more, shape⟩
  exact stops ((List.cons.inj shape).2 ▸ rfl)

theorem anyText?_basic (stops : Stops quote rest) :
    anyText? (Style.basic.write content ++ rest) = some (content, rest) := by
  have goesOn : closes quote (escapedContent false 0 content ++ quote :: rest) = false := by
    cases content with
    | nil => exact not_closes_once stops
    | cons character content =>
        obtain ⟨first, tail, shape, differs⟩ :=
          @head_escapedContent character false 0 (.inr (Nat.le_refl 0)) content
        rw [shape]
        exact not_closes differs _
  simp [Style.write, anyText?, goesOn, basicText?_written]

theorem anyText?_literal (plain : ∀ character ∈ content, isPlain character = true)
    (free : apostrophe ∉ content) (stops : Stops apostrophe rest) :
    anyText? (Style.literal.write content ++ rest) = some (content, rest) := by
  have goesOn : closes apostrophe (content ++ apostrophe :: rest) = false := by
    cases content with
    | nil => exact not_closes_once stops
    | cons character content =>
        rw [List.mem_cons, not_or] at free
        exact not_closes (Ne.symm free.1) _
  have other : apostrophe ≠ quote := by decide
  simp [Style.write, anyText?, goesOn, other, literalText?_written plain free]

theorem anyText?_basicBlock (stops : Stops quote rest) :
    anyText? (Style.basicBlock.write content ++ rest) = some (content, rest) := by
  have begin (body : List Char) :
      anyText? (quote :: quote :: quote :: body) = basicBlock? (skipFirstLineEnd body) := rfl
  have shape : Style.basicBlock.write content ++ rest =
      quote :: quote :: quote :: ((if content.contains '\n' then ['\n'] else []) ++
        (escapedContent true 0 content ++ quote :: quote :: quote :: rest)) := by
    simp [Style.write]
  rw [shape, begin, skipFirstLineEnd_lead fun flat => newline?_escapedContent flat _]
  exact basicBlock?_written content (Nat.zero_le 2) stops

theorem anyText?_literalBlock
    (plain : ∀ character ∈ content, isPlain character = true ∨ character = '\n')
    (short : longestRun apostrophe 0 content ≤ 2) (stops : Stops apostrophe rest) :
    anyText? (Style.literalBlock.write content ++ rest) = some (content, rest) := by
  have begin (body : List Char) :
      anyText? (apostrophe :: apostrophe :: apostrophe :: body) =
        literalBlock? (skipFirstLineEnd body) := rfl
  have shape : Style.literalBlock.write content ++ rest =
      apostrophe :: apostrophe :: apostrophe :: ((if content.contains '\n' then ['\n'] else []) ++
        (content ++ apostrophe :: apostrophe :: apostrophe :: rest)) := by
    simp [Style.write]
  have flat (single : '\n' ∉ content) :
      newline? (content ++ apostrophe :: apostrophe :: apostrophe :: rest) = none := by
    cases content with
    | nil => rfl
    | cons character content =>
        have alone := plain character List.mem_cons_self
        rw [List.mem_cons, not_or] at single
        have apart := ne_return_of_isPlain (alone.resolve_right (Ne.symm single.1))
        exact newline?_cons apart.1 apart.2 _
  rw [shape, begin, skipFirstLineEnd_lead flat]
  exact literalBlock?_written plain short stops

/-- A written string is read back, however it is written. -/
theorem anyText?_writeText (text : String) (unquoted : Stops quote rest)
    (unmarked : Stops apostrophe rest) :
    anyText? (writeText text ++ rest) = some (text.toList, rest) := by
  rw [writeText]
  cases chosen : style text.toList with
  | basic => exact anyText?_basic unquoted
  | literal =>
      obtain ⟨plain, free⟩ := of_style_literal chosen
      exact anyText?_literal plain free unmarked
  | basicBlock => exact anyText?_basicBlock unquoted
  | literalBlock =>
      obtain ⟨plain, short⟩ := of_style_literalBlock chosen
      exact anyText?_literalBlock plain short unmarked

end Toml
end CardKeeper

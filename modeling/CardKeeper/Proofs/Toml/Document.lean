import Mathlib
import CardKeeper.Proofs.Toml.Text
import CardKeeper.Toml.Document

/-!
# Reading lines that were written

A written key, string or list of strings is read back where it stands in a line, and a written line
is read back in front of whatever follows.  So a text that consists of written lines says these
lines: `Reads` is kept by putting texts one after the other, and `parse?_of_reads` reads the whole
document.
-/

namespace CardKeeper
namespace Toml

variable {key : String} {path : List String} {first : Char} {rest written other : List Char}

/-! ## Blanks -/

theorem skipBlanks_cons (solid : isBlank first = false) (rest : List Char) :
    skipBlanks (first :: rest) = first :: rest := by
  simp [skipBlanks, solid]

/-- Nothing is skipped in front of what is not a blank, a comment or the end of a line. -/
theorem skipLines?_cons (solid : isBlank first = false) (noComment : first ≠ '#')
    (noFeed : first ≠ '\n') (noReturn : first ≠ '\r') (rest : List Char) :
    skipLines? false (first :: rest) = some (first :: rest) := by
  rw [skipLines?]
  · simp [solid, noComment, noFeed]
  · rintro more rfl
    exact absurd rfl noReturn

theorem lineEnd?_feed (rest : List Char) : lineEnd? ('\n' :: rest) = some rest := rfl

/-! ## Keys -/

/-- A character that a key can start with. -/
def OpensKey (first : Char) : Prop :=
  first = quote ∨ first = apostrophe ∨ isBare first = true

theorem OpensKey.not_mem (opens : OpensKey first) :
    first ∉ [' ', '\t', '\n', '\r', '#', '.', '['] := by
  intro member
  simp only [List.mem_cons, List.not_mem_nil, or_false] at member
  rcases member with rfl | rfl | rfl | rfl | rfl | rfl | rfl <;>
    exact absurd opens (by unfold OpensKey; decide)

theorem OpensKey.solid (opens : OpensKey first) : isBlank first = false := by
  have other := opens.not_mem
  simp only [List.mem_cons, not_or] at other
  simp [isBlank, other.1, other.2.1]

theorem head_writeKey (key : String) :
    ∃ first tail, writeKey key = first :: tail ∧ OpensKey first := by
  simp only [writeKey]
  split_ifs with bare
  · simp only [Bool.and_eq_true, Bool.not_eq_true', List.isEmpty_eq_false_iff] at bare
    obtain ⟨inhabited, bare⟩ := bare
    obtain ⟨first, tail, shape⟩ := List.exists_cons_of_ne_nil inhabited
    rw [shape, List.all_cons, Bool.and_eq_true] at bare
    exact ⟨first, tail, shape, .inr (.inr bare.1)⟩
  · exact ⟨quote, _, rfl, .inl rfl⟩
  · exact ⟨apostrophe, _, rfl, .inr (.inl rfl)⟩
  · exact ⟨quote, _, rfl, .inl rfl⟩

/-- A key without quotes ends here. -/
def EndsBare (rest : List Char) : Prop :=
  ∀ character, rest.head? = some character → isBare character = false

theorem endsBare_cons (stop : isBare first = false) (rest : List Char) :
    EndsBare (first :: rest) := by
  rintro character same
  cases same
  exact stop

theorem simpleKey?_bare {content : List Char} (inhabited : content ≠ [])
    (bare : content.all isBare) (ends : EndsBare rest) :
    simpleKey? (content ++ rest) = some (content, rest) := by
  obtain ⟨first, tail, rfl⟩ := List.exists_cons_of_ne_nil inhabited
  have inside : ∀ character ∈ first :: tail, isBare character = true := by simpa using bare
  have none : rest.takeWhile isBare = [] ∧ rest.dropWhile isBare = rest := by
    cases rest with
    | nil => exact ⟨rfl, rfl⟩
    | cons character rest => simp [ends character rfl]
  have bareFirst := inside first List.mem_cons_self
  have noQuote : first ≠ quote := by
    rintro rfl
    exact absurd bareFirst (by decide)
  have noApostrophe : first ≠ apostrophe := by
    rintro rfl
    exact absurd bareFirst (by decide)
  rw [List.cons_append, simpleKey?, if_neg noQuote, if_neg noApostrophe, if_pos bareFirst,
    ← List.cons_append, List.takeWhile_append_of_pos inside, List.dropWhile_append_of_pos inside,
    none.1, none.2, List.append_nil]

theorem simpleKey?_basic (content rest : List Char) :
    simpleKey? (Style.basic.write content ++ rest) = some (content, rest) := by
  simp [Style.write, simpleKey?, basicText?_written]

theorem simpleKey?_literal {content : List Char}
    (plain : ∀ character ∈ content, isPlain character = true) (free : apostrophe ∉ content)
    (rest : List Char) :
    simpleKey? (Style.literal.write content ++ rest) = some (content, rest) := by
  have other : apostrophe ≠ quote := by decide
  simp [Style.write, simpleKey?, other, literalText?_written plain free]

/-- A written key is read back. -/
theorem simpleKey?_writeKey (key : String) (ends : EndsBare rest) :
    simpleKey? (writeKey key ++ rest) = some (key.toList, rest) := by
  simp only [writeKey]
  split_ifs with bare _ plain
  · simp only [Bool.and_eq_true, Bool.not_eq_true', List.isEmpty_eq_false_iff] at bare
    exact simpleKey?_bare bare.1 bare.2 ends
  · exact simpleKey?_basic _ _
  · simp only [Bool.and_eq_true, Bool.not_eq_true', List.any_eq_false, Bool.or_eq_true, not_or,
      List.contains_eq_mem, decide_eq_false_iff_not] at plain
    refine simpleKey?_literal (fun character member => ?_) plain.2 _
    obtain ⟨unescaped, single⟩ := plain.1 character member
    have plainOrFeed := isPlain_of_not_needsEscape (by simpa using unescaped)
    exact plainOrFeed.resolve_right (by simpa using single)
  · exact simpleKey?_basic _ _

/-- Written keys with dots between them are read back, with the blanks after them. -/
theorem dottedKey?_written {limit : ℕ} (inhabited : path ≠ []) (few : path.length ≤ limit)
    (ends : EndsBare rest) (undotted : (skipBlanks rest).head? ≠ some '.') :
    dottedKey? limit (['.'].intercalate (path.map writeKey) ++ rest) =
      some (path, skipBlanks rest) := by
  induction path generalizing limit with
  | nil => exact absurd rfl inhabited
  | cons key path ih =>
      obtain ⟨limit, rfl⟩ := Nat.exists_eq_add_one.mpr (Nat.zero_lt_of_lt few)
      obtain ⟨first, tail, shape, opens⟩ := head_writeKey key
      have solid (more : List Char) : skipBlanks (writeKey key ++ more) = writeKey key ++ more := by
        rw [shape]
        exact skipBlanks_cons opens.solid _
      cases path with
      | nil =>
          rw [List.map_singleton, List.intercalate_singleton, dottedKey?, solid,
            simpleKey?_writeKey key ends, Option.bind_some]
          dsimp only
          split
          · next dotted => exact absurd (by rw [dotted]; rfl) undotted
          · rw [String.ofList_toList]
      | cons next path =>
          let tail := ['.'].intercalate ((next :: path).map writeKey) ++ rest
          have dot : EndsBare ('.' :: tail) := endsBare_cons (by decide) tail
          have unfolded : ['.'].intercalate ((key :: next :: path).map writeKey) ++ rest =
              writeKey key ++ '.' :: tail := by
            simp [tail]
          have later := ih (List.cons_ne_nil _ _) (Nat.le_of_succ_le_succ few)
          have point : skipBlanks ('.' :: tail) = '.' :: tail := skipBlanks_cons (by decide) tail
          rw [unfolded, dottedKey?, solid, simpleKey?_writeKey key dot, Option.bind_some]
          simp only [point, tail, later, Option.map_some, String.ofList_toList]

/-! ## Values -/

theorem stops_of_ne {delimiter : Char} (differs : first ≠ delimiter) (rest : List Char) :
    Stops delimiter (first :: rest) := by
  simpa [Stops] using differs

theorem head_writeText (text : String) :
    ∃ first tail, writeText text = first :: tail ∧ (first = quote ∨ first = apostrophe) := by
  rw [writeText]
  cases style text.toList with
  | basic => exact ⟨quote, _, rfl, .inl rfl⟩
  | literal => exact ⟨apostrophe, _, rfl, .inr rfl⟩
  | basicBlock => exact ⟨quote, _, rfl, .inl rfl⟩
  | literalBlock => exact ⟨apostrophe, _, rfl, .inr rfl⟩

theorem value?_writeText (depth : ℕ) (text : String) (unquoted : Stops quote rest)
    (unmarked : Stops apostrophe rest) :
    value? depth (writeText text ++ rest) = some (.text text, rest) := by
  have read := anyText?_writeText text unquoted unmarked
  obtain ⟨first, tail, shape, opens⟩ := head_writeText text
  have noList : first ≠ '[' := by rcases opens with rfl | rfl <;> decide
  have noTable : first ≠ '\x7b' := by rcases opens with rfl | rfl <;> decide
  have isText : (first = quote || first = apostrophe) = true := by
    rcases opens with rfl | rfl <;> decide
  rw [shape, List.cons_append] at read ⊢
  unfold value?
  dsimp only
  rw [if_neg noList, if_neg noTable, if_pos isText, read, Option.map_some,
    String.ofList_toList]

theorem skipLines?_writeText (text : String) (rest : List Char) :
    skipLines? false (writeText text ++ rest) = some (writeText text ++ rest) := by
  obtain ⟨first, tail, shape, opens⟩ := head_writeText text
  rw [shape]
  rcases opens with rfl | rfl <;>
    exact skipLines?_cons (by decide) (by decide) (by decide) (by decide) _

/-- A written string in a list is one more item of it. -/
theorem listItems?_text (depth count : ℕ) {characters : List Char} {text : String}
    (starts : skipLines? false characters = some (writeText text ++ first :: rest))
    (unquoted : first ≠ quote) (unmarked : first ≠ apostrophe) :
    listItems? (value? depth) (count + 1) characters =
      (skipLines? false (first :: rest)).bind fun rest =>
        match rest with
        | ']' :: rest => some ([.text text], rest)
        | ',' :: rest =>
            (listItems? (value? depth) count rest).map fun (values, rest) =>
              (.text text :: values, rest)
        | _ => none := by
  have read := value?_writeText depth text (stops_of_ne unquoted rest) (stops_of_ne unmarked rest)
  obtain ⟨opening, tail, shape, opens⟩ := head_writeText text
  rw [listItems?, starts, Option.bind_some]
  split
  · next closed =>
      rw [shape] at closed
      cases closed
      rcases opens with never | never <;> cases never
  · rw [read]
    rfl

/-- Strings that each stand on a line of their own are read up to the end of their list. -/
theorem listItems?_lines (depth : ℕ) (texts : List String) {count : ℕ}
    (few : texts.length < count) (rest : List Char) :
    listItems? (value? depth) count ('\n' :: (texts.flatMap (fun text =>
      [' ', ' ', ' ', ' '] ++ writeText text ++ [',', '\n']) ++ ']' :: rest)) =
        some (texts.map .text, rest) := by
  obtain ⟨count, rfl⟩ := Nat.exists_eq_add_one.mpr (Nat.zero_lt_of_lt few)
  induction texts generalizing count with
  | nil => rfl
  | cons text texts ih =>
      obtain ⟨count, rfl⟩ := Nat.exists_eq_add_one.mpr
        (Nat.zero_lt_of_lt (Nat.lt_of_succ_lt_succ few))
      let tail := '\n' :: (texts.flatMap (fun text =>
        [' ', ' ', ' ', ' '] ++ writeText text ++ [',', '\n']) ++ ']' :: rest)
      have later : listItems? (value? depth) (count + 1) tail = some (texts.map .text, rest) :=
        ih count (Nat.lt_of_succ_lt_succ few)
      have starts : skipLines? false ('\n' :: ' ' :: ' ' :: ' ' :: ' ' ::
          (writeText text ++ ',' :: tail)) = some (writeText text ++ ',' :: tail) :=
        skipLines?_writeText text (',' :: tail)
      have comma : skipLines? false (',' :: tail) = some (',' :: tail) := rfl
      have item := listItems?_text depth (count + 1) starts (by decide) (by decide)
      rw [comma, Option.bind_some] at item
      simp only [later, Option.map_some] at item
      simpa [tail] using item

/-- Characters that are read as a value in front of the end of a line. -/
structure Writes (value : Value) (written : List Char) : Prop where
  /-- They do not start with a blank. -/
  solid : ∀ rest, skipBlanks (written ++ rest) = written ++ rest
  /-- The value is read, and no more than it. -/
  read : ∀ rest, value? (depthLimit - 1) (written ++ '\n' :: rest) = some (value, '\n' :: rest)

theorem writes_text (text : String) : Writes (.text text) (writeText text) where
  solid rest := by
    obtain ⟨first, tail, shape, opens⟩ := head_writeText text
    rw [shape]
    rcases opens with rfl | rfl <;> exact skipBlanks_cons (by decide) _
  read rest :=
    value?_writeText _ text (stops_of_ne (by decide) rest) (stops_of_ne (by decide) rest)

theorem length_le_length_flatMap {α β : Type} {part : α → List β} (list : List α)
    (inhabited : ∀ element, 1 ≤ (part element).length) :
    list.length ≤ (list.flatMap part).length := by
  have each : ∀ size ∈ list.map fun element => (part element).length, 1 ≤ size := by
    intro size member
    obtain ⟨element, -, rfl⟩ := List.mem_map.mp member
    exact inhabited element
  simpa [List.length_flatMap] using List.length_le_sum_of_one_le _ each

theorem writes_texts (texts : List String) :
    Writes (.list (texts.map .text)) (writeTexts texts) where
  solid rest := by
    rw [writeTexts.eq_def]
    split <;> exact skipBlanks_cons (by decide) _
  read rest := by
    have list (characters : List Char) : value? (depthLimit - 1) ('[' :: characters) =
        (listItems? (value? (depthLimit - 2)) (characters.length + 1) characters).map
          fun (values, rest) => (.list values, rest) := rfl
    match texts with
    | [] => rfl
    | [text] =>
        have closed : skipLines? false (']' :: '\n' :: rest) = some (']' :: '\n' :: rest) := rfl
        have shape : writeTexts [text] ++ '\n' :: rest =
            '[' :: (writeText text ++ ']' :: '\n' :: rest) := by simp [writeTexts]
        rw [shape, list, listItems?_text _ _ (skipLines?_writeText text _) (by decide) (by decide),
          closed]
        rfl
    | one :: two :: more =>
        let line (text : String) := [' ', ' ', ' ', ' '] ++ writeText text ++ [',', '\n']
        have shape : writeTexts (one :: two :: more) ++ '\n' :: rest =
            '[' :: '\n' :: ((one :: two :: more).flatMap line ++ ']' :: '\n' :: rest) := by
          simp [writeTexts, line]
        have few := length_le_length_flatMap (one :: two :: more)
          (fun text => (by simp [line] : 1 ≤ (line text).length))
        rw [shape, list, listItems?_lines _ (one :: two :: more) _ ('\n' :: rest)]
        · rfl
        · simp only [List.length_cons, List.length_append] at few ⊢
          omega

/-! ## Lines -/

theorem head_path (inhabited : path ≠ []) :
    ∃ first tail, ['.'].intercalate (path.map writeKey) = first :: tail ∧ OpensKey first := by
  obtain ⟨key, path, rfl⟩ := List.exists_cons_of_ne_nil inhabited
  obtain ⟨first, tail, shape, opens⟩ := head_writeKey key
  cases path with
  | nil => exact ⟨first, tail, by simpa using shape, opens⟩
  | cons next path =>
      exact ⟨first, tail ++ '.' :: ['.'].intercalate ((next :: path).map writeKey),
        by simp [shape], opens⟩

/-- A written header is read back. -/
theorem line?_writeHeader (inhabited : path ≠ []) (few : path.length < depthLimit)
    (rest : List Char) : line? (writeHeader path ++ rest) = some (some (.header path), rest) := by
  obtain ⟨first, tail, shape, opens⟩ := head_path inhabited
  have read : key? (['.'].intercalate (path.map writeKey) ++ ']' :: '\n' :: rest) =
      some (path, ']' :: '\n' :: rest) := by
    have bracket : skipBlanks (']' :: '\n' :: rest) = ']' :: '\n' :: rest := rfl
    have ends : EndsBare (']' :: '\n' :: rest) := endsBare_cons (by decide) _
    have dotted := dottedKey?_written inhabited (Nat.le_of_lt_succ few) ends (by simp [bracket])
    rwa [bracket] at dotted
  have header : header? (['.'].intercalate (path.map writeKey) ++ ']' :: '\n' :: rest) =
      some (.header path, '\n' :: rest) := by
    rw [header?.eq_def]
    split
    · next bracket =>
        rw [shape] at bracket
        cases bracket
        exact absurd opens.not_mem (by decide)
    · rw [read]
      rfl
  have opening : skipBlanks (writeHeader path ++ rest) =
      '[' :: (['.'].intercalate (path.map writeKey) ++ ']' :: '\n' :: rest) := by
    simp [writeHeader, skipBlanks, isBlank]
  rw [line?, opening]
  dsimp only
  rw [if_neg (by decide), if_pos rfl, header]
  simp [lineEnd?_feed]

/-- A written member is read back. -/
theorem line?_writeMember {value : Value} (key : String) (writes : Writes value written)
    (rest : List Char) :
    line? (writeMember key written ++ rest) = some (some (.member [key] value), rest) := by
  obtain ⟨first, tail, shape, opens⟩ := head_writeKey key
  let body := ' ' :: (written ++ '\n' :: rest)
  have equals : skipBlanks (' ' :: '=' :: body) = '=' :: body := rfl
  have read : key? (writeKey key ++ ' ' :: '=' :: body) = some ([key], '=' :: body) := by
    have few : [key].length ≤ depthLimit - 1 := Nat.le_add_left 1 78
    have ends : EndsBare (' ' :: '=' :: body) := endsBare_cons (by decide) _
    have dotted := dottedKey?_written (List.cons_ne_nil _ _) few ends (by simp [equals])
    rwa [equals, List.map_singleton, List.intercalate_singleton] at dotted
  have member : member? (value? (depthLimit - 1)) (writeKey key ++ ' ' :: '=' :: body) =
      some (([key], value), '\n' :: rest) := by
    have sign : character? '=' ('=' :: body) = some body := rfl
    have solid : skipBlanks body = written ++ '\n' :: rest := writes.solid _
    simp only [member?, read, Option.bind_some, skipBlanks_cons (by decide : isBlank '=' = false),
      sign, solid, writes.read, Option.map_some]
  have whole : writeMember key written ++ rest = first :: (tail ++ ' ' :: '=' :: body) := by
    simp [writeMember, shape, body]
  have other := opens.not_mem
  simp only [List.mem_cons, List.not_mem_nil, or_false, not_or] at other
  rw [shape, List.cons_append] at member
  rw [whole, line?, skipBlanks_cons opens.solid]
  simp [other, member, lineEnd?_feed]

theorem line?_blank (rest : List Char) : line? ('\n' :: rest) = some (none, rest) := rfl

/-! ## Documents -/

/-- The lines of the characters. -/
def HasLines (characters : List Char) (lines : List Line) : Prop :=
  ∀ count, characters.length < count → lines? count characters = some lines

/-- Characters that are read as some lines, whatever follows. -/
def Reads (written : List Char) (lines : List Line) : Prop :=
  ∀ rest more, HasLines rest more → HasLines (written ++ rest) (lines ++ more)

namespace Reads

variable {lines : List Line}

protected theorem nil : Reads [] [] := fun _ _ has => has

protected theorem append {others : List Line} (first : Reads written lines)
    (second : Reads other others) : Reads (written ++ other) (lines ++ others) := by
  intro rest more has
  rw [List.append_assoc, List.append_assoc]
  exact first _ _ (second _ _ has)

protected theorem flatMap {α : Type} {write : α → List Char} {line : α → Line}
    (each : ∀ element, Reads (write element) [line element]) (list : List α) :
    Reads (list.flatMap write) (list.map line) := by
  induction list with
  | nil => exact .nil
  | cons element list ih => exact (each element).append ih

/-- What is read as one line is read. -/
theorem of_line {line : Option Line} (inhabited : written ≠ [])
    (read : ∀ rest, line? (written ++ rest) = some (line, rest)) :
    Reads written line.toList := by
  intro rest more has count enough
  obtain ⟨count, rfl⟩ := Nat.exists_eq_add_one.mpr (Nat.zero_lt_of_lt enough)
  have shorter := List.length_pos_iff.mpr inhabited
  rw [List.length_append] at enough
  have later := has count (by omega)
  obtain ⟨first, tail, shape⟩ := List.exists_cons_of_ne_nil inhabited
  have step := read rest
  rw [shape, List.cons_append] at step ⊢
  rw [lines?, step, Option.bind_some]
  · simp only [later, Option.map_some]
  · exact List.cons_ne_nil _ _

theorem header (inhabited : path ≠ []) (few : path.length < depthLimit) :
    Reads (writeHeader path) [.header path] :=
  of_line (by simp [writeHeader]) (line?_writeHeader inhabited few)

theorem member {value : Value} (key : String) (writes : Writes value written) :
    Reads (writeMember key written) [.member [key] value] :=
  of_line (by simp [writeMember]) (line?_writeMember key writes)

theorem blank : Reads ['\n'] [] :=
  @of_line ['\n'] none (List.cons_ne_nil _ _) line?_blank

end Reads

/-- Written lines give the document that these lines put together. -/
theorem parse?_of_reads {lines : List Line} (reads : Reads written lines)
    (unmarked : written.head? ≠ some '\uFEFF') :
    parse? (String.ofList written) =
      (lines.foldlM addLine ([], [])).map fun state => valuesOf state.2 := by
  have nothing : HasLines [] [] := by
    intro count enough
    rw [lines?]
  have has := reads [] [] nothing _ (Nat.lt_succ_self _)
  rw [List.append_nil, List.append_nil] at has
  rw [parse?, String.toList_ofList]
  split
  · next marked => exact absurd rfl unmarked
  · rw [has, Option.bind_some]

end Toml
end CardKeeper

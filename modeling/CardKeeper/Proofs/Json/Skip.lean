import Mathlib
import CardKeeper.Proofs.Json.Number

/-!
# Passing over spelled values

Whatever value a text spells, of any depth, it is passed over whole: `skipFrom_spelled`.  The proof
goes along the spelling.  The brackets that are open around a value stay open, so that items and
members are one case each.
-/

namespace CardKeeper
namespace Json

open Utf8

theorem skipFrom_value (brackets : List Bracket) (bytes : Bytes) :
    skipFrom .value brackets bytes =
      match skipSpace bytes with
      | [] => failBefore .endInValue []
      | first :: rest =>
          match skipStart first rest with
          | .error fault => .error fault
          | .ok (.whole rest) => skipFrom .closed brackets rest
          | .ok (.bracket bracket rest) => skipFrom .opened (bracket :: brackets) rest := by
  rw [skipFrom]
  split
  · next shape => simp only [shape]
  · next shape =>
      simp only [shape]
      split
      · next start => simp only [start]
      · next start => simp only [start]
      · next start => simp only [start]

theorem skipFrom_opened (bracket : Bracket) (brackets : List Bracket) (bytes : Bytes) :
    skipFrom .opened (bracket :: brackets) bytes =
      match skipSpace bytes with
      | [] => failBefore bracket.unclosed []
      | next :: rest =>
          if next = bracket.close then skipFrom .closed brackets rest
          else (bracket.skipLabel (next :: rest)).bind (skipFrom .value (bracket :: brackets)) := by
  rw [skipFrom]
  split
  · next shape => simp only [shape]
  · next shape =>
      simp only [shape]
      split
      · rfl
      · split
        · next label => simp only [label, Except.bind]
        · next label => simp only [label, Except.bind]

theorem skipFrom_closed (bracket : Bracket) (brackets : List Bracket) (bytes : Bytes) :
    skipFrom .closed (bracket :: brackets) bytes =
      match skipSpace bytes with
      | [] => failBefore bracket.unclosed []
      | next :: rest =>
          if next = comma then
            (bracket.skipLabel rest).bind (skipFrom .value (bracket :: brackets))
          else if next = bracket.close then skipFrom .closed brackets rest
          else failOn bracket.unseparated (next :: rest) := by
  rw [skipFrom]
  split
  · next shape => simp only [shape]
  · next shape =>
      simp only [shape]
      split
      · split
        · next label => simp only [label, Except.bind]
        · next label => simp only [label, Except.bind]
      · rfl

/-- How the text of a value starts. -/
def Value.Opens : Value → UInt8 → Prop
  | .null, first => first = 0x6E
  | .boolean value, first => first = if value then 0x74 else 0x66
  | .number _, first => first = minus ∨ isDigit first = true
  | .text _, first => first = quote
  | .list _, first => first = listStart
  | .object _, first => first = objectStart

theorem Value.Opens.visible {value : Value} {first : UInt8} (opens : value.Opens first) :
    isSpace first = false ∧ first ≠ listEnd := by
  cases value with
  | null | text | list | object =>
      cases opens
      decide
  | boolean value =>
      cases opens
      cases value <;> decide
  | number value =>
      rcases opens with rfl | digit
      · decide
      · constructor
        · rw [Bool.eq_false_iff]
          intro space
          simp only [isSpace, Bool.or_eq_true, beq_iff_eq] at space
          rcases space with ((rfl | rfl) | rfl) | rfl <;> exact absurd digit (by decide)
        · rintro rfl
          exact absurd digit (by decide)

/-- Only a string starts with a quote, only a list with its bracket, only an object with its
brace. -/
theorem Value.Opens.marks {value : Value} {first : UInt8} (opens : value.Opens first) :
    (first = quote ↔ ∃ content, value = .text content) ∧
      (first = listStart ↔ ∃ items, value = .list items) ∧
      (first = objectStart ↔ ∃ members, value = .object members) := by
  cases value with
  | null | text | list | object =>
      cases opens
      simp
      decide
  | boolean value =>
      cases opens
      simp
      cases value <;> decide
  | number value =>
      have other (mark : UInt8) (noMinus : mark ≠ minus) (noDigit : isDigit mark = false) :
          first ≠ mark := by
        rintro rfl
        rcases opens with same | digit
        · exact noMinus same
        · simp [noDigit] at digit
      simp [other quote (by decide) rfl, other listStart (by decide) rfl,
        other objectStart (by decide) rfl]

theorem exists_digit_of_size {size : ℚ} {spelled : List Char} (spells : SpellsSize size spelled) :
    ∃ byte tail, encodeChars spelled = byte :: tail ∧ isDigit byte = true := by
  cases spells with
  | intro present leading fractional scaled =>
      rw [List.append_assoc, encodeChars_append]
      obtain ⟨byte, tail, shape, isDigit, -⟩ := exists_digit present _
      exact ⟨byte, tail, shape, isDigit⟩

theorem exists_opening {value : Value} {spelled : List Char} (spells : Spells value spelled) :
    ∃ first tail, encodeChars spelled = first :: tail ∧ value.Opens first := by
  cases spells with
  | null => exact ⟨_, _, encodeChars_single 'n' 0x6E rfl _, rfl⟩
  | yes => exact ⟨_, _, encodeChars_single 't' 0x74 rfl _, rfl⟩
  | no => exact ⟨_, _, encodeChars_single 'f' 0x66 rfl _, rfl⟩
  | text spells =>
      cases spells
      exact ⟨_, _, encodeChars_single '"' quote rfl _, rfl⟩
  | emptyList | list => exact ⟨_, _, encodeChars_single '[' listStart rfl _, rfl⟩
  | emptyObject | object => exact ⟨_, _, encodeChars_single '\x7b' objectStart rfl _, rfl⟩
  | number spells =>
      cases spells with
      | minus => exact ⟨_, _, encodeChars_single '-' minus rfl _, .inl rfl⟩
      | plain spells =>
          obtain ⟨byte, tail, shape, isDigit⟩ := exists_digit_of_size spells
          exact ⟨byte, tail, shape, .inr isDigit⟩

theorem skipFrom_of_whole {first : UInt8} {tail after : Bytes} (visible : isSpace first = false)
    (start : skipStart first tail = .ok (.whole after)) (brackets : List Bracket) :
    skipFrom .value brackets (first :: tail) = skipFrom .closed brackets after := by
  rw [skipFrom_value, skipSpace_cons visible]
  simp only [start]

theorem skipFrom_of_bracket {first : UInt8} {tail after : Bytes} {bracket : Bracket}
    (visible : isSpace first = false) (start : skipStart first tail = .ok (.bracket bracket after))
    (brackets : List Bracket) :
    skipFrom .value brackets (first :: tail) = skipFrom .opened (bracket :: brackets) after := by
  rw [skipFrom_value, skipSpace_cons visible]
  simp only [start]

theorem skipFrom_value_blank {space : List Char} (blank : IsBlank space)
    (brackets : List Bracket) (bytes : Bytes) :
    skipFrom .value brackets (encodeChars space ++ bytes) = skipFrom .value brackets bytes := by
  rw [skipFrom_value, skipFrom_value, skipSpace_blank blank]

theorem skipFrom_closed_blank {space : List Char} (blank : IsBlank space) (bracket : Bracket)
    (brackets : List Bracket) (bytes : Bytes) :
    skipFrom .closed (bracket :: brackets) (encodeChars space ++ bytes) =
      skipFrom .closed (bracket :: brackets) bytes := by
  rw [skipFrom_closed, skipFrom_closed, skipSpace_blank blank]

/-- A key and its colon are passed over. -/
theorem skipLabel_spelled {key : String} {label : List Char} (spells : SpellsLabel key label)
    (rest : Bytes) : ∃ space, IsBlank space ∧
      Bracket.object.skipLabel (encodeChars label ++ rest) = .ok (encodeChars space ++ rest) := by
  cases spells with
  | intro blankBefore quoted blankGap blankAfter =>
      rename_i before text gap after
      refine ⟨after, blankAfter, ?_⟩
      cases quoted with
      | intro spells =>
          rename_i content
          have colon_first : skipSpace (encodeChars gap ++ colon :: (encodeChars after ++ rest)) =
              colon :: (encodeChars after ++ rest) := by
            rw [skipSpace_blank blankGap, skipSpace_cons (by decide)]
          have opened : skipSpace (encodeChars (before ++ '"' :: (content ++ ['"']) ++ gap ++
              ':' :: after) ++ rest) = quote :: (encodeChars content ++
                quote :: (encodeChars gap ++ colon :: (encodeChars after ++ rest))) := by
            simp only [encodeChars_append, List.append_assoc, skipSpace_blank blankBefore,
              encodeChars_single '"' quote rfl, encodeChars_single ':' colon rfl, List.cons_append,
              List.nil_append, skipSpace_cons (by decide : isSpace quote = false)]
          simp only [Bracket.skipLabel, opened, if_true, skipText_spelled spells, Except.bind,
            colon_first]

theorem readWord_append (word rest : Bytes) : readWord word (word ++ rest) = .ok rest := by
  induction word with
  | nil => rfl
  | cons byte word ih => simpa only [List.cons_append, readWord, if_true] using ih

/-- A number is passed over whole. -/
theorem skipFrom_number {value : ℚ} {spelled : List Char} (spells : SpellsNumber value spelled)
    (brackets : List Bracket) {rest : Bytes} (ends : Delimits rest) :
    skipFrom .value brackets (encodeChars spelled ++ rest) = skipFrom .closed brackets rest := by
  have skipped {size : ℚ} {digits : List Char} (spells : SpellsSize size digits) :=
    skipNumber_spelled spells ends
  cases spells with
  | minus spells =>
      rw [encodeChars_single '-' minus rfl, List.cons_append]
      refine skipFrom_of_whole (by decide) ?_ brackets
      change (skipNumber _).map Start.whole = _
      rw [skipped spells]
      rfl
  | plain spells =>
      obtain ⟨first, tail, shape, digit⟩ := exists_digit_of_size spells
      have other (mark : UInt8) (noDigit : isDigit mark = false) : first ≠ mark := by
        rintro rfl
        simp [noDigit] at digit
      have opens : (Value.number value).Opens first := .inr digit
      have more := skipped spells
      rw [shape, List.cons_append] at more ⊢
      refine skipFrom_of_whole opens.visible.1 ?_ brackets
      simp only [skipStart, other quote rfl, other listStart rfl, other objectStart rfl,
        other minus rfl, if_false, digit, if_true, more, Except.map]

/-- The items of a list start with the first of them. -/
theorem skipSpace_items {items : List Value} {spelled : List Char}
    (spells : SpellsItems items spelled) (rest : Bytes) :
    ∃ item first tail, items.head? = some item ∧
      skipSpace (encodeChars spelled ++ rest) = first :: tail ∧ item.Opens first := by
  have item {value : Value} {before spelled : List Char} (blank : IsBlank before)
      (spells : Spells value spelled) (more : Bytes) :
      ∃ first tail, skipSpace (encodeChars before ++ (encodeChars spelled ++ more)) =
        first :: tail ∧ value.Opens first := by
    obtain ⟨first, tail, shape, opens⟩ := exists_opening spells
    refine ⟨first, tail ++ more, ?_, opens⟩
    rw [skipSpace_blank blank, shape, List.cons_append, skipSpace_cons opens.visible.1]
  cases spells with
  | last blankBefore spells blankAfter | more blankBefore spells blankAfter =>
      simp only [encodeChars_append, List.append_assoc]
      obtain ⟨first, tail, shape, opens⟩ := item blankBefore spells _
      exact ⟨_, first, tail, rfl, shape, opens⟩

/-- The members of an object start with a quote. -/
theorem skipSpace_label {key : String} {label : List Char} (spells : SpellsLabel key label)
    (rest : Bytes) : ∃ tail, skipSpace (encodeChars label ++ rest) = quote :: tail := by
  cases spells with
  | intro blankBefore quoted blankGap blankAfter =>
      cases quoted with
      | intro spells =>
          simp only [encodeChars_append, List.append_assoc, skipSpace_blank blankBefore,
            encodeChars_single '"' quote rfl, List.cons_append,
            skipSpace_cons (by decide : isSpace quote = false)]
          exact ⟨_, rfl⟩

theorem skipSpace_members {members : List (String × Value)} {spelled : List Char}
    (spells : SpellsMembers members spelled) (rest : Bytes) :
    ∃ tail, skipSpace (encodeChars spelled ++ rest) = quote :: tail := by
  cases spells with
  | last labelled | more labelled =>
      simp only [encodeChars_append, List.append_assoc]
      exact skipSpace_label labelled _

theorem skipFrom_opened_items {items : List Value} {spelled : List Char}
    (spells : SpellsItems items spelled) (brackets : List Bracket) (rest : Bytes) :
    skipFrom .opened (.list :: brackets) (encodeChars spelled ++ rest) =
      skipFrom .value (.list :: brackets) (encodeChars spelled ++ rest) := by
  obtain ⟨item, first, tail, -, shape, opens⟩ := skipSpace_items spells rest
  obtain ⟨visible, differs⟩ := opens.visible
  rw [skipFrom_opened, shape]
  change (if first = listEnd then _ else skipFrom .value (.list :: brackets) (first :: tail)) = _
  rw [if_neg differs, skipFrom_value, skipFrom_value, shape, skipSpace_cons visible]

theorem skipFrom_opened_members {members : List (String × Value)} {spelled : List Char}
    (spells : SpellsMembers members spelled) (brackets : List Bracket) (rest : Bytes) :
    skipFrom .opened (.object :: brackets) (encodeChars spelled ++ rest) =
      (Bracket.object.skipLabel (encodeChars spelled ++ rest)).bind
        (skipFrom .value (.object :: brackets)) := by
  obtain ⟨tail, shape⟩ := skipSpace_members spells rest
  have same : Bracket.object.skipLabel (quote :: tail) =
      Bracket.object.skipLabel (encodeChars spelled ++ rest) := by
    simp only [Bracket.skipLabel, shape, skipSpace_cons (by decide : isSpace quote = false)]
  rw [skipFrom_opened, shape]
  simp only [Bracket.close, same]
  rfl

mutual

/-- A value is passed over whole. -/
theorem skipFrom_spelled {value : Value} {spelled : List Char} (spells : Spells value spelled)
    (brackets : List Bracket) {rest : Bytes} (ends : Delimits rest) :
    skipFrom .value brackets (encodeChars spelled ++ rest) = skipFrom .closed brackets rest := by
  cases spells with
  | null =>
      refine skipFrom_of_whole (by decide) ?_ brackets
      change (readWord ull (ull ++ rest)).map Start.whole = _
      rw [readWord_append]
      rfl
  | yes =>
      refine skipFrom_of_whole (by decide) ?_ brackets
      change (readWord rue (rue ++ rest)).map Start.whole = _
      rw [readWord_append]
      rfl
  | no =>
      refine skipFrom_of_whole (by decide) ?_ brackets
      change (readWord alse (alse ++ rest)).map Start.whole = _
      rw [readWord_append]
      rfl
  | number spells => exact skipFrom_number spells brackets ends
  | text spells =>
      cases spells with
      | intro spells =>
          rw [encodeChars_single '"' quote rfl, encodeChars_append, List.cons_append,
            List.append_assoc]
          refine skipFrom_of_whole (by decide) ?_ brackets
          change (skipText (encodeChars _ ++ quote :: rest)).map Start.whole = _
          rw [skipText_spelled spells]
          rfl
  | emptyList blank =>
      rw [encodeChars_single '[' listStart rfl, encodeChars_append, List.cons_append,
        List.append_assoc, skipFrom_of_bracket (by decide) rfl]
      change skipFrom .opened (.list :: brackets) (encodeChars _ ++ listEnd :: rest) = _
      rw [skipFrom_opened, skipSpace_blank blank, skipSpace_cons (by decide)]
      rfl
  | list spells =>
      rw [encodeChars_single '[' listStart rfl, encodeChars_append, List.cons_append,
        List.append_assoc, skipFrom_of_bracket (by decide) rfl]
      change skipFrom .opened (.list :: brackets) (encodeChars _ ++ listEnd :: rest) = _
      rw [skipFrom_opened_items spells, skipItems_spelled spells]
  | emptyObject blank =>
      rw [encodeChars_single '\x7b' objectStart rfl, encodeChars_append, List.cons_append,
        List.append_assoc, skipFrom_of_bracket (by decide) rfl]
      change skipFrom .opened (.object :: brackets) (encodeChars _ ++ objectEnd :: rest) = _
      rw [skipFrom_opened, skipSpace_blank blank, skipSpace_cons (by decide)]
      rfl
  | object spells =>
      rw [encodeChars_single '\x7b' objectStart rfl, encodeChars_append, List.cons_append,
        List.append_assoc, skipFrom_of_bracket (by decide) rfl]
      change skipFrom .opened (.object :: brackets) (encodeChars _ ++ objectEnd :: rest) = _
      rw [skipFrom_opened_members spells, skipMembers_spelled spells]

/-- The items of a list are passed over up to its end. -/
theorem skipItems_spelled {items : List Value} {spelled : List Char}
    (spells : SpellsItems items spelled) (brackets : List Bracket) (rest : Bytes) :
    skipFrom .value (.list :: brackets) (encodeChars spelled ++ listEnd :: rest) =
      skipFrom .closed brackets rest := by
  cases spells with
  | last blankBefore spells blankAfter =>
      simp only [encodeChars_append, List.append_assoc]
      rw [skipFrom_value_blank blankBefore, skipFrom_spelled spells (.list :: brackets)
        (delimits_blank blankAfter (delimits_cons (.inr (.inl rfl)) rest)),
        skipFrom_closed_blank blankAfter, skipFrom_closed, skipSpace_cons (by decide)]
      rfl
  | more blankBefore spells blankAfter tail =>
      simp only [encodeChars_append, List.append_assoc, encodeChars_single ',' comma rfl,
        List.cons_append]
      rw [skipFrom_value_blank blankBefore, skipFrom_spelled spells (.list :: brackets)
        (delimits_blank blankAfter (delimits_cons (.inl rfl) _)),
        skipFrom_closed_blank blankAfter, skipFrom_closed, skipSpace_cons (by decide)]
      exact skipItems_spelled tail brackets rest

/-- The members of an object are passed over up to its end. -/
theorem skipMembers_spelled {members : List (String × Value)} {spelled : List Char}
    (spells : SpellsMembers members spelled) (brackets : List Bracket) (rest : Bytes) :
    (Bracket.object.skipLabel (encodeChars spelled ++ objectEnd :: rest)).bind
        (skipFrom .value (.object :: brackets)) =
      skipFrom .closed brackets rest := by
  cases spells with
  | last labelled spells blankAfter =>
      simp only [encodeChars_append, List.append_assoc]
      obtain ⟨space, blank, skipped⟩ := skipLabel_spelled labelled
        (encodeChars _ ++ (encodeChars _ ++ objectEnd :: rest))
      rw [skipped]
      change skipFrom .value (.object :: brackets) _ = _
      rw [skipFrom_value_blank blank, skipFrom_spelled spells (.object :: brackets)
        (delimits_blank blankAfter (delimits_cons (.inr (.inr rfl)) rest)),
        skipFrom_closed_blank blankAfter, skipFrom_closed, skipSpace_cons (by decide)]
      rfl
  | more labelled spells blankAfter tail =>
      simp only [encodeChars_append, List.append_assoc, encodeChars_single ',' comma rfl,
        List.cons_append]
      obtain ⟨space, blank, skipped⟩ := skipLabel_spelled labelled
        (encodeChars _ ++ (encodeChars _ ++ comma :: (encodeChars _ ++ objectEnd :: rest)))
      rw [skipped]
      change skipFrom .value (.object :: brackets) _ = _
      rw [skipFrom_value_blank blank, skipFrom_spelled spells (.object :: brackets)
        (delimits_blank blankAfter (delimits_cons (.inl rfl) _)),
        skipFrom_closed_blank blankAfter, skipFrom_closed, skipSpace_cons (by decide)]
      exact skipMembers_spelled tail brackets rest

end

end Json
end CardKeeper

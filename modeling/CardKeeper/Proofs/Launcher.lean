import Mathlib
import CardKeeper.Launcher
import CardKeeper.Proofs.Json.Skip
import CardKeeper.Proofs.Results

/-!
# The launcher's configuration is its one field

Whatever a launcher's file says apart from its list of extensions, it is read to that list alone:
`ofJson?_iff`.  Members of an object are accepted one after the other, and a text is accepted
exactly if all of them are and one of them is the field.
-/

namespace CardKeeper

namespace Launcher

open Json Utf8

/-! ## The value of the field -/

/-- The field's value has to be a string. -/
theorem readValue_spelled_iff {value : Value} {before spelled : List Char} (blank : IsBlank before)
    (spells : Spells value spelled) (rest : Bytes) {content after : Bytes} :
    readValue (encodeChars before ++ (encodeChars spelled ++ rest)) = .ok (content, after) ↔
      ∃ text, value = .text text ∧ content = encode text ∧ after = rest := by
  obtain ⟨first, tail, shape, opens⟩ := exists_opening spells
  have space : skipSpace (encodeChars before ++ (encodeChars spelled ++ rest)) =
      first :: (tail ++ rest) := by
    rw [skipSpace_blank blank, shape, List.cons_append, skipSpace_cons opens.visible.1]
  simp only [readValue, space]
  by_cases isText : ∃ text, value = .text text
  · obtain ⟨text, rfl⟩ := isText
    cases opens
    cases spells with
    | text spells =>
        cases spells with
        | intro spells =>
            rw [encodeChars_single '"' quote rfl, encodeChars_append] at shape
            cases shape
            rw [List.append_assoc]
            have read : readText (encodeChars _ ++ (encodeChars ['"'] ++ rest)) =
              .ok (encodeChars text.toList, rest) := readText_spelled spells rest
            simp only [if_true, read, Except.ok.injEq, Prod.mk.injEq, Value.text.injEq]
            constructor
            · rintro ⟨rfl, rfl⟩
              exact ⟨text, rfl, rfl, rfl⟩
            · rintro ⟨_, rfl, rfl, rfl⟩
              exact ⟨rfl, rfl⟩
  · rw [if_neg fun same => isText (opens.marks.1.mp same)]
    constructor
    · exact fun read => absurd read wrongKind_ne_ok
    · rintro ⟨text, same, -⟩
      exact absurd ⟨text, same⟩ isText

/-! ## Members -/

/-- What is known of the field after one more member of an object, unless that one is not accepted:
the field is a string, and it comes once. -/
def accept (found : Option String) (member : String × Value) : Option (Option String) :=
  if member.1 = fieldName then
    match found, member.2 with
    | none, .text content => some (some content)
    | _, _ => none
  else some found

/-- The members that are the field. -/
def fieldsOf (members : List (String × Value)) : List (String × Value) :=
  members.filter fun member => member.1 = fieldName

/-- Members are accepted if none of them is the field, or one is and it is a string. -/
theorem foldlM_accept_iff (members : List (String × Value)) (found : Option String)
    (content : String) :
    members.foldlM accept found = some (some content) ↔
      fieldsOf members = [] ∧ found = some content ∨
        found = none ∧ fieldsOf members = [(fieldName, .text content)] := by
  induction members generalizing found with
  | nil => simp [fieldsOf]
  | cons member members ih =>
      obtain ⟨key, value⟩ := member
      rw [List.foldlM_cons]
      by_cases isField : key = fieldName
      · subst isField
        cases found with
        | some known => simp [accept, fieldsOf]
        | none =>
            cases value with
            | text text =>
                simp only [accept, if_true, Option.bind_eq_bind, Option.bind_some, ih]
                simp [fieldsOf, and_comm]
            | null | boolean | number | list | object => simp [accept, fieldsOf]
      · have same : fieldsOf ((key, value) :: members) = fieldsOf members := by
          simp [fieldsOf, isField]
        simp only [accept, isField, if_false, Option.bind_eq_bind, Option.bind_some, ih, same]

theorem failAfter_ne_ok {α : Type} {problem : Problem} {close : UInt8} {bytes : Bytes} {value : α} :
    failAfter problem close bytes ≠ .ok value := by
  unfold failAfter
  split <;> exact fun same => nomatch same

/-- One member of an object is read and accepted. -/
theorem readMember_spelled_iff {key : String} {value : Value} {gap space spelled : List Char}
    (blankGap : IsBlank gap) (blankSpace : IsBlank space) (spells : Spells value spelled)
    {rest : Bytes} (ends : Delimits rest) (found : Option String) {known : Option Bytes}
    {after : Bytes} :
    readMember (found.map encode) (encode key)
        (encodeChars gap ++ colon :: (encodeChars space ++ (encodeChars spelled ++ rest))) =
          .ok (known, after) ↔
      ∃ next, accept found (key, value) = some next ∧ known = next.map encode ∧ after = rest := by
  have colonRead : readColon (encodeChars gap ++ colon :: (encodeChars space ++
      (encodeChars spelled ++ rest))) =
        .ok (encodeChars space ++ (encodeChars spelled ++ rest)) := by
    simp only [readColon, skipSpace_blank blankGap,
      skipSpace_cons (by decide : isSpace colon = false), if_true]
  have skipped : skipValue (encodeChars space ++ (encodeChars spelled ++ rest)) = .ok rest := by
    rw [skipValue, skipFrom_value_blank blankSpace, skipFrom_spelled spells [] ends, skipFrom]
  by_cases isField : key = fieldName
  · subst isField
    cases found with
    | some content =>
        simp only [readMember, if_true, Option.map_some, Option.isSome_some, accept]
        constructor
        · intro read
          exact absurd read failAfter_ne_ok
        · rintro ⟨_, never, _⟩
          cases never
    | none =>
        simp only [readMember, if_true, Option.map_none, Option.isSome_none, Bool.false_eq_true,
          if_false, colonRead, Except.bind, map_eq_ok_iff, Prod.exists, Prod.mk.injEq,
          readValue_spelled_iff blankSpace spells, accept]
        constructor
        · rintro ⟨content, _, ⟨text, rfl, rfl, rfl⟩, rfl, rfl⟩
          exact ⟨some text, rfl, rfl, rfl⟩
        · rintro ⟨next, accepted, rfl, rfl⟩
          cases value with
          | text text =>
              cases accepted
              exact ⟨encode text, _, ⟨text, rfl, rfl, rfl⟩, rfl, rfl⟩
          | null | boolean | number | list | object => cases accepted
  · have differs : encode key ≠ encode fieldName := fun same => isField (encode_injective same)
    simp only [readMember, differs, if_false, colonRead, Except.bind, skipped, Except.map,
      Except.ok.injEq, Prod.mk.injEq, accept, isField, Option.some.injEq, exists_eq_left']
    constructor
    · rintro ⟨rfl, rfl⟩
      exact ⟨rfl, rfl⟩
    · rintro ⟨rfl, rfl⟩
      exact ⟨rfl, rfl⟩

/-- A key is read up to what follows its closing quote. -/
theorem readText_key {key : String} {quoted : List Char} (spells : SpellsText key quoted)
    (rest : Bytes) : ∃ spelled, encodeChars quoted = quote :: spelled ∧
      readText (spelled ++ rest) = .ok (encode key, rest) := by
  cases spells with
  | intro spells =>
      refine ⟨_, encodeChars_single '"' quote rfl _, ?_⟩
      rw [encodeChars_append, List.append_assoc]
      exact readText_spelled spells rest

/-- What is left of a label and its value once the key has been read. -/
theorem readKey_first {key : String} {before quoted : List Char} (blank : IsBlank before)
    (spells : SpellsText key quoted) (rest : Bytes) :
    readKey true (encodeChars before ++ (encodeChars quoted ++ rest)) =
      .ok (some (encode key), rest) := by
  obtain ⟨spelled, shape, read⟩ := readText_key spells rest
  simp only [readKey, skipSpace_blank blank, shape, List.cons_append,
    skipSpace_cons (by decide : isSpace quote = false), read, Except.map]
  rfl

/-- After a comma the next key is read as the first one is. -/
theorem readKey_comma {after : List Char} (blank : IsBlank after) {bytes tail : Bytes}
    (quoted : skipSpace bytes = quote :: tail) :
    readKey false (encodeChars after ++ comma :: bytes) = readKey true bytes := by
  simp only [readKey, skipSpace_blank blank, skipSpace_cons (by decide : isSpace comma = false),
    quoted]
  rfl

theorem readKey_end {after : List Char} (blankAfter : IsBlank after) (isFirst : Bool)
    (rest : Bytes) :
    readKey isFirst (encodeChars after ++ objectEnd :: rest) = .ok (none, rest) := by
  simp only [readKey, skipSpace_blank blankAfter,
    skipSpace_cons (by decide : isSpace objectEnd = false), if_true]

theorem readMembers_eq (isFirst : Bool) (found : Option Bytes) (bytes : Bytes) :
    readMembers isFirst found bytes = (readKey isFirst bytes).bind fun read =>
      match read.1 with
      | none =>
          match found with
          | some content => .ok (content, read.2)
          | none => failBefore (.missingField fieldName) read.2
      | some key => (readMember found key read.2).bind fun next =>
          readMembers false next.1 next.2 := by
  rw [readMembers]
  split
  · next failed => rw [failed]; rfl
  · next rest closed => rw [closed]; rfl
  · next key rest read =>
      rw [read]
      simp only [Except.bind]
      split
      · next failed => rw [failed]
      · next done => rw [done]


theorem readMembers_comma {after : List Char} (blank : IsBlank after) {bytes tail : Bytes}
    (quoted : skipSpace bytes = quote :: tail) (found : Option Bytes) :
    readMembers false found (encodeChars after ++ comma :: bytes) =
      readMembers true found bytes := by
  rw [readMembers_eq, readMembers_eq, readKey_comma blank quoted]

theorem readMembers_end_iff {blank : List Char} (isBlank : IsBlank blank) (isFirst : Bool)
    (found : Option String) (rest : Bytes) {content after : Bytes} :
    readMembers isFirst (found.map encode) (encodeChars blank ++ objectEnd :: rest) =
        .ok (content, after) ↔
      ∃ text, found = some text ∧ content = encode text ∧ after = rest := by
  rw [readMembers_eq, readKey_end isBlank]
  cases found with
  | none => simp [Except.bind, failBefore]
  | some text =>
      simp only [Except.bind, Option.map_some, Except.ok.injEq, Prod.mk.injEq, Option.some.injEq,
        exists_eq_left']
      exact and_congr eq_comm eq_comm

/-- One member is read, and then the others. -/
theorem readMembers_member_iff {key : String} {value : Value} {label spelled : List Char}
    (labelled : SpellsLabel key label) (spells : Spells value spelled) {rest : Bytes}
    (ends : Delimits rest) (found : Option String) {content after : Bytes} :
    readMembers true (found.map encode)
        (encodeChars label ++ (encodeChars spelled ++ rest)) = .ok (content, after) ↔
      ∃ next, accept found (key, value) = some next ∧
        readMembers false (next.map encode) rest = .ok (content, after) := by
  cases labelled with
  | intro blankBefore quoted blankGap blankAfter =>
      simp only [encodeChars_append, List.append_assoc, encodeChars_single ':' colon rfl,
        List.cons_append]
      rw [readMembers_eq, readKey_first blankBefore quoted]
      change (readMember _ _ _).bind _ = _ ↔ _
      rw [bind_eq_ok_iff]
      simp only [Prod.exists, readMember_spelled_iff blankGap blankAfter spells ends found]
      constructor
      · rintro ⟨_, _, ⟨next, accepted, rfl, rfl⟩, read⟩
        exact ⟨next, accepted, read⟩
      · rintro ⟨next, accepted, read⟩
        exact ⟨_, _, ⟨next, accepted, rfl, rfl⟩, read⟩

/-- An object is read if all of its members are accepted and one is the field. -/
theorem readMembers_spelled_iff {members : List (String × Value)} {spelled : List Char}
    (spells : SpellsMembers members spelled) (found : Option String) (rest : Bytes)
    {content after : Bytes} :
    readMembers true (found.map encode) (encodeChars spelled ++ objectEnd :: rest) =
        .ok (content, after) ↔
      ∃ text, members.foldlM accept found = some (some text) ∧ content = encode text ∧
        after = rest := by
  cases spells with
  | last labelled spells blankAfter =>
      have ends := delimits_blank blankAfter (delimits_cons (.inr (.inr rfl)) rest)
      simp only [encodeChars_append, List.append_assoc]
      rw [readMembers_member_iff labelled spells ends found]
      simp only [readMembers_end_iff blankAfter, List.foldlM_cons, List.foldlM_nil]
      cases accept found _ with
      | none => simp
      | some next => simp
  | more labelled spells blankAfter tail =>
      rename_i key value members label _ last more
      have ends := delimits_blank blankAfter
        (delimits_cons (.inl rfl) (encodeChars more ++ objectEnd :: rest))
      obtain ⟨_, quoted⟩ := skipSpace_members tail (objectEnd :: rest)
      simp only [encodeChars_append, List.append_assoc, encodeChars_single ',' comma rfl,
        List.cons_append]
      rw [readMembers_member_iff labelled spells ends found]
      simp only [readMembers_comma blankAfter quoted, readMembers_spelled_iff tail,
        List.foldlM_cons]
      cases accept found (key, value) with
      | none => simp
      | some next => simp

/-! ## Lists -/

theorem readElement_of_first {bytes tail : Bytes} {first : UInt8}
    (space : skipSpace bytes = first :: tail) (visible : isSpace first = false)
    (differs : first ≠ listEnd) :
    readElement bytes = (readValue bytes).bind fun read =>
      (readListEnd read.2).map fun rest => (read.1, rest) := by
  have same : readValue (first :: tail) = readValue bytes := by
    simp only [readValue, space, skipSpace_cons visible]
  simp only [readElement, space, if_neg differs, same]

theorem readListEnd_close {after : List Char} (blank : IsBlank after) (rest : Bytes) :
    readListEnd (encodeChars after ++ listEnd :: rest) = .ok rest := by
  simp only [readListEnd, skipSpace_blank blank,
    skipSpace_cons (by decide : isSpace listEnd = false), if_true]

theorem readListEnd_comma {after : List Char} (blank : IsBlank after) (bytes : Bytes)
    {rest : Bytes} : readListEnd (encodeChars after ++ comma :: bytes) ≠ .ok rest := by
  simp only [readListEnd, skipSpace_blank blank, skipSpace_cons (by decide : isSpace comma = false),
    if_true]
  rw [if_neg (by decide)]
  split <;> exact fun never => nomatch never

/-- The element of a list has to be a string, and the list has to end after it. -/
theorem readElement_item_iff {value : Value} {before spelled : List Char} (blank : IsBlank before)
    (spells : Spells value spelled) (rest : Bytes) {content after : Bytes} :
    readElement (encodeChars before ++ (encodeChars spelled ++ rest)) = .ok (content, after) ↔
      ∃ text, value = .text text ∧ content = encode text ∧ readListEnd rest = .ok after := by
  obtain ⟨first, tail, shape, opens⟩ := exists_opening spells
  obtain ⟨visible, differs⟩ := opens.visible
  have space : skipSpace (encodeChars before ++ (encodeChars spelled ++ rest)) =
      first :: (tail ++ rest) := by
    rw [skipSpace_blank blank, shape, List.cons_append, skipSpace_cons visible]
  rw [readElement_of_first space visible differs, bind_eq_ok_iff]
  simp only [Prod.exists, readValue_spelled_iff blank spells, map_eq_ok_iff, Prod.mk.injEq]
  constructor
  · rintro ⟨_, _, ⟨text, rfl, rfl, rfl⟩, last, closed, rfl, rfl⟩
    exact ⟨text, rfl, rfl, closed⟩
  · rintro ⟨text, rfl, rfl, closed⟩
    exact ⟨_, _, ⟨text, rfl, rfl, rfl⟩, after, closed, rfl, rfl⟩

/-- A list of one string stands for the field; nothing may follow that string. -/
theorem readElement_spelled_iff {items : List Value} {spelled : List Char}
    (spells : SpellsItems items spelled) (rest : Bytes) {content after : Bytes} :
    readElement (encodeChars spelled ++ listEnd :: rest) = .ok (content, after) ↔
      ∃ text, items = [.text text] ∧ content = encode text ∧ after = rest := by
  cases spells with
  | last blankBefore spells blankAfter =>
      simp only [encodeChars_append, List.append_assoc, readElement_item_iff blankBefore spells,
        readListEnd_close blankAfter, List.cons.injEq, and_true, Except.ok.injEq, eq_comm]
  | more blankBefore spells blankAfter tail =>
      simp only [encodeChars_append, List.append_assoc, encodeChars_single ',' comma rfl,
        List.cons_append, readElement_item_iff blankBefore spells]
      constructor
      · rintro ⟨text, rfl, rfl, closed⟩
        exact absurd closed (readListEnd_comma blankAfter _)
      · rintro ⟨text, same, -⟩
        cases same
        cases tail

/-- A list is read if it holds one string and nothing else. -/
theorem readElement_list_iff {items : List Value} {spelled : List Char} {tail : Bytes}
    (spells : Spells (.list items) spelled) (shape : encodeChars spelled = listStart :: tail)
    (rest : Bytes) {content after : Bytes} :
    readElement (tail ++ rest) = .ok (content, after) ↔
      ∃ text, items = [.text text] ∧ content = encode text ∧ after = rest := by
  cases spells with
  | emptyList blank =>
      rw [encodeChars_single '[' listStart rfl, encodeChars_append] at shape
      cases shape
      rw [List.append_assoc]
      constructor
      · intro read
        simp only [encodeChars_single ']' listEnd rfl, List.cons_append, readElement,
          skipSpace_blank blank, skipSpace_cons (by decide : isSpace listEnd = false),
          if_true] at read
        cases read
      · rintro ⟨text, never, -⟩
        cases never
  | list spells =>
      rw [encodeChars_single '[' listStart rfl, encodeChars_append] at shape
      cases shape
      rw [List.append_assoc]
      exact readElement_spelled_iff spells rest

/-! ## Objects -/

/-- An object is read if the field comes once in it and is a string. -/
theorem readMembers_object_iff {members : List (String × Value)} {spelled : List Char}
    {tail : Bytes} (spells : Spells (.object members) spelled)
    (shape : encodeChars spelled = objectStart :: tail) (rest : Bytes) {content after : Bytes} :
    readMembers true none (tail ++ rest) = .ok (content, after) ↔
      ∃ text, fieldsOf members = [(fieldName, .text text)] ∧ content = encode text ∧
        after = rest := by
  cases spells with
  | emptyObject blank =>
      rw [encodeChars_single '\x7b' objectStart rfl, encodeChars_append] at shape
      cases shape
      rw [List.append_assoc]
      refine (readMembers_end_iff blank true none rest).trans ?_
      simp [fieldsOf]
  | object spells =>
      rw [encodeChars_single '\x7b' objectStart rfl, encodeChars_append] at shape
      cases shape
      rw [List.append_assoc]
      refine (readMembers_spelled_iff spells none rest).trans ?_
      simp only [foldlM_accept_iff, reduceCtorEq, and_false, false_or, true_and]

/-! ## Whole texts -/

theorem readContent_of_first {bytes rest content : Bytes} {first : UInt8}
    (space : skipSpace bytes = first :: rest) :
    readContent bytes = .ok content ↔ ∃ after, skipSpace after = [] ∧
      (if first = listStart then readElement rest
        else if first = objectStart then readMembers true none rest
        else wrongKind recordName first rest) = .ok (content, after) := by
  simp only [readContent, space, bind_eq_ok_iff, Prod.exists]
  constructor
  · rintro ⟨found, after, read, ended⟩
    split at ended
    · next nothing =>
        cases ended
        exact ⟨after, nothing, read⟩
    · cases ended
  · rintro ⟨after, nothing, read⟩
    exact ⟨content, after, read, by simp only [nothing]⟩

/-- What a text is read to depends on the value it spells alone. -/
theorem readContent_iff {value : Value} {text : List Char} (spells : IsTextOf value text)
    {content : Bytes} :
    readContent (encodeChars text) = .ok content ↔ ∃ shown, content = encode shown ∧
      ((∃ members, value = .object members ∧
        fieldsOf members = [(fieldName, .text shown)]) ∨ value = .list [.text shown]) := by
  cases spells with
  | intro blankBefore spells blankAfter =>
      rename_i before spelled after
      obtain ⟨first, tail, shape, opens⟩ := exists_opening spells
      have space : skipSpace (encodeChars (before ++ spelled ++ after)) =
          first :: (tail ++ encodeChars after) := by
        rw [encodeChars_append, encodeChars_append, List.append_assoc, skipSpace_blank blankBefore,
          shape, List.cons_append, skipSpace_cons opens.visible.1]
      have nothing : skipSpace (encodeChars after) = [] := by
        have skipped := skipSpace_blank blankAfter []
        rwa [List.append_nil] at skipped
      obtain ⟨-, isList, isObject⟩ := opens.marks
      rw [readContent_of_first space]
      cases value with
      | list items =>
          obtain rfl := isList.mpr ⟨items, rfl⟩
          simp only [if_true, readElement_list_iff spells shape]
          constructor
          · rintro ⟨_, -, shown, rfl, rfl, rfl⟩
            exact ⟨shown, rfl, .inr rfl⟩
          · rintro ⟨shown, rfl, ⟨_, never, -⟩ | same⟩
            · cases never
            · cases same
              exact ⟨_, nothing, shown, rfl, rfl, rfl⟩
      | object members =>
          obtain rfl := isObject.mpr ⟨members, rfl⟩
          rw [if_neg (by decide)]
          simp only [if_true, readMembers_object_iff spells shape]
          constructor
          · rintro ⟨_, -, shown, fields, rfl, rfl⟩
            exact ⟨shown, rfl, .inl ⟨members, rfl, fields⟩⟩
          · rintro ⟨shown, rfl, ⟨_, same, fields⟩ | never⟩
            · cases same
              exact ⟨_, nothing, shown, fields, rfl, rfl⟩
            · cases never
      | null | boolean | number | text =>
          rw [if_neg fun same => by simpa using isList.mp same,
            if_neg fun same => by simpa using isObject.mp same]
          constructor
          · rintro ⟨_, -, read⟩
            exact absurd read wrongKind_ne_ok
          · rintro ⟨_, -, ⟨_, never, -⟩ | never⟩ <;> cases never

/-- A text is read to a launcher exactly if its value has the field once, as a string. -/
theorem ofJson?_iff {value : Value} {text : String} (spells : IsTextOf value text.toList)
    (extensions : String) :
    ofJson? text = .ok ⟨extensions⟩ ↔
      (∃ members, value = .object members ∧
        fieldsOf members = [(fieldName, .text extensions)]) ∨
          value = .list [.text extensions] := by
  have read : ofJson? text = .ok ⟨extensions⟩ ↔
      ∃ content, readContent (encode text) = .ok content ∧ display content = extensions := by
    simp only [ofJson?]
    cases readContent (encode text) with
    | error fault => simp
    | ok content => simp
  rw [read]
  simp only [encode, readContent_iff spells]
  constructor
  · rintro ⟨_, ⟨shown, rfl, accepted⟩, rfl⟩
    have same : display (encodeChars shown.toList) = shown := display_encode shown
    rwa [same]
  · intro accepted
    exact ⟨encode extensions, ⟨extensions, rfl, accepted⟩, display_encode extensions⟩

/-- A launcher's file is read to its list of extensions and to nothing else.  Whatever value a text
spells, and however it does, the text is accepted exactly if the value is an object in which the
field comes once, as a string, or a list of one string.  So no other member of an object matters:
objects that agree in the field are read alike. -/
theorem ofJson?_reads_field (value : Value) (text : String)
    (spells : IsTextOf value text.toList) :
    (∀ extensions, ofJson? text = .ok ⟨extensions⟩ ↔
      (∃ members, value = .object members ∧
        members.filter (fun member => member.1 = "extlist") =
          [("extlist", .text extensions)]) ∨
        value = .list [.text extensions]) ∧
    ∀ members, value = .object members → ∀ others (other : String),
      IsTextOf (.object others) other.toList →
      others.filter (fun member => member.1 = "extlist") =
        members.filter (fun member => member.1 = "extlist") →
      ∀ launcher, ofJson? other = .ok launcher ↔ ofJson? text = .ok launcher := by
  refine ⟨ofJson?_iff spells, ?_⟩
  rintro members rfl others other otherSpells agree ⟨extensions⟩
  rw [ofJson?_iff spells, ofJson?_iff otherSpells]
  simp only [Value.object.injEq, exists_eq_left', reduceCtorEq, or_false]
  exact Eq.congr_left agree

/-- A file with a number, a list and an object to be passed over, and with escapes in the field. -/
def consoleText : String :=
  " \x7b\"n\":[1e2,\x7b\"a\": null\x7d],\"\\u0065xtlist\":\"\\uD83C\\udfaesfc\"\x7d\n"

/-- The value it spells. -/
def consoleValue : Value :=
  .object [("n", .list [.number 100, .object [("a", .null)]]), ("extlist", .text "🎮sfc")]

theorem isBlank_none : IsBlank [] :=
  fun _ none => nomatch none

theorem spells_hundred : Spells (.number 100) ['1', 'e', '2'] := by
  have scale : SpellsScale 2 ['e', '2'] := @SpellsScale.plain 'e' [2] (.inl rfl) (by decide)
  have size := @SpellsSize.intro [1] [] 2 [] ['e', '2'] (by decide) (by decide) .none scale
  have value : (digitsValue ([1] ++ []) * 10 ^ ((2 : ℤ) - ([] : List (Fin 10)).length) : ℚ) =
      100 := by
    norm_num [digitsValue]
  rw [value] at size
  exact .number (.plain size)

theorem spells_label {key : String} {spelled : List Char} (spells : SpellsChars key.toList spelled)
    {after : List Char} (blank : IsBlank after) :
    SpellsLabel key ('"' :: (spelled ++ ['"']) ++ ':' :: after) := by
  have label := SpellsLabel.intro isBlank_none (.intro spells) isBlank_none blank
  rwa [List.nil_append, List.append_nil] at label

/-- The key is spelled with an escape. -/
theorem spells_key : SpellsChars "extlist".toList
    ['\\', 'u', '0', '0', '6', '5', 'x', 't', 'l', 'i', 's', 't'] := by
  have unit : SpellsUnit 0x65 ['0', '0', '6', '5'] := @SpellsUnit.intro 0 0 6 5 _ _ _ _
    ⟨by decide, .inl rfl⟩ ⟨by decide, .inl rfl⟩ ⟨by decide, .inl rfl⟩ ⟨by decide, .inl rfl⟩
  have rest : SpellsChars ['x', 't', 'l', 'i', 's', 't'] _ := spellsChars_plain (by simp)
  exact .cons (@SpellsChar.unit 'e' _ unit) rest

/-- The value is spelled with a surrogate pair. -/
theorem spells_extensions : SpellsChars "🎮sfc".toList
    ['\\', 'u', 'D', '8', '3', 'C', '\\', 'u', 'd', 'f', 'a', 'e', 's', 'f', 'c'] := by
  have leading : SpellsUnit 0xD83C ['D', '8', '3', 'C'] := @SpellsUnit.intro 0xD 8 3 0xC _ _ _ _
    ⟨by decide, .inr rfl⟩ ⟨by decide, .inl rfl⟩ ⟨by decide, .inl rfl⟩ ⟨by decide, .inr rfl⟩
  have trailing : SpellsUnit 0xDFAE ['d', 'f', 'a', 'e'] := @SpellsUnit.intro 0xD 0xF 0xA 0xE
    _ _ _ _ ⟨by decide, .inl rfl⟩ ⟨by decide, .inl rfl⟩ ⟨by decide, .inl rfl⟩
    ⟨by decide, .inl rfl⟩
  have rest : SpellsChars ['s', 'f', 'c'] _ := spellsChars_plain (by simp)
  exact .cons (@SpellsChar.pair '🎮' _ _ _ _ (by decide) (by decide) (by decide) leading trailing)
    rest

theorem consoleText_spells : IsTextOf consoleValue consoleText.toList := by
  have blank (space : List Char) (all : ∀ character ∈ space, character ∈ [' ', '\n']) :
      IsBlank space := by
    intro character member
    have known := all character member
    simp only [List.mem_cons, List.not_mem_nil, or_false] at known ⊢
    tauto
  have inside : SpellsChars "a".toList ['a'] := spellsChars_plain (by simp)
  have outside : SpellsChars "n".toList ['n'] := spellsChars_plain (by simp)
  have inner : Spells (.object [("a", .null)]) _ :=
    .object (.last (spells_label inside (blank [' '] (by simp))) .null isBlank_none)
  have numbers : Spells (.list [.number 100, .object [("a", .null)]]) _ :=
    .list (.more isBlank_none spells_hundred isBlank_none (.last isBlank_none inner isBlank_none))
  have whole : Spells consoleValue _ :=
    .object (.more (spells_label outside isBlank_none) numbers isBlank_none
      (.last (spells_label spells_key isBlank_none) (.text (.intro spells_extensions))
        isBlank_none))
  exact .intro (blank [' '] (by simp)) whole (blank ['\n'] (by simp))

/-- The file is read to its field. -/
theorem ofJson?_consoleText :
    IsTextOf consoleValue consoleText.toList ∧ ofJson? consoleText = .ok ⟨"🎮sfc"⟩ := by
  obtain ⟨accepted, -⟩ := ofJson?_reads_field consoleValue consoleText consoleText_spells
  exact ⟨consoleText_spells, (accepted "🎮sfc").mpr (.inl ⟨_, rfl, by simp⟩)⟩

end Launcher
end CardKeeper

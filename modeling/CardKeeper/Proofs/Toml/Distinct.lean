import CardKeeper.Proofs.Toml.Table

/-!
# Keys of a document differ

However a document is written, no table in it holds a key twice, at any depth: `distinct_parse?`.
Each line keeps this of the tables under construction, since a value is added only where its key is
free and a table is changed where it stands: `distinct_changeAt`.  Tables in braces are put together
in the same way.
-/

namespace CardKeeper
namespace Toml

variable {key : String} {item : Item} {items changed : Items} {value : Value}

/-- The keys of every table in a value differ. -/
inductive Value.Distinct : Value → Prop
  | text (text : String) : Distinct (.text text)
  | integer (number : Int) : Distinct (.integer number)
  | real (written : String) : Distinct (.real written)
  | boolean (truth : Bool) : Distinct (.boolean truth)
  | moment (shown : String) : Distinct (.moment shown)
  | list {items : List Value} (each : ∀ item ∈ items, Distinct item) : Distinct (.list items)
  | table {members : List (String × Value)} (keys : (members.map (·.1)).Nodup)
      (each : ∀ member ∈ members, Distinct member.2) : Distinct (.table members)

/-- The keys of every table in an item differ. -/
inductive Item.Distinct : Item → Prop
  | value {value : Value} (distinct : value.Distinct) : Distinct (.value value)
  | table {origin : Origin} {members : Items} (keys : (members.map (·.1)).Nodup)
      (each : ∀ member ∈ members, Distinct member.2) : Distinct (.table origin members)
  | tables {before : List Items} {last : Items}
      (keysBefore : ∀ members ∈ before, (members.map (·.1)).Nodup)
      (eachBefore : ∀ members ∈ before, ∀ member ∈ members, Distinct member.2)
      (keys : (last.map (·.1)).Nodup) (each : ∀ member ∈ last, Distinct member.2) :
      Distinct (.tables before last)

/-- The keys of items, and of every table in them, differ. -/
structure AllDistinct (items : Items) : Prop where
  /-- Their own keys differ. -/
  keys : (items.map (·.1)).Nodup
  /-- So do those of the tables in each of them. -/
  each : ∀ member ∈ items, member.2.Distinct

theorem allDistinct_nil : AllDistinct [] := ⟨.nil, by simp⟩

/-! ## Changes of items -/

theorem mem_of_item? (found : item? key items = some item) : (key, item) ∈ items := by
  induction items with
  | nil => cases found
  | cons member rest ih =>
      rw [item?] at found
      split at found
      · next same =>
          cases found
          rw [← same]
          exact List.mem_cons_self
      · exact List.mem_cons_of_mem _ (ih found)

theorem not_mem_of_item? (free : item? key items = none) : key ∉ items.map (·.1) := by
  induction items with
  | nil => simp
  | cons member rest ih =>
      rw [item?] at free
      split at free
      · cases free
      · next differs =>
          rw [List.map_cons, List.mem_cons, not_or]
          exact ⟨Ne.symm differs, ih free⟩

theorem mem_putItem {member : String × Item} (inside : member ∈ putItem key item items) :
    member = (key, item) ∨ member ∈ items := by
  induction items with
  | nil => exact .inl (List.mem_singleton.mp inside)
  | cons first rest ih =>
      rw [putItem] at inside
      split at inside
      · exact (List.mem_cons.mp inside).imp_right (List.mem_cons_of_mem _)
      · rcases List.mem_cons.mp inside with rfl | later
        · exact .inr List.mem_cons_self
        · exact (ih later).imp_right (List.mem_cons_of_mem _)

theorem AllDistinct.putItem (distinct : AllDistinct items) (new : item.Distinct) :
    AllDistinct (putItem key item items) where
  keys := by
    have keys := distinct.keys
    clear distinct
    induction items with
    | nil => simp [Toml.putItem]
    | cons first rest ih =>
        obtain ⟨fresh, later⟩ := List.nodup_cons.mp keys
        rw [Toml.putItem]
        split
        · next same => exact List.nodup_cons.mpr ⟨same ▸ fresh, later⟩
        · next differs =>
            refine List.nodup_cons.mpr ⟨fun inside => ?_, ih later⟩
            obtain ⟨member, listed, same⟩ := List.mem_map.mp inside
            rcases mem_putItem listed with rfl | old
            · exact differs same.symm
            · exact fresh (List.mem_map.mpr ⟨member, old, same⟩)
  each member inside := by
    rcases mem_putItem inside with rfl | old
    · exact new
    · exact distinct.each member old

/-- An item at a free key leaves the keys different. -/
theorem AllDistinct.concat (distinct : AllDistinct items) (free : item? key items = none)
    (new : item.Distinct) : AllDistinct (items ++ [(key, item)]) where
  keys := by
    rw [List.map_append, List.nodup_append]
    refine ⟨distinct.keys, by simp, fun first inside second last same => ?_⟩
    obtain rfl : second = key := by simpa using last
    exact not_mem_of_item? free (same ▸ inside)
  each member inside := by
    rcases List.mem_append.mp inside with old | last
    · exact distinct.each member old
    · exact List.mem_singleton.mp last ▸ new

/-- A change that keeps keys different does so wherever it is made. -/
theorem distinct_changeAt {change : Origin → Items → Option Items}
    (keeps : ∀ own items changed, AllDistinct items → change own items = some changed →
      AllDistinct changed) {origin own : Origin} {path : List String}
    (distinct : AllDistinct items) (made : changeAt origin change own path items = some changed) :
    AllDistinct changed := by
  induction path generalizing own items changed with
  | nil => exact keeps own items changed distinct made
  | cons key path ih =>
      rw [changeAt] at made
      split at made
      · obtain ⟨inner, below, rfl⟩ := Option.map_eq_some_iff.mp made
        obtain ⟨keys, each⟩ := ih allDistinct_nil below
        exact distinct.putItem (.table keys each)
      · cases made
      · next before last found =>
          obtain ⟨inner, below, rfl⟩ := Option.map_eq_some_iff.mp made
          cases distinct.each _ (mem_of_item? found) with
          | tables keysBefore eachBefore keys each =>
              obtain ⟨keys, each⟩ := ih ⟨keys, each⟩ below
              exact distinct.putItem (.tables keysBefore eachBefore keys each)
      · next origin members found =>
          split at made
          · cases made
          · obtain ⟨inner, below, rfl⟩ := Option.map_eq_some_iff.mp made
            cases distinct.each _ (mem_of_item? found) with
            | table keys each =>
                obtain ⟨keys, each⟩ := ih ⟨keys, each⟩ below
                exact distinct.putItem (.table keys each)

/-! ## Lines -/

theorem distinct_addValue (new : value.Distinct) (distinct : AllDistinct items)
    (added : addValue key value items = some changed) : AllDistinct changed := by
  rw [addValue] at added
  split at added
  · next free =>
      cases added
      exact distinct.concat free (.value new)
  · cases added

theorem distinct_addDotted {keys : List String} (new : value.Distinct)
    (distinct : AllDistinct items) (added : addDotted keys value items = some changed) :
    AllDistinct changed := by
  rw [addDotted] at added
  split at added
  · cases added
  · refine distinct_changeAt (fun own items changed distinct made => ?_) distinct added
    split at made
    · cases made
    · exact distinct_addValue new distinct made

theorem distinct_openTable {path : List String} (distinct : AllDistinct items)
    (opened : openTable path items = some changed) : AllDistinct changed := by
  rw [openTable] at opened
  split at opened
  · cases opened
  · refine distinct_changeAt (fun own items changed distinct made => ?_) distinct opened
    split at made
    · next free =>
        cases made
        exact distinct.concat free (.table .nil (by simp))
    · next members found =>
        cases made
        cases distinct.each _ (mem_of_item? found) with
        | table keys each => exact distinct.putItem (.table keys each)
    · cases made

theorem distinct_openRepeated {path : List String} (distinct : AllDistinct items)
    (opened : openRepeated path items = some changed) : AllDistinct changed := by
  rw [openRepeated] at opened
  split at opened
  · cases opened
  · refine distinct_changeAt (fun own items changed distinct made => ?_) distinct opened
    split at made
    · next free =>
        cases made
        exact distinct.concat free (.tables (by simp) (by simp) .nil (by simp))
    · next before last found =>
        cases made
        cases distinct.each _ (mem_of_item? found) with
        | tables keysBefore eachBefore keys each =>
            refine distinct.putItem (.tables (fun members inside => ?_)
              (fun members inside => ?_) .nil (by simp))
            · rcases List.mem_append.mp inside with old | new
              · exact keysBefore members old
              · exact List.mem_singleton.mp new ▸ keys
            · rcases List.mem_append.mp inside with old | new
              · exact eachBefore members old
              · exact List.mem_singleton.mp new ▸ each
    · cases made

/-- The keys of every table in the value of a line differ. -/
def Line.Distinct : Line → Prop
  | .member _ value => value.Distinct
  | _ => True

theorem distinct_addLine {state next : List String × Items} {line : Line} (new : line.Distinct)
    (distinct : AllDistinct state.2) (added : addLine state line = some next) :
    AllDistinct next.2 := by
  cases line with
  | header path =>
      obtain ⟨changed, opened, rfl⟩ := Option.map_eq_some_iff.mp added
      exact distinct_openTable distinct opened
  | repeated path =>
      obtain ⟨changed, opened, rfl⟩ := Option.map_eq_some_iff.mp added
      exact distinct_openRepeated distinct opened
  | member keys value =>
      obtain ⟨changed, made, rfl⟩ := Option.map_eq_some_iff.mp added
      exact distinct_changeAt (fun _ _ _ => distinct_addDotted new) distinct made

/-- What every step keeps holds after the last one. -/
theorem of_foldlM {α β : Type} {step : α → β → Option α} {good : α → Prop} {fine : β → Prop}
    (keeps : ∀ state entry next, fine entry → good state → step state entry = some next →
      good next) {entries : List β} (all : ∀ entry ∈ entries, fine entry) {state last : α}
    (start : good state) (folded : entries.foldlM step state = some last) : good last := by
  induction entries generalizing state with
  | nil =>
      cases folded
      exact start
  | cons entry entries ih =>
      rw [List.foldlM_cons] at folded
      obtain ⟨next, stepped, folded⟩ := Option.bind_eq_some_iff.mp folded
      obtain ⟨here, later⟩ := List.forall_mem_cons.mp all
      exact ih later (keeps state entry next here start stepped) folded

/-! ## What items say -/

theorem tablesOf_eq_map (before : List Items) :
    tablesOf before = before.map fun members => .table (valuesOf members) := by
  induction before with
  | nil => rfl
  | cons members before ih => rw [tablesOf, ih, List.map_cons]

theorem keys_valuesOf (items : Items) : (valuesOf items).map (·.1) = items.map (·.1) := by
  rw [valuesOf_eq_map, List.map_map]
  rfl

theorem distinct_table_valuesOf (keys : (items.map (·.1)).Nodup)
    (each : ∀ member ∈ items, member.2.toValue.Distinct) :
    (Value.table (valuesOf items)).Distinct := by
  refine .table (keys_valuesOf items ▸ keys) fun member inside => ?_
  rw [valuesOf_eq_map] at inside
  obtain ⟨own, listed, rfl⟩ := List.mem_map.mp inside
  exact each own listed

theorem Item.Distinct.toValue (distinct : item.Distinct) : item.toValue.Distinct := by
  induction distinct with
  | value distinct => exact distinct
  | table keys each ih => exact distinct_table_valuesOf keys ih
  | tables keysBefore eachBefore keys each ihBefore ih =>
      refine .list fun value inside => ?_
      rw [tablesOf_eq_map] at inside
      rcases List.mem_append.mp inside with old | last
      · obtain ⟨members, listed, rfl⟩ := List.mem_map.mp old
        exact distinct_table_valuesOf (keysBefore members listed) (ihBefore members listed)
      · exact List.mem_singleton.mp last ▸ distinct_table_valuesOf keys ih

theorem AllDistinct.table (distinct : AllDistinct items) :
    (Value.table (valuesOf items)).Distinct :=
  distinct_table_valuesOf distinct.keys fun member inside => (distinct.each member inside).toValue

/-! ## Values that are written out -/

theorem distinct_tableOf {pairs : List (List String × Value)} {members : List (String × Value)}
    (all : ∀ pair ∈ pairs, pair.2.Distinct) (made : tableOf pairs = some members) :
    (Value.table members).Distinct := by
  obtain ⟨items, folded, rfl⟩ := Option.map_eq_some_iff.mp made
  exact AllDistinct.table (of_foldlM
    (fun items pair changed new distinct added => distinct_addDotted new distinct added)
    all allDistinct_nil folded)

section

variable {value? : List Char → Option (Value × List Char)} {characters rest : List Char}

theorem distinct_listItems?
    (each : ∀ characters value rest, value? characters = some (value, rest) → value.Distinct)
    {count : Nat} {values : List Value}
    (read : listItems? value? count characters = some (values, rest)) :
    ∀ value ∈ values, value.Distinct := by
  induction count generalizing characters values rest with
  | zero => cases read
  | succ count ih =>
      rw [listItems?] at read
      obtain ⟨visible, -, read⟩ := Option.bind_eq_some_iff.mp read
      split at read
      · cases read
        simp
      · obtain ⟨⟨first, behind⟩, one, read⟩ := Option.bind_eq_some_iff.mp read
        obtain ⟨next, -, read⟩ := Option.bind_eq_some_iff.mp read
        have fine := each _ _ _ one
        split at read
        · cases read
          simpa using fine
        · obtain ⟨⟨more, last⟩, others, same⟩ := Option.map_eq_some_iff.mp read
          cases same
          exact List.forall_mem_cons.mpr ⟨fine, ih others⟩
        · cases read

theorem distinct_member?
    (each : ∀ characters value rest, value? characters = some (value, rest) → value.Distinct)
    {pair : List String × Value} (read : member? value? characters = some (pair, rest)) :
    pair.2.Distinct := by
  rw [member?] at read
  obtain ⟨⟨keys, behind⟩, -, read⟩ := Option.bind_eq_some_iff.mp read
  obtain ⟨behind, -, read⟩ := Option.bind_eq_some_iff.mp read
  obtain ⟨⟨value, last⟩, one, same⟩ := Option.map_eq_some_iff.mp read
  cases same
  exact each _ _ _ one

theorem distinct_braceItems?
    (each : ∀ characters value rest, value? characters = some (value, rest) → value.Distinct)
    {count : Nat} {pairs : List (List String × Value)}
    (read : braceItems? value? count characters = some (pairs, rest)) :
    ∀ pair ∈ pairs, pair.2.Distinct := by
  induction count generalizing characters pairs rest with
  | zero => cases read
  | succ count ih =>
      rw [braceItems?] at read
      obtain ⟨⟨first, behind⟩, one, read⟩ := Option.bind_eq_some_iff.mp read
      have fine := distinct_member? each one
      dsimp only at read
      split at read
      · cases read
        simpa using fine
      · obtain ⟨⟨more, last⟩, others, same⟩ := Option.map_eq_some_iff.mp read
        cases same
        exact List.forall_mem_cons.mpr ⟨fine, ih others⟩
      · cases read

theorem distinct_ofRun? {run : List Char} (read : ofRun? run = some value) : value.Distinct := by
  unfold ofRun? at read
  repeat' split at read
  all_goals cases read
  all_goals constructor

theorem distinct_scalarValue? (read : scalarValue? characters = some (value, rest)) :
    value.Distinct := by
  have ofRun {run behind : List Char}
      (read : ((ofRun? run).map fun value => (value, behind)) = some (value, rest)) :
      value.Distinct := by
    obtain ⟨own, found, same⟩ := Option.map_eq_some_iff.mp read
    cases same
    exact distinct_ofRun? found
  simp only [scalarValue?] at read
  split at read
  · split at read
    · cases read
      exact .moment _
    · exact ofRun read
  · exact ofRun read

/-- A value that is written out, with its lists and its tables in braces. -/
theorem distinct_value? {depth : Nat} (read : Toml.value? depth characters = some (value, rest)) :
    value.Distinct := by
  induction depth using Nat.strongRecOn generalizing characters value rest with
  | ind depth ih =>
      have inner {below : Nat} (less : below < depth) (characters : List Char) (value : Value)
          (rest : List Char) (read : Toml.value? below characters = some (value, rest)) :
          value.Distinct := ih below less read
      rw [Toml.value?.eq_def] at read
      dsimp only at read
      split at read
      · cases read
      split at read
      · split at read
        · cases read
        · obtain ⟨⟨values, behind⟩, items, same⟩ := Option.map_eq_some_iff.mp read
          cases same
          exact .list (distinct_listItems? (inner (Nat.lt_succ_self _)) items)
      split at read
      · split at read
        · cases read
        · split at read
          · cases read
            exact .table .nil (by simp)
          · obtain ⟨⟨pairs, behind⟩, items, read⟩ := Option.bind_eq_some_iff.mp read
            obtain ⟨members, made, same⟩ := Option.map_eq_some_iff.mp read
            cases same
            exact distinct_tableOf (distinct_braceItems? (inner (Nat.lt_succ_self _)) items) made
      split at read
      · obtain ⟨⟨content, behind⟩, -, same⟩ := Option.map_eq_some_iff.mp read
        cases same
        exact .text _
      · exact distinct_scalarValue? read

/-! ## Documents -/

theorem distinct_header? {line : Line} (read : header? characters = some (line, rest)) :
    line.Distinct := by
  unfold header? at read
  split at read
  all_goals
    obtain ⟨⟨path, behind⟩, -, read⟩ := Option.bind_eq_some_iff.mp read
    dsimp only at read
    split at read
    · cases read
      trivial
    · cases read

theorem distinct_line? {line : Line} (read : line? characters = some (some line, rest)) :
    line.Distinct := by
  rw [line?] at read
  split at read
  · cases read
  split at read
  · obtain ⟨behind, -, same⟩ := Option.map_eq_some_iff.mp read
    cases same
  · obtain ⟨⟨own, behind⟩, found, read⟩ := Option.bind_eq_some_iff.mp read
    obtain ⟨last, -, same⟩ := Option.map_eq_some_iff.mp read
    cases same
    split at found
    · exact distinct_header? found
    · obtain ⟨⟨pair, after⟩, member, same⟩ := Option.map_eq_some_iff.mp found
      cases same
      exact distinct_member? (fun _ _ _ => distinct_value?) member

theorem distinct_lines? {count : Nat} {lines : List Line}
    (read : lines? count characters = some lines) : ∀ line ∈ lines, line.Distinct := by
  induction count generalizing characters lines with
  | zero =>
      cases characters with
      | nil =>
          cases read
          simp
      | cons first rest => cases read
  | succ count ih =>
      cases characters with
      | nil =>
          cases read
          simp
      | cons first rest =>
          rw [lines?.eq_def] at read
          dsimp only at read
          obtain ⟨⟨line, behind⟩, one, read⟩ := Option.bind_eq_some_iff.mp read
          obtain ⟨more, others, rfl⟩ := Option.map_eq_some_iff.mp read
          intro own inside
          rcases List.mem_append.mp inside with here | later
          · cases line with
            | none => cases here
            | some line => exact List.mem_singleton.mp here ▸ distinct_line? one
          · exact ih others own later

end

/-- No table of a document holds a key twice. -/
theorem distinct_parse? {text : String} {members : List (String × Value)}
    (read : parse? text = some members) : (Value.table members).Distinct := by
  unfold parse? at read
  obtain ⟨lines, found, read⟩ := Option.bind_eq_some_iff.mp read
  obtain ⟨state, folded, rfl⟩ := Option.map_eq_some_iff.mp read
  exact AllDistinct.table (of_foldlM
    (fun state line next new distinct added => distinct_addLine new distinct added)
    (distinct_lines? found) allDistinct_nil folded)

end Toml
end CardKeeper

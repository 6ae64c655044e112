import Mathlib
import CardKeeper.Toml.Document

/-!
# Tables that are written one after the other

A document of which each table stands under one header, with its members at keys of their own, is
put together without a contradiction: at each line the table it adds to is the last one, as is
every table around it.  `nest` is the document at such a line, and `foldlM_tableLines` adds a whole
table to it.
-/

namespace CardKeeper
namespace Toml

variable {key : String} {items inner : Items}

/-! ## Items at the end of others -/

theorem item?_append (free : key ∉ items.map (·.1)) (more : Items) :
    item? key (items ++ more) = item? key more := by
  induction items with
  | nil => rfl
  | cons member items ih =>
      rw [List.map_cons, List.mem_cons, not_or] at free
      rw [List.cons_append, item?, if_neg (Ne.symm free.1), ih free.2]

theorem item?_of_free (free : key ∉ items.map (·.1)) : item? key items = none := by
  simpa [item?] using item?_append free []

theorem item?_last (free : key ∉ items.map (·.1)) (item : Item) :
    item? key (items ++ [(key, item)]) = some item := by
  rw [item?_append free, item?, if_pos rfl]

theorem putItem_last (free : key ∉ items.map (·.1)) (old new : Item) :
    putItem key new (items ++ [(key, old)]) = items ++ [(key, new)] := by
  induction items with
  | nil => rw [List.nil_append, putItem, if_pos rfl, List.nil_append]
  | cons member items ih =>
      rw [List.map_cons, List.mem_cons, not_or] at free
      rw [List.cons_append, putItem, if_neg (Ne.symm free.1), ih free.2, List.cons_append]

/-! ## The table under the last header -/

/-- A table around the one that lines add to, which is its last member. -/
structure Frame where
  /-- The members before the last one. -/
  before : Items
  /-- The key of the last member. -/
  key : String
  /-- The key stands for the last member alone. -/
  free : key ∉ before.map (·.1)

/-- Items in the tables around them, the outermost first. -/
def nest : List Frame → Items → Items
  | [], inner => inner
  | frame :: frames, inner => frame.before ++ [(frame.key, .table .header (nest frames inner))]

theorem nest_concat (frames : List Frame) (frame : Frame) (inner : Items) :
    nest (frames ++ [frame]) inner =
      nest frames (frame.before ++ [(frame.key, .table .header inner)]) := by
  induction frames with
  | nil => rfl
  | cons outer frames ih => rw [List.cons_append, nest, nest, ih]

/-- A change under the tables around is a change of the items in them. -/
theorem changeAt_nest (change : Origin → Items → Option Items) (frames : List Frame)
    (inner : Items) :
    changeAt .inner change .header (frames.map (·.key)) (nest frames inner) =
      (change .header inner).map (nest frames) := by
  induction frames with
  | nil => exact Option.map_id'.symm
  | cons frame frames ih =>
      rw [List.map_cons, nest, changeAt, item?_last frame.free]
      dsimp only
      rw [if_neg (by decide), ih, Option.map_map]
      congr 1
      funext changed
      exact putItem_last frame.free _ _

theorem openTable_nest (frames : List Frame) (free : key ∉ items.map (·.1)) :
    openTable (frames.map (·.key) ++ [key]) (nest frames items) =
      some (nest frames (items ++ [(key, .table .header [])])) := by
  rw [openTable, List.getLast?_concat, List.dropLast_concat]
  dsimp only
  rw [changeAt_nest, item?_of_free free, Option.map_some]

theorem addLine_member (frames : List Frame) (free : key ∉ items.map (·.1)) (value : Value) :
    addLine (frames.map (·.key), nest frames items) (.member [key] value) =
      some (frames.map (·.key), nest frames (items ++ [(key, .value value)])) := by
  have added : addDotted [key] value items = some (items ++ [(key, .value value)]) := by
    simp [addDotted, changeAt, addValue, item?_of_free free]
  rw [addLine, changeUnder, changeAt_nest, added, Option.map_some, Option.map_some]

/-! ## Whole tables -/

/-- Members with their values, each on a line of its own. -/
def memberLines (members : List (String × Value)) : List Line :=
  members.map fun member => .member [member.1] member.2

/-- Members with their values, as items. -/
def valueItems (members : List (String × Value)) : Items :=
  members.map fun member => (member.1, .value member.2)

/-- A table under a header of its own, with its key. -/
def tableItem (key : String) (members : List (String × Value)) : String × Item :=
  (key, .table .header (valueItems members))

/-- A header and the members under it. -/
def tableLines (path : List String) (members : List (String × Value)) : List Line :=
  .header path :: memberLines members

theorem foldlM_memberLines (frames : List Frame) (members : List (String × Value))
    (distinct : (items.map (·.1) ++ members.map (·.1)).Nodup) :
    (memberLines members).foldlM addLine (frames.map (·.key), nest frames items) =
      some (frames.map (·.key), nest frames (items ++ valueItems members)) := by
  induction members generalizing items with
  | nil => simp [memberLines, valueItems]
  | cons member members ih =>
      have free : member.1 ∉ items.map (·.1) := by
        intro taken
        exact (List.nodup_append.mp distinct).2.2 _ taken _ List.mem_cons_self rfl
      have later := @ih (items ++ [(member.1, .value member.2)]) (by simpa using distinct)
      rw [memberLines, List.map_cons, List.foldlM_cons, addLine_member frames free]
      simpa [memberLines, valueItems] using later

/-- A table that is not there yet is added with all of its members. -/
theorem foldlM_tableLines (frames : List Frame) (current : List String)
    {members : List (String × Value)} (free : key ∉ items.map (·.1))
    (distinct : (members.map (·.1)).Nodup) :
    (tableLines (frames.map (·.key) ++ [key]) members).foldlM addLine
        (current, nest frames items) =
      some (frames.map (·.key) ++ [key], nest frames (items ++ [tableItem key members])) := by
  let frame : Frame := ⟨items, key, free⟩
  have opened : addLine (current, nest frames items) (.header (frames.map (·.key) ++ [key])) =
      some ((frames ++ [frame]).map (·.key), nest (frames ++ [frame]) []) := by
    rw [addLine, openTable_nest frames free, nest_concat, List.map_append]
    rfl
  have filled := @foldlM_memberLines [] (frames ++ [frame]) members (by simpa using distinct)
  rw [tableLines, List.foldlM_cons, opened]
  simpa [nest_concat, frame, tableItem] using filled

/-! ## What the items say -/

theorem valuesOf_eq_map (items : Items) :
    valuesOf items = items.map fun member => (member.1, member.2.toValue) := by
  induction items with
  | nil => rfl
  | cons member items ih => rw [valuesOf, ih, List.map_cons]

theorem valuesOf_valueItems (members : List (String × Value)) :
    valuesOf (valueItems members) = members := by
  rw [valuesOf_eq_map, valueItems, List.map_map]
  exact List.map_id _

theorem toValue_tableItem (key : String) (members : List (String × Value)) :
    (tableItem key members).2.toValue = .table members := by
  rw [tableItem, Item.toValue, valuesOf_valueItems]

end Toml
end CardKeeper

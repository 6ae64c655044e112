import CardKeeper.Toml.Value

/-!
# Tables of TOML under construction

A table may be spread over a document, so while a document is read each table remembers how it came
about: by a header of its own, by the header of a table inside of it, or by dots in a key.  This
decides which later lines may add to it.  A value that is written out, also a table in braces, is
closed to all of them.
-/

namespace CardKeeper
namespace Toml

/-- How a table came about. -/
inductive Origin where
  /-- By a header or braces of its own. -/
  | header
  /-- By the header of a table inside of it. -/
  | inner
  /-- By a key with dots. -/
  | dots
  deriving DecidableEq

/-- What stands at a key while a document is read. -/
inductive Item where
  /-- A value that is written out. -/
  | value (value : Value)
  /-- A table. -/
  | table (origin : Origin) (members : List (String × Item))
  /-- The members of the tables that repeated headers have defined, with the last one apart. -/
  | tables (before : List (List (String × Item))) (last : List (String × Item))

/-- The items of a table. -/
abbrev Items := List (String × Item)

/-- What stands at a key. -/
def item? (key : String) : Items → Option Item
  | [] => none
  | member :: rest => if member.1 = key then some member.2 else item? key rest

/-- Items with the one at a key replaced, or added at the end. -/
def putItem (key : String) (item : Item) : Items → Items
  | [] => [(key, item)]
  | member :: rest =>
      if member.1 = key then (key, item) :: rest else member :: putItem key item rest

/-- Items with a change made in the table that a path of keys leads to.  Tables that are not there
come about as `origin` says; a path that is written with dots may not lead into a table with a
header of its own.  The change is told how the table came about. -/
def changeAt (origin : Origin) (change : Origin → Items → Option Items) (own : Origin) :
    List String → Items → Option Items
  | [], items => change own items
  | key :: path, items =>
      match item? key items with
      | none =>
          (changeAt origin change origin path []).map fun inner =>
            putItem key (.table origin inner) items
      | some (.value _) => none
      | some (.tables before last) =>
          (changeAt origin change .header path last).map fun inner =>
            putItem key (.tables before inner) items
      | some (.table found members) =>
          if origin = .dots ∧ found = .header then none
          else
            (changeAt origin change found path members).map fun inner =>
              putItem key (.table found inner) items

/-- Items with one more value at a key, which has to be free. -/
def addValue (key : String) (value : Value) (items : Items) : Option Items :=
  match item? key items with
  | none => some (items ++ [(key, .value value)])
  | some _ => none

/-- Items with the value of a key with dots.  The table that the dots lead to must have come about
by dots. -/
def addDotted (keys : List String) (value : Value) (items : Items) : Option Items :=
  match keys.getLast? with
  | none => none
  | some key =>
      changeAt .dots
        (fun own items =>
          if !keys.dropLast.isEmpty && own != .dots then none else addValue key value items)
        .header keys.dropLast items

/-- Items with the table that a header names.  It may have been there only as the outer table of
others. -/
def openTable (path : List String) (items : Items) : Option Items :=
  match path.getLast? with
  | none => none
  | some key =>
      changeAt .inner
        (fun _ items =>
          match item? key items with
          | none => some (items ++ [(key, .table .header [])])
          | some (.table .inner members) => some (putItem key (.table .header members) items)
          | some _ => none)
        .header path.dropLast items

/-- Items with one more of the tables that a repeated header names. -/
def openRepeated (path : List String) (items : Items) : Option Items :=
  match path.getLast? with
  | none => none
  | some key =>
      changeAt .inner
        (fun _ items =>
          match item? key items with
          | none => some (items ++ [(key, .tables [] [])])
          | some (.tables before last) => some (putItem key (.tables (before ++ [last]) []) items)
          | some _ => none)
        .header path.dropLast items

/-- Items with a change made in the table under the header of a path. -/
def changeUnder (change : Items → Option Items) (path : List String) (items : Items) :
    Option Items :=
  changeAt .inner (fun _ => change) .header path items

mutual

/-- What an item says. -/
def Item.toValue : Item → Value
  | .value value => value
  | .table _ members => .table (valuesOf members)
  | .tables before last => .list (tablesOf before ++ [.table (valuesOf last)])

/-- What items say. -/
def valuesOf : List (String × Item) → List (String × Value)
  | [] => []
  | (key, item) :: rest => (key, item.toValue) :: valuesOf rest

/-- What tables say. -/
def tablesOf : List (List (String × Item)) → List Value
  | [] => []
  | members :: rest => .table (valuesOf members) :: tablesOf rest

end

/-- The table with some values at keys that may have dots. -/
def tableOf (pairs : List (List String × Value)) : Option (List (String × Value)) :=
  (pairs.foldlM (fun items pair => addDotted pair.1 pair.2 items) []).map valuesOf

end Toml
end CardKeeper

/-!
# Layout rules

A card keeps one folder of games per console.  The rules say which of these folders are left out
of an audit, under which name the launcher keeps a console's configuration, and which console
stores each title as a folder of discs.  Names are compared as they are, with their case.

Aliases are kept in the order of their keys, so two tables with the same aliases are equal.
-/

namespace CardKeeper

/-- A table from text to text, in the order of its keys, which all differ. -/
structure Aliases where
  /-- The keys with their values. -/
  entries : List (String × String)
  /-- The keys ascend. -/
  sorted : entries.Pairwise (fun earlier later => earlier.1 < later.1) := by decide

namespace Aliases

theorem ext_entries {left right : Aliases} (same : left.entries = right.entries) :
    left = right := by
  cases left
  cases right
  cases same
  rfl

instance : DecidableEq Aliases := fun left right =>
  if same : left.entries = right.entries then isTrue (ext_entries same)
  else isFalse fun equal => same (equal ▸ rfl)

/-- The table without aliases. -/
def empty : Aliases := ⟨[], .nil⟩

/-- The value at a key. -/
def find? (aliases : Aliases) (key : String) : Option String :=
  (aliases.entries.find? fun entry => entry.1 == key).map (·.2)

/-- Entries in the order of their keys with one more, which replaces an entry with its key. -/
def place (key value : String) : List (String × String) → List (String × String)
  | [] => [(key, value)]
  | entry :: rest =>
      if key < entry.1 then (key, value) :: entry :: rest
      else if key = entry.1 then (key, value) :: rest
      else entry :: place key value rest

theorem mem_place {key value : String} {entries : List (String × String)}
    {entry : String × String} (member : entry ∈ place key value entries) :
    entry = (key, value) ∨ entry ∈ entries := by
  induction entries with
  | nil => simpa [place] using member
  | cons head rest ih =>
      simp only [place] at member
      split at member
      · simpa using member
      · split at member
        · simp only [List.mem_cons] at member ⊢
          exact member.imp_right .inr
        · simp only [List.mem_cons] at member ⊢
          rcases member with here | there
          · exact .inr (.inl here)
          · exact (ih there).imp_right .inr

theorem pairwise_place (key value : String) {entries : List (String × String)}
    (sorted : entries.Pairwise fun earlier later => earlier.1 < later.1) :
    (place key value entries).Pairwise fun earlier later => earlier.1 < later.1 := by
  induction entries with
  | nil => simp [place]
  | cons head rest ih =>
      obtain ⟨above, tail⟩ := List.pairwise_cons.mp sorted
      simp only [place]
      split
      · next below =>
          refine List.pairwise_cons.mpr ⟨fun entry member => ?_, sorted⟩
          rcases List.mem_cons.mp member with rfl | later
          · exact below
          · exact String.lt_trans below (above entry later)
      · next notBelow =>
          split
          · next same =>
              exact List.pairwise_cons.mpr ⟨fun entry member => same ▸ above entry member, tail⟩
          · next differs =>
              refine List.pairwise_cons.mpr ⟨fun entry member => ?_, ih tail⟩
              rcases mem_place member with rfl | later
              · exact (String.not_le.mp fun le => differs (String.le_antisymm le
                  (String.not_lt.mp notBelow)))
              · exact above entry later

/-- The table with one more alias, which replaces one of the same key. -/
def insert (aliases : Aliases) (key value : String) : Aliases :=
  ⟨place key value aliases.entries, pairwise_place key value aliases.sorted⟩

/-- The table of a list of aliases, where a later one replaces an earlier one of the same key. -/
def ofList (list : List (String × String)) : Aliases :=
  list.foldl (fun aliases entry => aliases.insert entry.1 entry.2) empty

end Aliases

/-- What is special about the consoles of a card. -/
structure Rules where
  /-- The consoles that no audit looks at. -/
  skip : List String
  /-- The console whose titles are folders of discs. -/
  multiDiscConsole : String
  /-- The launcher's name for a console where it differs from the folder's name. -/
  aliases : Aliases
  deriving DecidableEq

namespace Rules

/-- The rules of a card that nobody has changed. -/
def standard : Rules where
  skip := ["DOS", "PORTS", "PICO"]
  multiDiscConsole := "PS"
  aliases := .ofList [("PS", "PSX")]

/-- Whether audits leave a console out. -/
def isSkipped (rules : Rules) (console : String) : Bool :=
  rules.skip.contains console

/-- The name under which the launcher keeps a console's configuration. -/
def configName (rules : Rules) (console : String) : String :=
  (rules.aliases.find? console).getD console

/-- Whether a console stores each title as a folder of discs. -/
def isMultiDisc (rules : Rules) (console : String) : Bool :=
  rules.multiDiscConsole == console

end Rules
end CardKeeper

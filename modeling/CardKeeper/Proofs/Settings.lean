import Mathlib
import CardKeeper.Proofs.Toml.Document
import CardKeeper.Proofs.Toml.Table
import CardKeeper.Settings

/-!
# Settings that are shown

The settings are shown as a text that holds every one of them, so that reading it gives the same
settings, whatever characters they consist of: `parse?_text`.  The text consists of four tables,
whose lines say what `document` does, and each field is found there under its key.
-/

namespace CardKeeper

open Toml (Value Reads memberLines tableItem tableLines)

namespace Aliases

/-- A key above all others is placed at the end. -/
theorem place_last {key value : String} {entries : List (String × String)}
    (above : ∀ entry ∈ entries, entry.1 < key) :
    place key value entries = entries ++ [(key, value)] := by
  induction entries with
  | nil => rfl
  | cons entry rest ih =>
      have below := above entry List.mem_cons_self
      rw [place, if_neg (lt_asymm below), if_neg (ne_of_gt below),
        ih fun other member => above other (List.mem_cons_of_mem _ member), List.cons_append]

theorem entries_foldl_insert {list : List (String × String)} {aliases : Aliases}
    (sorted : (aliases.entries ++ list).Pairwise fun earlier later => earlier.1 < later.1) :
    (list.foldl (fun aliases entry => aliases.insert entry.1 entry.2) aliases).entries =
      aliases.entries ++ list := by
  induction list generalizing aliases with
  | nil => rw [List.foldl_nil, List.append_nil]
  | cons entry list ih =>
      have above : ∀ earlier ∈ aliases.entries, earlier.1 < entry.1 := fun earlier member =>
        (List.pairwise_append.mp sorted).2.2 earlier member entry List.mem_cons_self
      have placed : (aliases.insert entry.1 entry.2).entries = aliases.entries ++ [entry] :=
        place_last above
      rw [List.foldl_cons, ih (by simpa [placed] using sorted), placed, List.append_assoc,
        List.singleton_append]

/-- The entries of a table give the table again. -/
theorem ofList_entries (aliases : Aliases) : ofList aliases.entries = aliases :=
  ext_entries (@entries_foldl_insert aliases.entries empty aliases.sorted)

theorem nodup_keys (aliases : Aliases) : (aliases.entries.map (·.1)).Nodup :=
  List.pairwise_map.mpr (aliases.sorted.imp fun below => ne_of_lt below)

end Aliases

namespace Settings

/-! ## The text -/

/-- The members of the table about the card. -/
def cardMembers (settings : Settings) : List (String × Value) :=
  settings.cardRoot.toList.map fun root => ("root", .text root)

/-- The members of the table about the layout that are no tables themselves. -/
def layoutMembers (settings : Settings) : List (String × Value) :=
  [("skip", .list (settings.layout.skip.map .text)),
    ("multi_disc_console", .text settings.layout.multiDiscConsole)]

/-- The members of the table of aliases. -/
def aliasMembers (settings : Settings) : List (String × Value) :=
  settings.layout.aliases.entries.map fun entry => (entry.1, .text entry.2)

/-- The members of the table about tools. -/
def toolMembers (settings : Settings) : List (String × Value) :=
  [("magick", .text settings.magick), ("imgoptim", .text settings.imgoptim)]

/-- What the text says. -/
def document (settings : Settings) : List (String × Value) :=
  [("card", .table settings.cardMembers),
    ("layout", .table (settings.layoutMembers ++ [("aliases", .table settings.aliasMembers)])),
    ("tools", .table settings.toolMembers)]

/-- The lines of the text. -/
def lines (settings : Settings) : List Toml.Line :=
  tableLines ["card"] settings.cardMembers ++ tableLines ["layout"] settings.layoutMembers ++
    tableLines ["layout", "aliases"] settings.aliasMembers ++
      tableLines ["tools"] settings.toolMembers

/-- The text consists of these lines, with a blank line after each table but the last. -/
theorem reads_text (settings : Settings) : Reads settings.text.toList settings.lines := by
  have text (key value : String) :
      Reads (Toml.writeMember key (Toml.writeText value)) [.member [key] (.text value)] :=
    .member key (Toml.writes_text value)
  have table {path : List String} {written : List Char} {members : List (String × Value)}
      (inhabited : path ≠ []) (few : path.length ≤ 2)
      (read : Reads written (memberLines members)) :
      Reads (Toml.writeHeader path ++ written) (tableLines path members) :=
    (Reads.header inhabited (Nat.lt_of_le_of_lt few (by decide))).append read
  have spaced {written : List Char} {lines : List Toml.Line} (read : Reads written lines) :
      Reads (written ++ ['\n']) lines := by
    simpa using read.append .blank
  have layout : Reads _ (memberLines settings.layoutMembers) :=
    (Reads.member "skip" (Toml.writes_texts settings.layout.skip)).append
      (text "multi_disc_console" settings.layout.multiDiscConsole)
  have aliases : Reads (settings.layout.aliases.entries.flatMap
      fun entry => Toml.writeMember entry.1 (Toml.writeText entry.2))
        (memberLines settings.aliasMembers) := by
    have each (entry : String × String) := text entry.1 entry.2
    rw [memberLines, aliasMembers, List.map_map]
    exact Reads.flatMap each settings.layout.aliases.entries
  have tools : Reads _ (memberLines settings.toolMembers) :=
    (text "magick" settings.magick).append (text "imgoptim" settings.imgoptim)
  have all {root : List Char} (read : Reads root (memberLines settings.cardMembers)) :=
    (((spaced (table (List.cons_ne_nil "card" []) (by simp) read)).append
      (spaced (table (List.cons_ne_nil "layout" []) (by simp) layout))).append
      (spaced (table (List.cons_ne_nil "layout" ["aliases"]) (by simp) aliases))).append
      (table (List.cons_ne_nil "tools" []) (by simp) tools)
  rw [Settings.text, String.toList_ofList, lines]
  simp only [List.append_assoc] at all ⊢
  refine all ?_
  rw [cardMembers]
  cases settings.cardRoot with
  | none => exact .nil
  | some root => exact text "root" root

/-- The first two tables, of which the second has some of its members. -/
def layoutItems (settings : Settings) (members : Toml.Items) : Toml.Items :=
  [tableItem "card" settings.cardMembers, ("layout", .table .header members)]

/-- The members of the table about the layout, with the table in it. -/
def namedItems (settings : Settings) : Toml.Items :=
  Toml.valueItems settings.layoutMembers ++ [tableItem "aliases" settings.aliasMembers]

/-- The lines of the text add one table after the other. -/
theorem foldlM_lines (settings : Settings) :
    settings.lines.foldlM Toml.addLine ([], []) = some (["tools"],
      settings.layoutItems settings.namedItems ++ [tableItem "tools" settings.toolMembers]) := by
  have card : (tableLines ["card"] settings.cardMembers).foldlM Toml.addLine ([], []) =
      some (["card"], [tableItem "card" settings.cardMembers]) :=
    @Toml.foldlM_tableLines "card" [] [] [] settings.cardMembers (by simp)
      (by cases set : settings.cardRoot <;> simp [cardMembers, set])
  have layout : (tableLines ["layout"] settings.layoutMembers).foldlM Toml.addLine
      (["card"], [tableItem "card" settings.cardMembers]) =
        some (["layout"], settings.layoutItems (Toml.valueItems settings.layoutMembers)) :=
    @Toml.foldlM_tableLines "layout" [tableItem "card" _] [] ["card"] settings.layoutMembers
      (by simp [tableItem]) (by simp [layoutMembers])
  have aliases : (tableLines ["layout", "aliases"] settings.aliasMembers).foldlM Toml.addLine
      (["layout"], settings.layoutItems (Toml.valueItems settings.layoutMembers)) =
        some (["layout", "aliases"], settings.layoutItems settings.namedItems) :=
    @Toml.foldlM_tableLines "aliases" (Toml.valueItems settings.layoutMembers)
      [⟨[tableItem "card" _], "layout", by simp [tableItem]⟩] ["layout"] settings.aliasMembers
      (by simp [Toml.valueItems, layoutMembers])
      (by simpa [aliasMembers, Function.comp_def] using settings.layout.aliases.nodup_keys)
  have tools : (tableLines ["tools"] settings.toolMembers).foldlM Toml.addLine
      (["layout", "aliases"], settings.layoutItems settings.namedItems) =
        some (["tools"], settings.layoutItems settings.namedItems ++
          [tableItem "tools" settings.toolMembers]) :=
    @Toml.foldlM_tableLines "tools" (settings.layoutItems settings.namedItems) []
      ["layout", "aliases"] settings.toolMembers (by simp [layoutItems, tableItem])
      (by simp [toolMembers])
  simp only [lines, List.foldlM_append, card, layout, aliases, tools, Option.bind_eq_bind,
    Option.bind_some]

/-- Read as a document, the text says what it is to say. -/
theorem parse?_text_eq_document (settings : Settings) :
    Toml.parse? settings.text = some settings.document := by
  have unmarked : settings.text.toList.head? ≠ some '\uFEFF' := by
    simp [Settings.text, Toml.writeHeader]
  have read := Toml.parse?_of_reads settings.reads_text unmarked
  have members : Toml.valuesOf settings.namedItems =
      settings.layoutMembers ++ [("aliases", .table settings.aliasMembers)] := by
    rw [Toml.valuesOf_eq_map, namedItems, List.map_append, ← Toml.valuesOf_eq_map,
      Toml.valuesOf_valueItems, List.map_singleton, Toml.toValue_tableItem]
    rfl
  rw [String.ofList_toList, foldlM_lines, Option.map_some] at read
  rw [read, Toml.valuesOf_eq_map]
  simp only [layoutItems, List.map_append, List.map_cons, List.map_nil, Toml.toValue_tableItem,
    Toml.Item.toValue, members]
  rfl

/-! ## Reading the text -/

theorem texts?_texts (texts : List String) : texts? (.list (texts.map .text)) = some texts := by
  rw [texts?]
  induction texts with
  | nil => rfl
  | cons text texts ih =>
      rw [List.map_cons, List.mapM_cons, ih]
      rfl

theorem aliases?_table (aliases : Aliases) :
    aliases? (.table (aliases.entries.map fun entry => (entry.1, .text entry.2))) =
      some aliases := by
  have read : (aliases.entries.map fun entry => (entry.1, Value.text entry.2)).mapM
      (fun member => (text? member.2).map fun text => (member.1, text)) = some aliases.entries := by
    induction aliases.entries with
    | nil => rfl
    | cons entry entries ih =>
        rw [List.map_cons, List.mapM_cons, ih]
        rfl
  simp only [aliases?, read, Option.map_some, Aliases.ofList_entries]

theorem ofDocument?_document (settings : Settings) :
    ofDocument? settings.document = some settings := by
  have card : card? (.table settings.cardMembers) = some settings.cardRoot := by
    rw [cardMembers]
    cases settings.cardRoot with
    | none => rfl
    | some root => rfl
  have layout : layout? (.table (settings.layoutMembers ++
      [("aliases", .table settings.aliasMembers)])) = some settings.layout := by
    have skip := texts?_texts settings.layout.skip
    have aliases := aliases?_table settings.layout.aliases
    simp [layout?, readField, field?, Toml.valueAt?, layoutMembers, aliasMembers, skip, aliases,
      text?]
  have tools : tools? (.table settings.toolMembers) = some (settings.magick, settings.imgoptim) :=
    rfl
  simp [ofDocument?, readField, field?, Toml.valueAt?, document, card, layout, tools]

/-- Reading the text gives the settings that it shows. -/
theorem parse?_text (settings : Settings) : parse? settings.text = .ok settings := by
  rw [parse?, parse?_text_eq_document]
  dsimp only
  rw [ofDocument?_document]

end Settings
end CardKeeper

import Mathlib
import CardKeeper.Proofs.Settings
import CardKeeper.Proofs.Toml.Distinct

/-!
# Settings field by field

The settings in a document depend on six of its keys and on nothing else: each field has the value
at its key, or its default if the document has no such key (`parse?_fields`).  The document is one
of which `card`, `layout` and `tools` are tables if they are there.  Reading it fails only where a
value is of the wrong kind.
-/

namespace CardKeeper

namespace Aliases

variable {key value : String} {entries list : List (String × String)}

theorem perm_place (free : key ∉ entries.map (·.1)) :
    (place key value entries).Perm ((key, value) :: entries) := by
  induction entries with
  | nil => rfl
  | cons entry rest ih =>
      rw [List.map_cons, List.mem_cons, not_or] at free
      rw [place]
      split
      · rfl
      · rw [if_neg free.1]
        exact ((ih free.2).cons entry).trans (List.Perm.swap _ _ _)

theorem perm_foldl_insert {aliases : Aliases}
    (distinct : (aliases.entries.map (·.1) ++ list.map (·.1)).Nodup) :
    (list.foldl (fun aliases entry => aliases.insert entry.1 entry.2) aliases).entries.Perm
      (aliases.entries ++ list) := by
  induction list generalizing aliases with
  | nil => simp
  | cons entry list ih =>
      have free : entry.1 ∉ aliases.entries.map (·.1) := fun taken =>
        (List.nodup_append.mp distinct).2.2 _ taken _ List.mem_cons_self rfl
      have placed : (aliases.insert entry.1 entry.2).entries.Perm (entry :: aliases.entries) :=
        perm_place free
      have keys : ((aliases.insert entry.1 entry.2).entries.map (·.1) ++ list.map (·.1)).Perm
          (aliases.entries.map (·.1) ++ (entry :: list).map (·.1)) :=
        ((placed.map (·.1)).append_right _).trans List.perm_middle.symm
      rw [List.foldl_cons]
      exact (ih (keys.nodup_iff.mpr distinct)).trans
        ((placed.append_right list).trans List.perm_middle.symm)

/-- Aliases with different keys are all kept. -/
theorem perm_entries_ofList (distinct : (list.map (·.1)).Nodup) :
    (ofList list).entries.Perm list :=
  @perm_foldl_insert list empty distinct

end Aliases

namespace Settings

open Toml (Value valueAt?)

variable {members others inner : List (String × Value)} {value : Value}

/-! ## What a value says of a field -/

theorem text?_eq_some_iff {text : String} : text? value = some text ↔ value = .text text := by
  cases value <;> simp [text?]

/-- A reader of entries that is undone by a writer reads the lists that the writer writes. -/
theorem mapM_eq_some_iff {α β : Type} {read : α → Option β} {write : β → α}
    (undone : ∀ entry result, read entry = some result ↔ entry = write result) {list : List α}
    {results : List β} : list.mapM read = some results ↔ list = results.map write := by
  induction list generalizing results with
  | nil => cases results <;> simp
  | cons entry list ih =>
      rw [List.mapM_cons]
      cases results with
      | nil => cases read entry <;> cases list.mapM read <;> simp
      | cons result results =>
          rw [List.map_cons, List.cons.injEq, ← undone, ← ih]
          cases read entry <;> cases list.mapM read <;> simp

theorem texts?_eq_some_iff {texts : List String} :
    texts? value = some texts ↔ value = .list (texts.map .text) := by
  cases value with
  | list items =>
      rw [texts?, Value.list.injEq]
      exact mapM_eq_some_iff fun _ _ => text?_eq_some_iff
  | _ => simp [texts?]

/-- The members of a table of texts. -/
def textMembers (entries : List (String × String)) : List (String × Value) :=
  entries.map fun entry => (entry.1, .text entry.2)

theorem aliases?_eq_some_iff {aliases : Aliases} : aliases? value = some aliases ↔
    (∃ entries, value = .table (textMembers entries) ∧ .ofList entries = aliases) ∨
      ∃ shown, value = .moment shown ∧ .ofList [(momentKey, shown)] = aliases := by
  cases value with
  | table members =>
      have undone (member : String × Value) (entry : String × String) :
          (text? member.2).map (fun text => (member.1, text)) = some entry ↔
            member = (entry.1, .text entry.2) := by
        rw [Option.map_eq_some_iff]
        constructor
        · rintro ⟨text, read, rfl⟩
          exact Prod.ext rfl (text?_eq_some_iff.mp read)
        · rintro rfl
          exact ⟨entry.2, rfl, rfl⟩
      simp only [aliases?, Option.map_eq_some_iff, mapM_eq_some_iff undone, textMembers,
        Value.table.injEq, reduceCtorEq, false_and, exists_false, or_false]
  | moment shown => simp [aliases?]
  | _ => simp [aliases?]

/-! ## Keys of a document -/

/-- The value at a key of a table in a document. -/
def known? (members : List (String × Value)) (place key : String) : Option Value :=
  match valueAt? place members with
  | some (.table inner) => valueAt? key inner
  | _ => none

/-- What the settings are about are tables if they are there. -/
def HasTables (members : List (String × Value)) : Prop :=
  ∀ place ∈ ["card", "layout", "tools"], ∀ value, valueAt? place members = some value →
    ∃ inner, value = .table inner

/-- The keys that settings have. -/
def knownKeys : List (String × String) :=
  [("card", "root"), ("layout", "skip"), ("layout", "multi_disc_console"), ("layout", "aliases"),
    ("tools", "magick"), ("tools", "imgoptim")]

/-- A field that has the value at its key, or its default if there is none. -/
def fieldOf {α : Type} (read? : Value → Option α) (default : α) : Option Value → Option α
  | none => some default
  | some value => read? value

theorem readField_table {α : Type} (place : Nat) (key : String) (read? : Value → Option α)
    (default : α) :
    readField (.table inner) place key read? default =
      fieldOf read? default (valueAt? key inner) := by
  simp only [readField, field?]
  cases valueAt? key inner <;> rfl

theorem fieldOf_card (tables : HasTables members) :
    fieldOf card? none (valueAt? "card" members) =
      fieldOf (fun value => (text? value).map some) none (known? members "card" "root") := by
  cases found : valueAt? "card" members with
  | none => simp [known?, found, fieldOf]
  | some value =>
      obtain ⟨inner, rfl⟩ := tables "card" (by simp) value found
      simp only [known?, found, fieldOf, card?, readField_table]

theorem fieldOf_layout (tables : HasTables members) :
    fieldOf layout? Rules.standard (valueAt? "layout" members) =
      (fieldOf texts? Rules.standard.skip (known? members "layout" "skip")).bind fun skip =>
      (fieldOf text? Rules.standard.multiDiscConsole
        (known? members "layout" "multi_disc_console")).bind fun console =>
      (fieldOf aliases? Rules.standard.aliases (known? members "layout" "aliases")).map
        fun aliases => ⟨skip, console, aliases⟩ := by
  cases found : valueAt? "layout" members with
  | none => simp [known?, found, fieldOf]
  | some value =>
      obtain ⟨inner, rfl⟩ := tables "layout" (by simp) value found
      simp only [known?, found, fieldOf, layout?, readField_table]

theorem fieldOf_tools (tables : HasTables members) :
    fieldOf tools? (Programs.standardMagick, Programs.standardImgoptim)
        (valueAt? "tools" members) =
      (fieldOf text? Programs.standardMagick (known? members "tools" "magick")).bind fun magick =>
      (fieldOf text? Programs.standardImgoptim (known? members "tools" "imgoptim")).map
        fun imgoptim => (magick, imgoptim) := by
  cases found : valueAt? "tools" members with
  | none => simp [known?, found, fieldOf]
  | some value =>
      obtain ⟨inner, rfl⟩ := tables "tools" (by simp) value found
      simp only [known?, found, fieldOf, tools?, readField_table]

/-- The six fields are read independently of each other. -/
theorem ofDocument?_eq_some_iff (tables : HasTables members) {settings : Settings} :
    ofDocument? members = some settings ↔
      fieldOf (fun value => (text? value).map some) none (known? members "card" "root") =
        some settings.cardRoot ∧
      fieldOf texts? Rules.standard.skip (known? members "layout" "skip") =
        some settings.layout.skip ∧
      fieldOf text? Rules.standard.multiDiscConsole
        (known? members "layout" "multi_disc_console") = some settings.layout.multiDiscConsole ∧
      fieldOf aliases? Rules.standard.aliases (known? members "layout" "aliases") =
        some settings.layout.aliases ∧
      fieldOf text? Programs.standardMagick (known? members "tools" "magick") =
        some settings.magick ∧
      fieldOf text? Programs.standardImgoptim (known? members "tools" "imgoptim") =
        some settings.imgoptim := by
  simp only [ofDocument?, readField_table, fieldOf_card tables, fieldOf_layout tables,
    fieldOf_tools tables, Option.bind_eq_some_iff, Option.map_eq_some_iff]
  constructor
  · rintro ⟨root, hasRoot, layout, ⟨skip, hasSkip, console, hasConsole, aliases, hasAliases, rfl⟩,
      tools, ⟨magick, hasMagick, imgoptim, hasImgoptim, rfl⟩, rfl⟩
    exact ⟨hasRoot, hasSkip, hasConsole, hasAliases, hasMagick, hasImgoptim⟩
  · rintro ⟨hasRoot, hasSkip, hasConsole, hasAliases, hasMagick, hasImgoptim⟩
    exact ⟨_, hasRoot, _, ⟨_, hasSkip, _, hasConsole, _, hasAliases, rfl⟩, _,
      ⟨_, hasMagick, _, hasImgoptim, rfl⟩, rfl⟩

/-! ## Settings and keys -/

/-- A field that the value at its key sets, if there is one, and that has its default otherwise. -/
def Sets {α : Type} (means : Value → α → Prop) (default field : α) : Option Value → Prop
  | none => field = default
  | some value => means value field

/-- The aliases that a value stands for: those of a table of texts, and no others.  A date or a time
counts as a table with a single member. -/
def MeansAliases (value : Value) (aliases : Aliases) : Prop :=
  (∃ entries, value = .table (textMembers entries) ∧ aliases.entries.Perm entries) ∨
    ∃ shown, value = .moment shown ∧ aliases.entries = [(momentKey, shown)]

/-- Each field has the value at its key in a document, or its default. -/
structure SetBy (settings : Settings) (members : List (String × Value)) : Prop where
  cardRoot : Sets (fun value root => ∃ text, value = .text text ∧ root = some text) none
    settings.cardRoot (known? members "card" "root")
  skip : Sets (fun value texts => value = .list (texts.map .text)) Rules.standard.skip
    settings.layout.skip (known? members "layout" "skip")
  multiDiscConsole : Sets (fun value text => value = .text text) Rules.standard.multiDiscConsole
    settings.layout.multiDiscConsole (known? members "layout" "multi_disc_console")
  aliases : Sets MeansAliases Rules.standard.aliases settings.layout.aliases
    (known? members "layout" "aliases")
  magick : Sets (fun value text => value = .text text) Programs.standardMagick settings.magick
    (known? members "tools" "magick")
  imgoptim : Sets (fun value text => value = .text text) Programs.standardImgoptim
    settings.imgoptim (known? members "tools" "imgoptim")

/-- The values at the keys that are there are of the right kinds. -/
structure WellTyped (members : List (String × Value)) : Prop where
  cardRoot : ∀ value ∈ known? members "card" "root", ∃ text, value = .text text
  skip : ∀ value ∈ known? members "layout" "skip",
    ∃ texts : List String, value = .list (texts.map .text)
  multiDiscConsole : ∀ value ∈ known? members "layout" "multi_disc_console",
    ∃ text, value = .text text
  aliases : ∀ value ∈ known? members "layout" "aliases",
    (∃ entries, value = .table (textMembers entries)) ∨ ∃ shown, value = .moment shown
  magick : ∀ value ∈ known? members "tools" "magick", ∃ text, value = .text text
  imgoptim : ∀ value ∈ known? members "tools" "imgoptim", ∃ text, value = .text text

theorem exists_fieldOf {α : Type} (read? : Value → Option α) (default : α) {found : Option Value}
    (reads : ∀ value ∈ found, ∃ field, read? value = some field) :
    ∃ field, fieldOf read? default found = some field := by
  cases found with
  | none => exact ⟨default, rfl⟩
  | some value => exact reads value rfl

theorem read_of_fieldOf {α : Type} {read? : Value → Option α} {default field : α}
    {found : Option Value} (read : fieldOf read? default found = some field) :
    Sets (fun value field => read? value = some field) default field found := by
  cases found with
  | none => exact (Option.some.inj read).symm
  | some value => exact read

theorem Sets.imp {α : Type} {means more : Value → α → Prop} {default field : α}
    {found : Option Value} (sets : Sets means default field found)
    (follows : ∀ value ∈ found, means value field → more value field) :
    Sets more default field found := by
  cases found with
  | none => exact sets
  | some value => exact follows value rfl sets

theorem Sets.exists_of_mem {α : Type} {means : Value → α → Prop} {default field : α}
    {found : Option Value} (sets : Sets means default field found) :
    ∀ value ∈ found, ∃ field, means value field := by
  rintro value rfl
  exact ⟨field, sets⟩

theorem Sets.of_none {α : Type} {means : Value → α → Prop} {default field : α}
    {found : Option Value} (sets : Sets means default field found) (absent : found = none) :
    field = default := by
  subst absent
  exact sets

theorem Sets.of_some {α : Type} {means : Value → α → Prop} {default field : α}
    {found : Option Value} (sets : Sets means default field found) (given : found = some value) :
    means value field := by
  subst given
  exact sets

theorem distinct_valueAt? {key : String} (distinct : (Value.table members).Distinct)
    (found : valueAt? key members = some value) : value.Distinct := by
  obtain ⟨member, listed, rfl⟩ := Option.map_eq_some_iff.mp found
  cases distinct with
  | table keys each => exact each member (List.mem_of_find?_eq_some listed)

theorem distinct_known? {place key : String} (distinct : (Value.table members).Distinct)
    (found : known? members place key = some value) : value.Distinct := by
  unfold known? at found
  split at found
  · next inner outer => exact distinct_valueAt? (distinct_valueAt? distinct outer) found
  · cases found

theorem keys_textMembers (entries : List (String × String)) :
    (textMembers entries).map (·.1) = entries.map (·.1) := by
  rw [textMembers, List.map_map]
  rfl

/-- A table of texts stands for its aliases, since no key is there twice. -/
theorem meansAliases_of_read {aliases : Aliases} (distinct : value.Distinct)
    (read : aliases? value = some aliases) : MeansAliases value aliases := by
  rcases aliases?_eq_some_iff.mp read with ⟨entries, rfl, rfl⟩ | ⟨shown, rfl, rfl⟩
  · cases distinct with
    | table keys each =>
        rw [keys_textMembers] at keys
        exact .inl ⟨entries, rfl, Aliases.perm_entries_ofList keys⟩
  · exact .inr ⟨shown, rfl, rfl⟩

theorem setBy_of_ofDocument? {settings : Settings} (distinct : (Value.table members).Distinct)
    (tables : HasTables members) (read : ofDocument? members = some settings) :
    settings.SetBy members := by
  obtain ⟨root, skip, console, aliases, magick, imgoptim⟩ :=
    (ofDocument?_eq_some_iff tables).mp read
  have text (value : Value) (text : String) : text? value = some text → value = .text text :=
    text?_eq_some_iff.mp
  refine ⟨(read_of_fieldOf root).imp fun value _ read => ?_,
    (read_of_fieldOf skip).imp fun _ _ => texts?_eq_some_iff.mp,
    (read_of_fieldOf console).imp fun value _ => text value _,
    (read_of_fieldOf aliases).imp fun value found =>
      meansAliases_of_read (distinct_known? distinct found),
    (read_of_fieldOf magick).imp fun value _ => text value _,
    (read_of_fieldOf imgoptim).imp fun value _ => text value _⟩
  obtain ⟨own, found, same⟩ := Option.map_eq_some_iff.mp read
  exact ⟨own, text value own found, same.symm⟩

theorem SetBy.wellTyped {settings : Settings} (set : settings.SetBy members) :
    WellTyped members where
  cardRoot value found := by
    obtain ⟨root, text, same, -⟩ := set.cardRoot.exists_of_mem value found
    exact ⟨text, same⟩
  skip := set.skip.exists_of_mem
  multiDiscConsole := set.multiDiscConsole.exists_of_mem
  aliases value found := by
    obtain ⟨aliases, ⟨entries, same, -⟩ | ⟨shown, same, -⟩⟩ :=
      set.aliases.exists_of_mem value found
    · exact .inl ⟨entries, same⟩
    · exact .inr ⟨shown, same⟩
  magick := set.magick.exists_of_mem
  imgoptim := set.imgoptim.exists_of_mem

theorem WellTyped.exists_settings (typed : WellTyped members) (tables : HasTables members) :
    ∃ settings, ofDocument? members = some settings := by
  have text (value : Value) (typed : ∃ text, value = .text text) :
      ∃ field, text? value = some field := by
    obtain ⟨text, rfl⟩ := typed
    exact ⟨text, rfl⟩
  obtain ⟨root, hasRoot⟩ :=
    exists_fieldOf (fun value => (text? value).map some) none fun value found => by
      obtain ⟨own, read⟩ := text value (typed.cardRoot value found)
      exact ⟨some own, by rw [read, Option.map_some]⟩
  obtain ⟨skip, hasSkip⟩ := exists_fieldOf texts? Rules.standard.skip fun value found =>
    (typed.skip value found).imp fun _ => texts?_eq_some_iff.mpr
  obtain ⟨console, hasConsole⟩ := exists_fieldOf text? Rules.standard.multiDiscConsole
    fun value found => text value (typed.multiDiscConsole value found)
  obtain ⟨aliases, hasAliases⟩ :=
    exists_fieldOf aliases? Rules.standard.aliases fun value found => by
      rcases typed.aliases value found with ⟨entries, rfl⟩ | ⟨shown, rfl⟩
      · exact ⟨_, aliases?_eq_some_iff.mpr (.inl ⟨entries, rfl, rfl⟩)⟩
      · exact ⟨_, aliases?_eq_some_iff.mpr (.inr ⟨shown, rfl, rfl⟩)⟩
  obtain ⟨magick, hasMagick⟩ := exists_fieldOf text? Programs.standardMagick fun value found =>
    text value (typed.magick value found)
  obtain ⟨imgoptim, hasImgoptim⟩ := exists_fieldOf text? Programs.standardImgoptim
    fun value found => text value (typed.imgoptim value found)
  exact ⟨⟨root, ⟨skip, console, aliases⟩, magick, imgoptim⟩, (ofDocument?_eq_some_iff tables).mpr
    ⟨hasRoot, hasSkip, hasConsole, hasAliases, hasMagick, hasImgoptim⟩⟩

/-! ## Texts -/

theorem parse?_eq_ok_iff {text : String} {settings : Settings}
    (read : Toml.parse? text = some members) :
    parse? text = .ok settings ↔ ofDocument? members = some settings := by
  simp only [parse?, read]
  cases ofDocument? members <;> simp

/-- Documents with the same values at the keys of settings hold the same settings, or none. -/
theorem ofDocument?_congr (tables : HasTables members) (otherTables : HasTables others)
    (same : ∀ known ∈ knownKeys, known? others known.1 known.2 = known? members known.1 known.2) :
    ofDocument? others = ofDocument? members := by
  simp only [knownKeys, List.forall_mem_cons] at same
  obtain ⟨root, skip, console, aliases, magick, imgoptim, -⟩ := same
  refine Option.ext fun settings => ?_
  rw [ofDocument?_eq_some_iff tables, ofDocument?_eq_some_iff otherTables, root, skip, console,
    aliases, magick, imgoptim]

/-- A document is read exactly if the values at the keys that are there are of the right kinds.
Then each field has the value at its key or its default, whatever the other keys are.  Nothing else
in the document matters. -/
theorem parse?_fields {text : String} (read : Toml.parse? text = some members)
    (tables : HasTables members) :
    ((∃ settings, parse? text = .ok settings) ↔ WellTyped members) ∧
    (∀ settings, parse? text = .ok settings → settings.SetBy members) ∧
    ∀ other others, Toml.parse? other = some others → HasTables others →
      (∀ known ∈ knownKeys, known? others known.1 known.2 = known? members known.1 known.2) →
      parse? other = parse? text := by
  have set (settings : Settings) (parsed : parse? text = .ok settings) :=
    setBy_of_ofDocument? (Toml.distinct_parse? read) tables ((parse?_eq_ok_iff read).mp parsed)
  refine ⟨⟨fun ⟨settings, parsed⟩ => (set settings parsed).wellTyped, fun typed => ?_⟩, set,
    fun other others readOther otherTables same => ?_⟩
  · exact (typed.exists_settings tables).imp fun _ => (parse?_eq_ok_iff read).mpr
  · simp only [parse?, read, readOther, ofDocument?_congr tables otherTables same]

/-- A text that sets two fields, with a key that no settings have. -/
def sparseText : String :=
  "layout.multi_disc_console = \"MD\"\n[tools]\nspeed = 3\nmagick = \"gm\"\n"

/-- What the text holds. -/
def sparseMembers : List (String × Value) :=
  [("layout", .table [("multi_disc_console", .text "MD")]),
    ("tools", .table [("speed", .integer 3), ("magick", .text "gm")])]

/-- Two fields are set, and the others have their defaults. -/
theorem parse?_sparseText : Toml.parse? sparseText = some sparseMembers ∧
    HasTables sparseMembers ∧ ∃ settings, parse? sparseText = .ok settings ∧
      settings.layout.multiDiscConsole = "MD" ∧ settings.magick = "gm" ∧
      settings.cardRoot = none ∧ settings.layout.skip = Rules.standard.skip ∧
      settings.layout.aliases = Rules.standard.aliases ∧
      settings.imgoptim = Programs.standardImgoptim := by
  have read : Toml.parse? sparseText = some sparseMembers := by cbv
  have tables : HasTables sparseMembers := by
    simp [HasTables, sparseMembers, valueAt?]
  have console : known? sparseMembers "layout" "multi_disc_console" = some (.text "MD") := by
    simp [known?, sparseMembers, valueAt?]
  have magick : known? sparseMembers "tools" "magick" = some (.text "gm") := by
    simp [known?, sparseMembers, valueAt?]
  have root : known? sparseMembers "card" "root" = none := by
    simp [known?, sparseMembers, valueAt?]
  have skip : known? sparseMembers "layout" "skip" = none := by
    simp [known?, sparseMembers, valueAt?]
  have aliases : known? sparseMembers "layout" "aliases" = none := by
    simp [known?, sparseMembers, valueAt?]
  have imgoptim : known? sparseMembers "tools" "imgoptim" = none := by
    simp [known?, sparseMembers, valueAt?]
  have typed : WellTyped sparseMembers := by
    constructor <;> simp [root, skip, console, aliases, magick, imgoptim]
  obtain ⟨settings, parsed⟩ := (parse?_fields read tables).1.mpr typed
  have set := (parse?_fields read tables).2.1 settings parsed
  exact ⟨read, tables, settings, parsed,
    (Value.text.inj (set.multiDiscConsole.of_some console)).symm,
    (Value.text.inj (set.magick.of_some magick)).symm, set.cardRoot.of_none root,
    set.skip.of_none skip, set.aliases.of_none aliases, set.imgoptim.of_none imgoptim⟩

/-- A date counts as a table of aliases, although it is none. -/
theorem parse?_dateText :
    let members := [("layout", Value.table [("aliases", .moment "1979-05-27")])]
    Toml.parse? "[layout]\naliases = 1979-05-27\n" = some members ∧ HasTables members ∧
      known? members "layout" "aliases" = some (.moment "1979-05-27") ∧
      (∀ inner, Value.moment "1979-05-27" ≠ .table inner) ∧
      ∃ settings, parse? "[layout]\naliases = 1979-05-27\n" = .ok settings := by
  have read : Toml.parse? "[layout]\naliases = 1979-05-27\n" =
      some [("layout", .table [("aliases", .moment "1979-05-27")])] := by cbv
  refine ⟨read, by simp [HasTables, valueAt?], by simp [known?, valueAt?], by simp,
    ⟨none, ⟨Rules.standard.skip, "PS", .ofList [(momentKey, "1979-05-27")]⟩, "magick", "imgoptim"⟩,
    (parse?_eq_ok_iff read).mpr ?_⟩
  rfl

end Settings
end CardKeeper

import CardKeeper.Activity
import CardKeeper.Rules
import CardKeeper.Toml.Document
import CardKeeper.Toml.Printer
import CardKeeper.Tools

/-!
# Settings

The settings are read from a TOML file in which every field may be absent and then has its default.
Fields that are not known are passed over.  A list stands for the fields of a table in their order.
A date counts as a table with a single member, whose key no settings have.

The words for what is wrong with a text are those of a reader of TOML; they are left open here.
-/

namespace CardKeeper

/-- What the user has set. -/
structure Settings where
  /-- The top folder of the card. -/
  cardRoot : Option String
  /-- What is special about the consoles of the card. -/
  layout : Rules
  /-- The program that resizes pictures. -/
  magick : String
  /-- The program that makes their files smaller. -/
  imgoptim : String
  deriving DecidableEq

namespace Settings

/-- The settings of a user who has set nothing. -/
def standard : Settings where
  cardRoot := none
  layout := .standard
  magick := Programs.standardMagick
  imgoptim := Programs.standardImgoptim

open Toml (Value)

/-- The key under which a date is the only member of a table. -/
def momentKey : String := "$__toml_private_datetime"

/-- The fields of a table or a list that stands for one: each field is looked up by its key or by
its place. -/
def field? (value : Value) (place : Nat) (key : String) : Option (Option Value) :=
  match value with
  | .table members => some (Toml.valueAt? key members)
  | .list items => some items[place]?
  | .moment _ => some none
  | _ => none

/-- A text. -/
def text? : Value → Option String
  | .text text => some text
  | _ => none

/-- A list of texts. -/
def texts? : Value → Option (List String)
  | .list items => items.mapM text?
  | _ => none

/-- A table of texts. -/
def aliases? : Value → Option Aliases
  | .table members =>
      (members.mapM fun member => (text? member.2).map fun text => (member.1, text)).map
        Aliases.ofList
  | .moment shown => some (.ofList [(momentKey, shown)])
  | _ => none

/-- The value of a field, read if it is there and the default if not.  The outer `none` means that a
value is of the wrong kind. -/
def readField {α : Type} (value : Value) (place : Nat) (key : String) (read? : Value → Option α)
    (default : α) : Option α :=
  match field? value place key with
  | none => none
  | some none => some default
  | some (some inner) => read? inner

/-- The settings about the card. -/
def card? (value : Value) : Option (Option String) :=
  readField value 0 "root" (fun inner => (text? inner).map some) none

/-- The settings about the layout of the card. -/
def layout? (value : Value) : Option Rules :=
  (readField value 0 "skip" texts? Rules.standard.skip).bind fun skip =>
    (readField value 1 "multi_disc_console" text? Rules.standard.multiDiscConsole).bind
      fun console =>
        (readField value 2 "aliases" aliases? Rules.standard.aliases).map fun aliases =>
          ⟨skip, console, aliases⟩

/-- The settings about tools. -/
def tools? (value : Value) : Option (String × String) :=
  (readField value 0 "magick" text? Programs.standardMagick).bind fun magick =>
    (readField value 1 "imgoptim" text? Programs.standardImgoptim).map fun imgoptim =>
      (magick, imgoptim)

/-- The settings that a document holds. -/
def ofDocument? (members : List (String × Value)) : Option Settings :=
  let document := Value.table members
  (readField document 0 "card" card? none).bind fun cardRoot =>
    (readField document 1 "layout" layout? Rules.standard).bind fun layout =>
      (readField document 2 "tools" tools?
        (Programs.standardMagick, Programs.standardImgoptim)).map fun tools =>
          ⟨cardRoot, layout, tools.1, tools.2⟩

/-- Why a text does not hold settings. -/
inductive Problem where
  /-- It is not TOML. -/
  | malformed
  /-- A field has a value of the wrong kind. -/
  | wrongKind
  deriving DecidableEq

/-- A problem in a few words, which stand in where no reader of TOML gives its own. -/
def Problem.message : Problem → String
  | .malformed => "not a valid TOML document"
  | .wrongKind => "a setting has a value of the wrong kind"

/-- The settings that a text holds. -/
def parse? (text : String) : Except Problem Settings :=
  match Toml.parse? text with
  | none => .error .malformed
  | some members =>
      match ofDocument? members with
      | none => .error .wrongKind
      | some settings => .ok settings

/-- What is wrong with a text that does not hold settings, if nobody says more about it. -/
def brief (text : String) : String :=
  match parse? text with
  | .error problem => problem.message
  | .ok _ => ""

/-- The settings as a TOML text, with every field that has a value. -/
def text (settings : Settings) : String :=
  let root :=
    match settings.cardRoot with
    | some root => Toml.writeMember "root" (Toml.writeText root)
    | none => []
  String.ofList <|
    Toml.writeHeader ["card"] ++ root ++ ['\n'] ++
    Toml.writeHeader ["layout"] ++
    Toml.writeMember "skip" (Toml.writeTexts settings.layout.skip) ++
    Toml.writeMember "multi_disc_console" (Toml.writeText settings.layout.multiDiscConsole) ++
    ['\n'] ++
    Toml.writeHeader ["layout", "aliases"] ++
    settings.layout.aliases.entries.flatMap
      (fun entry => Toml.writeMember entry.1 (Toml.writeText entry.2)) ++
    ['\n'] ++
    Toml.writeHeader ["tools"] ++
    Toml.writeMember "magick" (Toml.writeText settings.magick) ++
    Toml.writeMember "imgoptim" (Toml.writeText settings.imgoptim)

/-- The path of the settings file, given the home folder that the user has set, the one of the
user's account, and the folder for configuration files.  The last counts only if its path is
absolute, and the first only if its path is not empty. -/
def path (home account configuration : Option Path) : Path :=
  let own := (home.filter fun folder => !folder.bytes.isEmpty).or account
  let folder :=
    match configuration.filter Path.isAbsolute, own with
    | some folder, _ => folder
    | none, some home => home.child ".config"
    | none, none => .ofText "."
  (folder.child "miyoo-junk").child "settings.toml"

/-- The settings in a file, or the defaults.  A file that does not hold settings is told of, with a
diagnosis of its text, and otherwise passed over. -/
def load (file : Path) (volume : Volume) (diagnosis : String → String := brief) :
    Settings × List Notice :=
  match volume.readText file with
  | .error _ => (standard, [])
  | .ok text =>
      match parse? text with
      | .ok settings => (settings, [])
      | .error _ => (standard, [.event (.ignoring file (diagnosis text))])

/-- The top folder of the card: as given, else as set, else the current folder. -/
def cardFolder (settings : Settings) (given : Option Path) (current : Path) : Path :=
  match given, settings.cardRoot with
  | some folder, _ => folder
  | none, some root => .ofText root
  | none, none => current

end Settings
end CardKeeper

/-!
# Values of TOML

What a TOML document says, without how it is written.  Keys of a table are in the order in which
they were defined and differ from each other.
-/

namespace CardKeeper
namespace Toml

/-- A value. -/
inductive Value where
  /-- A text. -/
  | text (text : String)
  /-- A whole number. -/
  | integer (value : Int)
  /-- Any other number, as it is written. -/
  | real (written : String)
  /-- A truth value. -/
  | boolean (value : Bool)
  /-- A date, a time or both, in their plain form. -/
  | moment (shown : String)
  /-- A list of values. -/
  | list (items : List Value)
  /-- Values with their keys. -/
  | table (members : List (String × Value))

/-- The value of a key. -/
def valueAt? (key : String) (members : List (String × Value)) : Option Value :=
  (members.find? fun member => member.1 == key).map (·.2)

end Toml
end CardKeeper

import CardKeeper.Pattern.Meaning
import CardKeeper.Pattern.Weight

/-!
# From texts to patterns

A text is a pattern if it can be read, means something, asks for nothing that cannot be decided, and
is not too large.
-/

namespace CardKeeper
namespace Pattern

/-- Why a text is no pattern. -/
inductive Refusal where
  /-- It is written in a wrong way. -/
  | written (fault : Fault)
  /-- It asks where words of any characters start or end. -/
  | undecidable
  /-- It is too large. -/
  | tooLarge
  deriving DecidableEq

/-- The words for a refusal of a text. -/
def Refusal.message (text : String) : Refusal → String
  | .written fault => fault.report text.toList
  | .undecidable => "error building NFA"
  | .tooLarge => "Compiled regex exceeds size limit of " ++ toString weightLimit ++ " bytes."

/-- Whether a pattern asks for something that cannot be decided. -/
def isUndecidable : Pattern → Bool
  | .condition .anyWord => true
  | .empty | .oneOf _ | .condition _ => false
  | .sequence left right | .choice left right => left.isUndecidable || right.isUndecidable
  | .repeated _ _ inner | .captured inner => inner.isUndecidable

/-- The pattern that a text spells. -/
def ofText? (text : String) : Except Refusal Pattern :=
  let written := (Tree.ofText? text.toList).bind (Tree.meaning .standard)
  (written.mapError .written).bind fun (pattern, _) =>
    if pattern.isTooLarge false then .error .tooLarge
    else if pattern.isUndecidable then .error .undecidable
    else if pattern.isTooLarge true then .error .tooLarge
    else .ok pattern

end Pattern
end CardKeeper

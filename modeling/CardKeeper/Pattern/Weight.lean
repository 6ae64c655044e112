import CardKeeper.Pattern.Basic

/-!
# The weight of a pattern

A pattern is searched for by an automaton, and by another one that reads backwards.  Their states
take room, so that a pattern can be too large.  Repetitions multiply what they repeat: each count
has states of its own.
-/

namespace CardKeeper
namespace Pattern

/-- The room that a state takes. -/
def stateWeight : Nat := 32

/-- The room that an alternative of a state takes. -/
def alternativeWeight : Nat := 4

/-- The room that a range of bytes of a state takes. -/
def rangeWeight : Nat := 8

/-- The room that automata may take. -/
def weightLimit : Nat := 10485760

/-- A state with alternatives. -/
def forkWeight (alternatives : Nat) : Nat :=
  stateWeight + alternatives * alternativeWeight

/-- Ways through the bytes of characters: the states on them, and an alternative for each way. -/
def waysWeight (ways states : Nat) : Nat :=
  ways * alternativeWeight + states * stateWeight

/-- The room that a range of code points takes.  It is divided by the number of bytes that encode
the code points, and further where the first bytes allow different second ones. -/
def codesWeight (range : Nat × Nat) : Nat :=
  let reaches (first last : Nat) : Bool := range.1 ≤ last && first ≤ range.2
  (if reaches 0 0x7F then waysWeight 1 1 else 0) +
    (if reaches 0x80 0x7FF then waysWeight 1 2 else 0) +
    (if reaches 0x800 0xFFFF then waysWeight 4 12 else 0) +
    (if reaches 0x10000 Charset.lastCode then waysWeight 3 12 else 0)

/-- The room that a set of characters takes. -/
def setWeight (set : Charset) : Nat :=
  match set with
  | [] => stateWeight
  | [range] =>
      if range.1 = range.2 then stateWeight * (Char.ofNat range.1).utf8Size
      else if set.isAscii then 2 * stateWeight + rangeWeight
      else 2 * stateWeight + codesWeight range
  | ranges =>
      if set.isAscii then 2 * stateWeight + ranges.length * rangeWeight
      else 2 * stateWeight + (ranges.map codesWeight).foldl (· + ·) 0

/-- Whether a pattern describes only texts that are not empty. -/
def hasWidth : Pattern → Bool
  | .empty | .condition _ => false
  | .oneOf set => !set.isEmpty
  | .sequence first second => first.hasWidth || second.hasWidth
  | .choice left right => left.hasWidth && right.hasWidth
  | .repeated least _ inner => 0 < least && inner.hasWidth
  | .captured inner => inner.hasWidth

/-- The room that a pattern takes.  The automaton that reads backwards does not remember groups. -/
def weight (backward : Bool) : Pattern → Nat
  | .empty | .condition _ => stateWeight
  | .oneOf set => setWeight set
  | .sequence first second => first.weight backward + second.weight backward
  | .choice left right => left.weight backward + right.weight backward + forkWeight 2 + stateWeight
  | .captured inner => inner.weight backward + if backward then 0 else 2 * stateWeight
  | .repeated least most inner =>
      let once := inner.weight backward
      match least, most with
      | 0, none =>
          once + if inner.hasWidth then forkWeight 2 else 2 * forkWeight 2 + stateWeight
      | least + 1, none => (least + 1) * once + forkWeight 2
      | least, some most =>
          (if least = 0 then stateWeight else least * once) +
            if least = most then 0 else stateWeight + (most - least) * (once + forkWeight 2)

/-- The room that starting a search anywhere and ending it takes. -/
def frameWeight : Nat := 6 * stateWeight

/-- Whether an automaton for a pattern takes too much room. -/
def isTooLarge (pattern : Pattern) (backward : Bool) : Bool :=
  weightLimit < pattern.weight backward + frameWeight

end Pattern
end CardKeeper

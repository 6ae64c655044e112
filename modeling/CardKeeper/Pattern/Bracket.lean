import CardKeeper.Pattern.Escape

/-!
# Classes between brackets

A class is read from its opening bracket on.  Classes may stand within a class, so that the levels
that are open form a stack; on each level parts gather in a union, and an operation combines what
has been gathered before it with what follows.
-/

namespace CardKeeper
namespace Pattern

/-- Parts of a class that have been read. -/
structure ClassPart where
  /-- Where they stand. -/
  span : Span
  /-- The parts, last first. -/
  items : List ClassTree

namespace ClassPart

/-- No parts. -/
def start (here : Cursor) : ClassPart := ⟨here.span, []⟩

/-- One more part. -/
def push (part : ClassPart) (item : ClassTree) : ClassPart where
  span := ⟨if part.items.isEmpty then item.span.first else part.span.first, item.span.last⟩
  items := item :: part.items

/-- The parts as one. -/
def tree : ClassPart → ClassTree
  | ⟨span, []⟩ => .nothing span
  | ⟨_, [item]⟩ => item
  | ⟨span, items⟩ => .union span items.reverse

end ClassPart

/-- A class that is open. -/
structure ClassLevel where
  /-- Where its opening stands. -/
  span : Span
  /-- Whether its complement is meant. -/
  negated : Bool
  /-- An operation with what stands before it. -/
  pending : Option (Operation × ClassTree)
  /-- What has been read since. -/
  part : ClassPart

namespace ClassLevel

/-- One more part. -/
def push (level : ClassLevel) (item : ClassTree) : ClassLevel :=
  { level with part := level.part.push item }

/-- What has been read, as one. -/
def tree (level : ClassLevel) : ClassTree :=
  let right := level.part.tree
  match level.pending with
  | none => right
  | some (operation, left) =>
      .combined ⟨left.span.first, right.span.last⟩ operation left right

/-- Wait for the other side of an operation. -/
def operate (level : ClassLevel) (operation : Operation) (after : Cursor) : ClassLevel :=
  { level with pending := some (operation, level.tree), part := .start after }

end ClassLevel

/-- The dashes that a class starts with. -/
def readDashes (loose : Bool) (start : Place) :
    Nat → ClassPart → Cursor → Except Fault (ClassPart × Cursor)
  | 0, part, here => .ok (part, here)
  | count + 1, part, here =>
      if here.head? ≠ some '-' then .ok (part, here)
      else
        let after := here.advance loose
        if after.atEnd then fail .classUnclosed ⟨start, start⟩
        else
          readDashes loose start count (part.push (.literal ⟨here.headSpan, '-', false⟩)) after

/-- Open a class, given the cursor at its bracket.  A closing bracket that comes first is a
character of the class. -/
def openClass (loose : Bool) (here : Cursor) : Except Fault (ClassLevel × Cursor) :=
  let start := here.place
  let needed (cursor : Cursor) : Except Fault Cursor :=
    if cursor.atEnd then fail .classUnclosed (cursor.spanFrom start) else .ok cursor
  (needed (here.advance loose)).bind fun inner =>
    let negated := inner.head? = some '^'
    (if negated then needed (inner.advance loose) else .ok inner).bind fun inner =>
      (readDashes loose start inner.rest.length (.start inner) inner).bind
        fun (part, inner) =>
          let bracketFirst := part.items.isEmpty && inner.head? = some ']'
          (if bracketFirst then needed (inner.advance loose) else .ok inner).map fun after =>
            let part :=
              if bracketFirst then part.push (.literal ⟨inner.headSpan, ']', false⟩) else part
            (⟨after.spanFrom start, negated, none, part⟩, after)

/-- A class with a name, if one stands at the cursor. -/
def namedClass? (here : Cursor) : Option (ClassTree × Cursor) :=
  (here.after? "[:").bind fun inner =>
    let positive := inner.after? "^"
    let inner := positive.getD inner
    let name := inner.rest.takeWhile (· ≠ ':')
    ((inner.skip name.length).after? ":]").bind fun after =>
      (NamedClass.ofName? name).map fun named =>
        (.named (after.spanFrom here.place) positive.isSome named, after)

/-- What stands for itself in a class, or an escape sequence. -/
def readClassAtom (loose : Bool) (here : Cursor) : Except Fault (Tree × Cursor) :=
  match here.head? with
  | none => fail .classUnclosed here.span
  | some '\\' => readEscape loose here
  | some character => .ok (.literal ⟨here.headSpan, character, false⟩, here.next)

/-- A part of a pattern as a part of a class. -/
def Tree.classItem : Tree → Except Fault ClassTree
  | .literal written => .ok (.literal written)
  | .shorthand span negated letter => .ok (.shorthand span negated letter)
  | .property span name => .ok (.property span name)
  | other => fail .classEscape other.span

/-- A part of a pattern as an end of a range. -/
def Tree.rangeEnd : Tree → Except Fault Literal
  | .literal written => .ok written
  | other => fail .classBoundary other.span

/-- A range of a class, or another part of it.  The opening of the class is at fault if the pattern
ends here. -/
def readRange (loose : Bool) (opening : Span) (here : Cursor) :
    Except Fault (ClassTree × Cursor) :=
  (readClassAtom loose here).bind fun (first, after) =>
    let dash := after.skipPadding loose
    let second := dash.second? loose
    if dash.atEnd then fail .classUnclosed opening
    else if dash.head? ≠ some '-' || second = some ']' || second = some '-' then
      first.classItem.map fun item => (item, dash)
    else
      let other := dash.advance loose
      if other.atEnd then fail .classUnclosed opening
      else
        (readClassAtom loose other).bind fun (last, after) =>
          let span : Span := ⟨first.span.first, last.span.last⟩
          first.rangeEnd.bind fun first => last.rangeEnd.bind fun last =>
            if last.character < first.character then fail .classRange span
            else .ok (.range span first last, after)

/-- The operation that a sign written twice stands for. -/
def operation? (here : Cursor) : Option Operation :=
  match here.rest with
  | '&' :: '&' :: _ => some .intersection
  | '-' :: '-' :: _ => some .difference
  | '~' :: '~' :: _ => some .symmetricDifference
  | _ => none

/-- The rest of a class, given its innermost open level, the other open levels, and at least as many
steps as characters are left. -/
def readClassFrom (loose : Bool) :
    Nat → ClassLevel → List ClassLevel → Cursor → Except Fault (Tree × Cursor)
  | 0, level, _, _ => fail .classUnclosed level.span
  | steps + 1, level, outer, here =>
      let here := here.skipPadding loose
      match here.head?, operation? here with
      | none, _ => fail .classUnclosed level.span
      | some '[', _ =>
          match namedClass? here with
          | some (item, after) => readClassFrom loose steps (level.push item) outer after
          | none =>
              (openClass loose here).bind fun (inner, after) =>
                readClassFrom loose steps inner (level :: outer) after
      | some ']', _ =>
          let after := here.next
          let span := after.spanFrom level.span.first
          match outer with
          | [] => .ok (.bracketed span level.negated level.tree, after)
          | parent :: outer =>
              readClassFrom loose steps (parent.push (.bracketed span level.negated level.tree))
                outer after
      | some _, some operation =>
          let after := here.skip 2
          readClassFrom loose steps (level.operate operation after) outer after
      | some _, none =>
          (readRange loose level.span here).bind fun (item, after) =>
            readClassFrom loose steps (level.push item) outer after

/-- A class, given the cursor at its opening bracket. -/
def readClass (loose : Bool) (here : Cursor) : Except Fault (Tree × Cursor) :=
  (openClass loose here).bind fun (level, after) =>
    readClassFrom loose (after.rest.length + 1) level [] after

end Pattern
end CardKeeper

import CardKeeper.Pattern.Basic
import CardKeeper.Pattern.Reader

/-!
# What a written pattern means

Flags decide what the parts of a written pattern mean.  They hold from where they are set up to the
end of the group.  Properties of characters and their cases are known for ASCII only, and only
where the pattern is about bytes; but then it must not match anything other than text.
-/

namespace CardKeeper
namespace Pattern

/-- The flags that decide what parts mean. -/
structure Flags where
  /-- Case is ignored. -/
  ignoreCase : Bool
  /-- Lines start and end within the text. -/
  multiLine : Bool
  /-- The dot stands for every character. -/
  dotAll : Bool
  /-- Characters count, and not bytes. -/
  unicode : Bool
  /-- A line may end in a carriage return. -/
  carriageReturn : Bool

namespace Flags

/-- The flags at the start of a pattern. -/
def standard : Flags := ⟨false, false, false, true, false⟩

/-- Flags after changes. -/
def change (flags : Flags) (changes : FlagChanges) : Flags where
  ignoreCase := changes.apply .ignoreCase flags.ignoreCase
  multiLine := changes.apply .multiLine flags.multiLine
  dotAll := changes.apply .dotAll flags.dotAll
  unicode := changes.apply .unicode flags.unicode
  carriageReturn := changes.apply .carriageReturn flags.carriageReturn

end Flags

/-- The characters of a class with a name. -/
def NamedClass.set : NamedClass → Charset
  | .alnum => [(0x30, 0x39), (0x41, 0x5A), (0x61, 0x7A)]
  | .alpha => [(0x41, 0x5A), (0x61, 0x7A)]
  | .ascii => [(0x00, 0x7F)]
  | .blank => [(0x09, 0x09), (0x20, 0x20)]
  | .cntrl => [(0x00, 0x1F), (0x7F, 0x7F)]
  | .digit => [(0x30, 0x39)]
  | .graph => [(0x21, 0x7E)]
  | .lower => [(0x61, 0x7A)]
  | .print => [(0x20, 0x7E)]
  | .punct => [(0x21, 0x2F), (0x3A, 0x40), (0x5B, 0x60), (0x7B, 0x7E)]
  | .space => [(0x09, 0x0D), (0x20, 0x20)]
  | .upper => [(0x41, 0x5A)]
  | .word => [(0x30, 0x39), (0x41, 0x5A), (0x5F, 0x5F), (0x61, 0x7A)]
  | .xdigit => [(0x30, 0x39), (0x41, 0x46), (0x61, 0x66)]

/-- The ASCII characters of a class with a letter. -/
def Shorthand.set : Shorthand → Charset
  | .digit => NamedClass.digit.set
  | .space => NamedClass.space.set
  | .word => NamedClass.word.set

/-- A set with both cases of its letters if case is ignored.  Only the case of ASCII characters is
known. -/
def foldCase (flags : Flags) (span : Span) (set : Charset) : Except Fault Charset :=
  if !flags.ignoreCase then .ok set
  else if !flags.unicode then .ok set.withBothCases
  else if set.isEmpty then .ok set
  else fail .caseUnknown span

/-- A set or its complement, after case has been seen to.  The complement of a set of bytes holds
more than text. -/
def foldAndNegate (flags : Flags) (span : Span) (negated : Bool) (set : Charset) :
    Except Fault Charset :=
  (foldCase flags span set).bind fun set =>
    if !negated then .ok set
    else if flags.unicode then .ok set.complement
    else fail .notText span

/-- The set of a class with a letter. -/
def shorthandSet (flags : Flags) (span : Span) (negated : Bool) (shorthand : Shorthand) :
    Except Fault Charset :=
  if flags.unicode then fail .shorthandUnknown span
  else if negated then fail .notText span
  else .ok shorthand.set

/-- The names of properties that stand for values of another property. -/
def valueNames : List String := ["cf", "sc", "lc"]

/-- A name of a property without what does not count in it. -/
def plainName (name : List Char) : List Char :=
  let lowered := name.map Char.toLower
  let kept := if "is".toList.isPrefixOf lowered then lowered.drop 2 else lowered
  kept.filter fun character =>
    character.toNat ≤ 0x7F && character ≠ ' ' && character ≠ '_' && character ≠ '-'

/-- The set of a property.  No property is known. -/
def propertySet (flags : Flags) (span : Span) (name : Option (List Char)) :
    Except Fault Charset :=
  if !flags.unicode then fail .unicodeNotAllowed span
  else if name.any fun name => valueNames.contains (String.ofList (plainName name)) then
    fail .propertyValueUnknown span
  else fail .propertyUnknown span

/-- A character that stands for itself.  Where bytes count, a byte has to be an ASCII character. -/
def literalChar (flags : Flags) (literal : Literal) : Except Fault Char :=
  if !flags.unicode && literal.asByte && 0x7F < literal.character.toNat then
    fail .notText literal.span
  else .ok literal.character

/-- A character that stands for itself in a class.  Where bytes count, it has to be a byte. -/
def classChar (flags : Flags) (literal : Literal) : Except Fault Char :=
  (literalChar flags literal).bind fun character =>
    if !flags.unicode && 0x7F < character.toNat then fail .unicodeNotAllowed literal.span
    else .ok character

/-- Two sets, combined. -/
def Operation.apply (left right : Charset) : Operation → Charset
  | .intersection => left.intersection right
  | .difference => left.difference right
  | .symmetricDifference => left.symmetricDifference right

mutual

/-- The set of what is written in a class. -/
def ClassTree.set (flags : Flags) : ClassTree → Except Fault Charset
  | .nothing _ => .ok []
  | .literal written => (classChar flags written).map Charset.single
  | .range _ first last =>
      (classChar flags first).bind fun first =>
        (classChar flags last).map fun last => [(first.toNat, last.toNat)]
  | .named span negated name => foldAndNegate flags span negated name.set
  | .shorthand span negated letter => shorthandSet flags span negated letter
  | .property span name => propertySet flags span name
  | .bracketed span negated inner => (inner.set flags).bind (foldAndNegate flags span negated)
  | .union _ items => ClassTree.unionSet flags items
  | .combined _ operation left right =>
      (left.set flags).bind fun leftSet => (right.set flags).bind fun rightSet =>
        (foldCase flags right.span rightSet).bind fun rightSet =>
          (foldCase flags left.span leftSet).map fun leftSet => operation.apply leftSet rightSet

/-- The set of several things that are written in a class. -/
def ClassTree.unionSet (flags : Flags) : List ClassTree → Except Fault Charset
  | [] => .ok []
  | item :: rest =>
      (item.set flags).bind fun set =>
        (ClassTree.unionSet flags rest).map fun more => set ++ more

end

/-- The pattern of a character that stands for itself. -/
def literalPattern (flags : Flags) (literal : Literal) : Except Fault Pattern :=
  (literalChar flags literal).bind fun character =>
    let set := Charset.single character
    if flags.ignoreCase && flags.unicode then fail .caseUnknown literal.span
    else if flags.ignoreCase then .ok (.oneOf set.withBothCases)
    else .ok (.oneOf set)

/-- The pattern of a dot. -/
def dotPattern (flags : Flags) (span : Span) : Except Fault Pattern :=
  if !flags.unicode then fail .notText span
  else if flags.dotAll then .ok (.oneOf .everything)
  else if flags.carriageReturn then
    .ok (.oneOf (Charset.complement [(0x0A, 0x0A), (0x0D, 0x0D)]))
  else .ok (.oneOf (Charset.complement [(0x0A, 0x0A)]))

/-- What a condition as to words asks for. -/
def Assertion.wordCondition? : Assertion → Option WordCondition
  | .boundary => some .boundary
  | .noBoundary => some .noBoundary
  | .wordStart => some .start
  | .wordEnd => some .ending
  | .noWordBefore => some .noneBefore
  | .noWordAfter => some .noneAfter
  | .lineStart | .lineEnd | .textStart | .textEnd => none

/-- The condition of an assertion. -/
def Assertion.condition (flags : Flags) (assertion : Assertion) : Condition :=
  match assertion, assertion.wordCondition? with
  | _, some asked => if flags.unicode then .anyWord else .word asked
  | .lineStart, none => if flags.multiLine then .lineStart flags.carriageReturn else .textStart
  | .lineEnd, none => if flags.multiLine then .lineEnd flags.carriageReturn else .textEnd
  | .textStart, none => .textStart
  | _, none => .textEnd

/-- Whether a pattern describes the empty text only. -/
def isWidthless : Pattern → Bool
  | .empty | .condition _ => true
  | .oneOf _ => false
  | .sequence left right | .choice left right => left.isWidthless && right.isWidthless
  | .repeated _ _ inner | .captured inner => inner.isWidthless

/-- A repetition.  What describes the empty text only is not repeated more than once, and nothing is
left of what is not repeated at all. -/
def repetition (least : Nat) (most : Option Nat) (inner : Pattern) : Pattern :=
  let once := inner.isWidthless
  let least := if once then Nat.min least 1 else least
  let most := if once then some (Nat.min (most.getD 1) 1) else most
  if most = some 0 then .empty
  else if least = 1 && most = some 1 then inner
  else .repeated least most inner

/-- Patterns one after the other. -/
def ofSequence : List Pattern → Pattern
  | [] => .empty
  | [pattern] => pattern
  | pattern :: rest => .sequence pattern (ofSequence rest)

/-- The set that patterns of single characters make together. -/
def commonSet? : List Pattern → Option Charset
  | [] => some []
  | .oneOf set :: rest => (commonSet? rest).map fun more => set ++ more
  | _ :: _ => none

/-- One of several patterns. -/
def ofChoice (branches : List Pattern) : Pattern :=
  match commonSet? branches, branches with
  | some set, _ => .oneOf set
  | none, [] => .oneOf []
  | none, first :: rest => rest.foldl .choice first

mutual

/-- The pattern of a part, and the flags after it. -/
def Tree.meaning (before : Flags) : Tree → Except Fault (Pattern × Flags)
  | .empty _ => .ok (.empty, before)
  | .flags _ changes => .ok (.empty, before.change changes)
  | .literal written => (literalPattern before written).map fun pattern => (pattern, before)
  | .dot span => (dotPattern before span).map fun pattern => (pattern, before)
  | .assertion _ asked => .ok (.condition (asked.condition before), before)
  | .shorthand span negated letter =>
      (shorthandSet before span negated letter).map fun set => (.oneOf set, before)
  | .property span name => (propertySet before span name).map fun set => (.oneOf set, before)
  | .bracketed span negated inner =>
      ((inner.set before).bind (foldAndNegate before span negated)).map fun set =>
        (.oneOf set, before)
  | .repeated _ least most inner =>
      (inner.meaning before).map fun (pattern, after) => (repetition least most pattern, after)
  | .group _ changes captures inner =>
      (inner.meaning (before.change changes)).map fun (pattern, _) =>
        (if captures then .captured pattern else pattern, before)
  | .sequence _ items =>
      (Tree.meanings before items).map fun (patterns, after) => (ofSequence patterns, after)
  | .choice _ branches =>
      (Tree.meanings before branches).map fun (patterns, after) => (ofChoice patterns, after)

/-- The patterns of parts from left to right, and the flags after them. -/
def Tree.meanings (before : Flags) : List Tree → Except Fault (List Pattern × Flags)
  | [] => .ok ([], before)
  | item :: rest =>
      (item.meaning before).bind fun (pattern, between) =>
        (Tree.meanings between rest).map fun (patterns, after) => (pattern :: patterns, after)

end

end Pattern
end CardKeeper

import CardKeeper.Pattern.Bracket
import CardKeeper.Text.Lowercase
import CardKeeper.Text.WordData

/-!
# Reading a pattern

A pattern is read from the left.  Groups that are open form a stack of levels; on each level parts
gather in a branch, and a bar ends a branch.  A repetition takes the part before it.
-/

namespace CardKeeper
namespace Pattern

/-- How a group was opened. -/
structure Opening where
  /-- Where it was opened. -/
  span : Span
  /-- The flags of the group. -/
  changes : FlagChanges
  /-- Whether what the group matches can be referred to. -/
  captures : Bool
  /-- Whether the pattern was loosely written before the group. -/
  loose : Bool

/-- A level on which parts gather. -/
structure Level where
  /-- How the group was opened, below the top level. -/
  opening : Option Opening
  /-- Where the level starts. -/
  start : Place
  /-- Where the branch starts. -/
  branchStart : Place
  /-- The branches that have ended, last first. -/
  branches : List Tree
  /-- The parts of the branch, last first. -/
  items : List Tree

namespace Level

/-- A level on which nothing has been read. -/
def fresh (opening : Option Opening) (here : Cursor) : Level :=
  ⟨opening, here.place, here.place, [], []⟩

/-- One more part. -/
def push (level : Level) (item : Tree) : Level :=
  { level with items := item :: level.items }

/-- The branch that has been read. -/
def branch (level : Level) (here : Cursor) : Tree :=
  .ofItems (here.spanFrom level.branchStart) level.items

/-- End a branch, given the cursors before and after the bar. -/
def endBranch (level : Level) (here after : Cursor) : Level :=
  { level with
    branchStart := after.place
    branches := level.branch here :: level.branches
    items := [] }

/-- What has been read on a level. -/
def tree (level : Level) (here : Cursor) : Tree :=
  if level.branches.isEmpty then level.branch here
  else .choice (here.spanFrom level.start) (level.branch here :: level.branches).reverse

end Level

/-- How far reading has come, apart from the cursor. -/
structure Progress where
  /-- Whether the pattern is loosely written here. -/
  loose : Bool
  /-- The innermost level. -/
  level : Level
  /-- The other levels, from the inside. -/
  outer : List Level
  /-- The names of groups, with their places. -/
  names : List (List Char × Span)

namespace Progress

/-- One more part. -/
def push (progress : Progress) (item : Tree) : Progress :=
  { progress with level := progress.level.push item }

end Progress

/-- Whether the name of a group may start with a character. -/
def startsName (character : Char) : Bool :=
  character = '_' || Text.inRanges Text.alphabeticRanges character

/-- Whether the name of a group may go on with a character. -/
def continuesName (character : Char) : Bool :=
  startsName character || character = '.' || character = '[' || character = ']' ||
    Text.inRanges Text.numberRanges character

/-- The name of a group with its place, and the cursor after it. -/
def readName (names : List (List Char × Span)) (here : Cursor) :
    Except Fault ((List Char × Span) × Cursor) :=
  let length :=
    match here.rest with
    | [] => 0
    | first :: rest => if startsName first then 1 + (rest.takeWhile continuesName).length else 0
  let stop := here.skip length
  let name := here.rest.take length
  let span := stop.spanFrom here.place
  match stop.head? with
  | none => fail .nameEnd stop.span
  | some '>' =>
      if name.isEmpty then fail .nameEmpty here.span
      else
        match names.find? fun entry => entry.1 == name with
        | some (_, earlier) => failBoth .nameRepeated span earlier
        | none => .ok ((name, span), stop.next)
  | some _ => fail .nameCharacter stop.headSpan

/-- Flags that have been read. -/
structure FlagsRead where
  /-- The flags with their places, last first. -/
  flags : List (Flag × Bool × Span)
  /-- The place of the negation, if there is one. -/
  negation : Option Span
  /-- Whether the negation comes last. -/
  dangling : Bool

/-- The flags up to a colon or a closing parenthesis. -/
def readFlags (place : Place) (read : FlagsRead) : List Char → Except Fault (FlagChanges × Cursor)
  | [] => fail .flagEnd ⟨place, place⟩
  | letter :: rest =>
      let span : Span := ⟨place, place.after letter⟩
      if letter = ':' || letter = ')' then
        match read.dangling, read.negation with
        | true, some negation => fail .flagDangling negation
        | _, _ =>
            .ok (read.flags.reverse.map fun entry => (entry.1, entry.2.1), ⟨place, letter :: rest⟩)
      else if letter = '-' then
        match read.negation with
        | some earlier => failBoth .negationRepeated span earlier
        | none =>
            readFlags (place.after letter)
              { read with negation := some span, dangling := true } rest
      else
        match Flag.ofLetter? letter with
        | none => fail .flagUnknown span
        | some flag =>
            match read.flags.find? fun entry => entry.1 == flag with
            | some (_, _, earlier) => failBoth .flagRepeated span earlier
            | none =>
                let entry := (flag, read.negation.isNone, span)
                readFlags (place.after letter)
                  { read with flags := entry :: read.flags, dangling := false } rest

/-- Enter a group. -/
def enter (progress : Progress) (opening : Opening) (after : Cursor) : Progress :=
  { progress with
    loose := opening.changes.apply .loose progress.loose
    level := .fresh (some opening) after
    outer := progress.level :: progress.outer }

/-- Open a group or set flags, given the cursor at the parenthesis. -/
def openGroup (progress : Progress) (here : Cursor) : Except Fault (Progress × Cursor) :=
  let span := here.headSpan
  let inner := here.advance progress.loose
  let looking := ["?=", "?!", "?<=", "?<!"].findSome? inner.after?
  let naming := ["?P<", "?<"].findSome? inner.after?
  match looking, naming, inner.after? "?" with
  | some after, _, _ => fail .lookAround (after.spanFrom here.place)
  | none, some name, _ =>
      (readName progress.names name).map fun (entry, after) =>
        (enter { progress with names := entry :: progress.names }
          ⟨span, [], true, progress.loose⟩ after, after)
  | none, none, some flags =>
      if flags.atEnd then fail .groupUnclosed span
      else
        (readFlags flags.place ⟨[], none, false⟩ flags.rest).bind fun (changes, stop) =>
          let after := stop.next
          if stop.head? = some ':' then
            .ok (enter progress ⟨span, changes, false, progress.loose⟩ after, after)
          else if changes.isEmpty then fail .nothingToRepeat inner.span
          else
            let loose := changes.apply .loose progress.loose
            let item := Tree.flags (after.spanFrom here.place) changes
            .ok ({ progress with loose := loose }.push item, after)
  | none, none, none => .ok (enter progress ⟨span, [], true, progress.loose⟩ inner, inner)

/-- Close a group, given the cursor at the parenthesis. -/
def closeGroup (progress : Progress) (here : Cursor) : Except Fault (Progress × Cursor) :=
  match progress.level.opening, progress.outer with
  | some opening, parent :: outer =>
      let after := here.next
      let group := Tree.group (after.spanFrom opening.span.first) opening.changes opening.captures
        (progress.level.tree here)
      .ok ({ progress with loose := opening.loose, level := parent.push group, outer }, after)
  | _, _ => fail .groupUnopened here.headSpan

/-- The part that a repetition takes, and the level without it. -/
def operand (level : Level) (here : Cursor) : Except Fault (Tree × Level) :=
  match level.items with
  | [] | .empty _ :: _ | .flags _ _ :: _ => fail .nothingToRepeat here.span
  | item :: items => .ok (item, { level with items })

/-- A level after a repetition of a part, and the cursor after it.  A question mark behind it is
part of it. -/
def finishRepetition (progress : Progress) (level : Level) (item : Tree) (least : Nat)
    (most : Option Nat) (after : Cursor) : Progress × Cursor :=
  let after := (after.after? "?").getD after
  let repetition := Tree.repeated (after.spanFrom item.span.first) least most item
  ({ progress with level := level.push repetition }, after)

/-- Repeat the part before a sign, given the cursor at the sign. -/
def repeatBySign (progress : Progress) (least : Nat) (most : Option Nat) (here : Cursor) :
    Except Fault (Progress × Cursor) :=
  (operand progress.level here).map fun (item, level) =>
    finishRepetition progress level item least most here.next

/-- One more than the largest number of repetitions. -/
def countLimit : Nat := 4294967296

/-- A number of repetitions, with blanks around it. -/
def readCount (loose : Bool) (here : Cursor) : Except Fault Nat × Cursor :=
  let start := here.skipBlanks
  let (digits, stop) := start.collect loose Char.isDigit
  let (_, after) := stop.collect loose Text.isBlank
  let value := digits.foldl (fun value digit => value * 10 + (digit.toNat - 0x30)) 0
  let result :=
    if digits.isEmpty then fail .countEmpty (stop.spanFrom start.place)
    else if countLimit ≤ value then fail .decimal (stop.spanFrom start.place)
    else .ok value
  (result, after)

/-- The bounds of a repetition, and the cursor at what should be the closing brace, given the cursor
behind the opening brace. -/
def readBounds (loose : Bool) (start : Place) (inner : Cursor) :
    Except Fault (Nat × Option Nat × Cursor) :=
  let (least, after) := readCount loose inner
  if after.atEnd then fail .countUnclosed (after.spanFrom start)
  else if after.head? ≠ some ',' then least.map fun least => (least, some least, after)
  else
    let second := after.advance loose
    if second.atEnd then fail .countUnclosed (second.spanFrom start)
    else if second.head? = some '\x7d' then least.map fun least => (least, none, second)
    else
      least.bind fun least =>
        let (most, after) := readCount loose second
        most.map fun most => (least, some most, after)

/-- Repeat the part before a brace, given the cursor at the brace. -/
def repeatByCount (progress : Progress) (here : Cursor) : Except Fault (Progress × Cursor) :=
  let loose := progress.loose
  let start := here.place
  (operand progress.level here).bind fun (item, level) =>
    let inner := here.advance loose
    if inner.atEnd then fail .countUnclosed (inner.spanFrom start)
    else
      (readBounds loose start inner).bind fun (least, most, stop) =>
        if stop.head? ≠ some '\x7d' then fail .countUnclosed (stop.spanFrom start)
        else
          let (progress, after) :=
            finishRepetition progress level item least most (stop.advance loose)
          if most.any (· < least) then fail .countOrder (after.spanFrom start)
          else .ok (progress, after)

/-- A part that is a single character or an escape sequence, given the cursor at it. -/
def readSingle (loose : Bool) (here : Cursor) : Except Fault (Tree × Cursor) :=
  let span := here.headSpan
  match here.head? with
  | none => .ok (.empty span, here)
  | some '\\' => readEscape loose here
  | some '.' => .ok (.dot span, here.next)
  | some '^' => .ok (.assertion span .lineStart, here.next)
  | some '$' => .ok (.assertion span .lineEnd, here.next)
  | some character => .ok (.literal ⟨span, character, false⟩, here.next)

/-- Read on by one part or sign. -/
def readNext (progress : Progress) (here : Cursor) : Except Fault (Progress × Cursor) :=
  match here.head? with
  | some '(' => openGroup progress here
  | some ')' => closeGroup progress here
  | some '|' =>
      .ok ({ progress with level := progress.level.endBranch here here.next }, here.next)
  | some '[' =>
      (readClass progress.loose here).map fun (item, after) => (progress.push item, after)
  | some '?' => repeatBySign progress 0 (some 1) here
  | some '*' => repeatBySign progress 0 none here
  | some '+' => repeatBySign progress 1 none here
  | some '\x7b' => repeatByCount progress here
  | _ => (readSingle progress.loose here).map fun (item, after) => (progress.push item, after)

/-- What has been read when the pattern ends. -/
def finish (progress : Progress) (here : Cursor) : Except Fault Tree :=
  match progress.level.opening with
  | some opening => fail .groupUnclosed opening.span
  | none => .ok (progress.level.tree here)

/-- The rest of a pattern, in at least as many steps as characters are left. -/
def readFrom : Nat → Progress → Cursor → Except Fault Tree
  | 0, progress, here => finish progress here
  | steps + 1, progress, here =>
      let here := here.skipPadding progress.loose
      if here.atEnd then finish progress here
      else (readNext progress here).bind fun (progress, after) => readFrom steps progress after

/-- The parts of a written pattern. -/
def Tree.ofText? (text : List Char) : Except Fault Tree :=
  let here := Cursor.start text
  (readFrom text.length ⟨false, .fresh none here, [], []⟩ here).bind fun tree =>
    match tree.tooDeep? depthLimit with
    | some span => fail .tooDeep span
    | none => .ok tree

end Pattern
end CardKeeper

import CardKeeper.Event
import CardKeeper.Pattern.Compile
import CardKeeper.Text.Blank

/-!
# The log

Which events are shown, and how.  Directives give a highest rank to the sources whose names start
with some text, or to all sources; of those that fit a source the one with the longest text counts.
They are written as a list with commas, such as `warn` or `info,miyoo_junk_lib::audit=debug`; what
follows a slash is a pattern that must occur in the events that are shown.
-/

namespace CardKeeper

/-- A rule that says which events of some sources are shown. -/
structure Directive where
  /-- What the names of the sources start with; without it the rule is for all sources. -/
  source : Option String
  /-- The highest rank that is shown. -/
  rank : Nat
  deriving DecidableEq

/-- Which events are shown. -/
structure LogFilter where
  /-- The rules. -/
  directives : List Directive
  /-- What must occur in the events. -/
  wanted : Option Pattern
  deriving DecidableEq

namespace LogFilter

/-- The rank that shows everything. -/
def highest : Nat := Level.trace.rank

/-- The rank that a word stands for. -/
def rank? (word : List Char) : Option Nat :=
  let names := [("off", 0), ("error", 1), ("warn", 2), ("info", 3), ("debug", 4), ("trace", 5)]
  (names.find? fun entry => entry.1.toList == word.map Char.toLower).map (·.2)

/-- The directive that an item of the list spells, or the part of it that is wrong. -/
def directive? (item : List Char) : Except String Directive :=
  match item.splitOn '=' with
  | [word] =>
      match rank? word with
      | some rank => .ok ⟨none, rank⟩
      | none => .ok ⟨some (String.ofList word), highest⟩
  | [source, word] =>
      let word := Text.trim word
      if word.isEmpty then .ok ⟨some (String.ofList source), highest⟩
      else
        match rank? word with
        | some rank => .ok ⟨some (String.ofList source), rank⟩
        | none => .error (String.ofList word)
  | _ => .error (String.ofList item)

/-- A filter with one more directive, which replaces one for the same sources. -/
def add (filter : LogFilter) (directive : Directive) : LogFilter :=
  if filter.directives.any fun other => other.source == directive.source then
    { filter with
      directives := filter.directives.map fun other =>
        if other.source == directive.source then directive else other }
  else { filter with directives := filter.directives ++ [directive] }

/-- A complaint about the list, which is told and otherwise without effect. -/
def complaint (problem : String) : String :=
  "warning: " ++ problem ++ ", ignoring it"

/-- What is wrong with a part of the list. -/
def partProblem (part : String) : String :=
  "invalid logging spec '" ++ part ++ "'"

/-- The pattern behind the slash, or what is wrong with it. -/
def pattern? (text : List Char) : Except String Pattern :=
  (Pattern.ofText? (String.ofList text)).mapError fun refusal =>
    "invalid regex filter - " ++ refusal.message (String.ofList text)

/-- The problems among some results. -/
def problems {α : Type} (results : List (Except String α)) : List String :=
  results.filterMap fun result =>
    match result with
    | .ok _ => none
    | .error problem => some problem

/-- A filter with the directives of a list, and complaints about what is wrong with it. -/
def extend (filter : LogFilter) (list : String) : LogFilter × List String :=
  match list.toList.splitOn '/' with
  | items :: more =>
      if 1 < more.length then
        ({ filter with wanted := none }, [complaint (partProblem list ++ " (too many '/'s)")])
      else
        let items := ((items.splitOn ',').map Text.trim).filter fun item => !item.isEmpty
        let read := items.map directive?
        let wanted := more.map pattern?
        ((read.filterMap Except.toOption).foldl add
            { filter with wanted := wanted.head?.bind Except.toOption },
          ((problems read).map partProblem ++ problems wanted).map complaint)
  | [] => (filter, [])

/-- The length of what a directive asks of the name of a source. -/
def Directive.weight (directive : Directive) : Nat :=
  (directive.source.map String.utf8ByteSize).getD 0

/-- Whether a directive is for a source. -/
def covers (directive : Directive) (source : String) : Bool :=
  match directive.source with
  | some start => start.toList.isPrefixOf source.toList
  | none => true

/-- The directive that counts for a source: the last of those with the longest text. -/
def choose (source : String) : List Directive → Option Directive
  | [] => none
  | directive :: rest =>
      match choose source rest with
      | some other =>
          if covers directive source && Directive.weight other < Directive.weight directive then
            some directive
          else some other
      | none => if covers directive source then some directive else none

/-- Whether an event is shown. -/
def shows (filter : LogFilter) (event : Event) : Bool :=
  (match choose event.source filter.directives with
    | some directive => event.level.rank ≤ directive.rank
    | none => false) &&
  (match filter.wanted with
    | some wanted => wanted.occursIn event.text.toList
    | none => true)

/-- The filter for the flags of a command. -/
def ofFlags (quiet verbose : Bool) : LogFilter :=
  let level := if quiet then Level.warn else if verbose then Level.debug else Level.info
  ⟨[⟨none, level.rank⟩], none⟩

end LogFilter

/-- An event as a line of the log: its text, or with a time the level and the source before it. -/
def Event.line (event : Event) (time : Option String) : String :=
  match time with
  | some time => time ++ " [" ++ event.level.name ++ " " ++ event.source ++ "] " ++ event.text
  | none => event.text

end CardKeeper

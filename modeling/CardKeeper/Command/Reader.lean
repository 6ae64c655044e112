import CardKeeper.Command.Basic

/-!
# Reading the command line

Arguments are read from the left.  Words name a group of commands and then a command; switches may
stand after any word that knows them, and `--quiet` and `--verbose` are known everywhere.  After a
lone `--` everything is a value.

A value that has been read waits until the next argument shows that it is complete.  Each word's
switches are checked on their own once the words after it have been.
-/

namespace CardKeeper
namespace Command

/-- What has been read but not yet taken. -/
inductive Waiting where
  /-- Nothing. -/
  | nothing
  /-- `--output`, with its value if that has been read. -/
  | output (value : Option String)
  /-- Values of the command. -/
  | values (values : List String)
  deriving DecidableEq

/-- What has been read after a word. -/
structure Reading where
  /-- The switches, in order. -/
  seen : List Switch
  /-- The value of `--output`. -/
  output : Option String
  /-- The values that have been taken. -/
  values : List String
  /-- What waits. -/
  waiting : Waiting
  deriving DecidableEq

/-- Why reading stops before its end. -/
inductive Stop where
  /-- The command line is wrong. -/
  | usage (error : UsageError)
  /-- Help is asked for. -/
  | help
  deriving DecidableEq

namespace Reading

/-- Nothing has been read. -/
def start : Reading := ⟨[], none, [], .nothing⟩

/-- The number of values. -/
def valueCount (reading : Reading) : Nat :=
  reading.values.length +
    match reading.waiting with
    | .values values => values.length
    | _ => 0

/-- Take the value of `--output`. -/
def takeOutput (reading : Reading) (value : String) : Except Stop Reading :=
  if reading.seen.contains .output then .error (.usage (.repeated .output))
  else if value.isEmpty then .error (.usage (.valueMissing Switch.output.shown))
  else .ok { reading with seen := reading.seen ++ [.output], output := some value }

/-- Take what waits. -/
def settle (scope : Scope) (reading : Reading) : Except Stop Reading :=
  let settled := { reading with waiting := .nothing }
  match reading.waiting with
  | .nothing => .ok settled
  | .output none => .error (.usage (.valueMissing Switch.output.shown))
  | .output (some value) => settled.takeOutput value
  | .values values =>
      if values.any String.isEmpty then .error (.usage (.valueMissing scope.valueName))
      else .ok { settled with values := settled.values ++ values }

/-- Take a switch without a value. -/
def takeFlag (scope : Scope) (reading : Reading) (switch : Switch) : Except Stop Reading :=
  (reading.settle scope).bind fun reading =>
    if switch = .help then .error .help
    else if reading.seen.contains switch then .error (.usage (.repeated switch))
    else .ok { reading with seen := reading.seen ++ [switch] }

/-- Take a switch with a value that may be written in the same argument. -/
def takeOption (scope : Scope) (reading : Reading) (attached : Option String) :
    Except Stop Reading :=
  (reading.settle scope).bind fun reading =>
    match attached with
    | some value => reading.takeOutput value
    | none => .ok { reading with waiting := .output none }

/-- Read a switch by its long name, given what follows the dashes. -/
def readLong (scope : Scope) (reading : Reading) (argument : List Char) : Except Stop Reading :=
  let name := String.ofList (argument.takeWhile (· != '='))
  let attached : Option String :=
    match argument.dropWhile (· != '=') with
    | '=' :: value => some (String.ofList value)
    | _ => none
  match scope.switches.find? fun switch => switch.long == name, attached with
  | none, _ => .error (.usage (.unexpected ("--" ++ name)))
  | some switch, some value =>
      if switch.takesValue then reading.takeOption scope (some value)
      else .error (.usage (.valueUnexpected value switch))
  | some switch, none =>
      if switch.takesValue then reading.takeOption scope none else reading.takeFlag scope switch

/-- Read switches by their letters, given what follows the dash. -/
def readLetters (scope : Scope) (reading : Reading) : List Char → Except Stop Reading
  | [] => .ok reading
  | letter :: rest =>
      match scope.switches.find? fun switch => switch.letter? == some letter with
      | none => .error (.usage (.unexpected (String.ofList ['-', letter])))
      | some switch =>
          if switch.takesValue then
            reading.takeOption scope
              (match rest with
                | [] => none
                | '=' :: value => some (String.ofList value)
                | value => some (String.ofList value))
          else
            (reading.takeFlag scope switch).bind fun reading => reading.readLetters scope rest

/-- Read a value. -/
def readValue (scope : Scope) (reading : Reading) (trailing : Bool) (argument : String) :
    Except Stop Reading :=
  if scope.takesValueAfter reading.valueCount then
    match reading.waiting with
    | .values values => .ok { reading with waiting := .values (values ++ [argument]) }
    | _ =>
        (reading.settle scope).map fun reading => { reading with waiting := .values [argument] }
  else if scope.isGroup then
    if trailing && ((scope.member? argument).isSome || argument == "help") then
      .error (.usage (.unexpected argument))
    else .error (.usage (.unknownCommand argument))
  else .error (.usage (.unexpected argument))

/-- Read an argument that is not a word. -/
def readArgument (scope : Scope) (reading : Reading) (argument : String) : Except Stop Reading :=
  match argument.toList with
  | '-' :: '-' :: rest => reading.readLong scope rest
  | '-' :: letter :: rest => reading.readLetters scope (letter :: rest)
  | _ =>
      match reading.waiting with
      | .output none => .ok { reading with waiting := .output (some argument) }
      | _ => reading.readValue scope false argument

/-- Check what has been read after a word, given whether another word follows. -/
def check (scope : Scope) (reading : Reading) (followed : Bool) : Except Stop Reading :=
  (reading.settle scope).bind fun reading =>
    if !followed && scope.isGroup then
      .error (.usage (if reading.seen.isEmpty then .nothing scope else .commandMissing scope))
    else
      match reading.seen.filter fun switch => switch = .quiet || switch = .verbose with
      | first :: second :: _ => .error (.usage (.conflict first second))
      | _ =>
          if scope = .thumbnail && reading.values.isEmpty then .error (.usage .sourcesMissing)
          else .ok reading

/-- The command that has been read. -/
def command? (scope : Scope) (reading : Reading) : Option Command :=
  let folder := reading.values.head?.map Path.ofText
  match scope with
  | .missingImgs => some (.missingImgs folder)
  | .m3u => some (.m3u folder (reading.seen.contains .dryRun))
  | .thumbnail =>
      some (.thumbnail (reading.output.map Path.ofText) (reading.seen.contains .fast)
        (reading.seen.contains .pico8) (reading.values.map Path.ofText))
  | .configShow => some .configShow
  | .configPath => some .configPath
  | .program | .config => none

end Reading

/-- What words after `help` lead to.  In a group `help` is itself a word, and no other word follows
it. -/
def readHelp (scope : Scope) : List String → Stop
  | [] => .help
  | word :: rest =>
      match scope.member? word with
      | some inner => readHelp inner rest
      | none =>
          if word == "help" && scope.isGroup then
            match rest with
            | [] => .help
            | next :: _ => .usage (.unknownCommand next)
          else .usage (.unknownCommand word)

/-- Read the arguments after a word. -/
def readFrom (scope : Scope) (reading : Reading) (trailing : Bool) :
    List String → Except Stop Invocation
  | [] =>
      (reading.check scope false).bind fun reading =>
        match reading.command? scope with
        | some command =>
            .ok ⟨reading.seen.contains .quiet, reading.seen.contains .verbose, command⟩
        | none => .error (.usage (.nothing scope))
  | argument :: rest =>
      if trailing then
        (reading.readValue scope true argument).bind fun reading =>
          readFrom scope reading true rest
      else
        match scope.member? argument with
        | some inner =>
            (readFrom inner .start false rest).bind fun invocation =>
              (reading.check scope true).map fun reading =>
                { invocation with
                  quiet := reading.seen.contains .quiet || invocation.quiet
                  verbose := reading.seen.contains .verbose || invocation.verbose }
        | none =>
            if scope.isGroup && argument == "help" then .error (readHelp scope rest)
            else if argument == "--" then readFrom scope reading true rest
            else
              (reading.readArgument scope argument).bind fun reading =>
                readFrom scope reading false rest

/-- The command that arguments ask for. -/
def read (arguments : List String) : Except Stop Invocation :=
  readFrom .program .start false arguments

end Command
end CardKeeper

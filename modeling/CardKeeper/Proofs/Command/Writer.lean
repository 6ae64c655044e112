import Mathlib
import CardKeeper.Proofs.Command.Reader
import CardKeeper.Proofs.Utf8

/-!
# Writing a command line

Every command can be asked for.  Its words are written with its settings in any order behind them
and, after a lone `--`, with its values, which may look like anything.  `--quiet` or `--verbose` may
stand before the words, between them, or among the settings: `read_written`.

Reading goes through such a command line from the left.  A setting adds itself to the reading
(`readArgument_spelling`), words that lead to a command start its reading afresh (`readFrom_words`),
and values are what waits in the end (`readFrom_values`).
-/

namespace CardKeeper
namespace Command

/-- Something that one argument sets. -/
inductive Setting where
  /-- A switch without a value. -/
  | flag (switch : Switch)
  /-- The output. -/
  | output (path : String)
  deriving DecidableEq

namespace Setting

/-- The switch that a setting is written with. -/
def switch : Setting → Switch
  | .flag switch => switch
  | .output _ => .output

/-- The arguments that a setting may be written as. -/
def spellings : Setting → List String
  | .flag switch =>
      ("--" ++ switch.long) ::
        (switch.letter?.map fun letter => String.ofList ['-', letter]).toList
  | .output path => ["--output=" ++ path, "-o=" ++ path]

/-- A setting can be set: its switch has a value exactly if it is an output, and does not ask for
help. -/
def IsProper : Setting → Prop
  | .flag switch => switch.takesValue = false ∧ switch ≠ .help
  | .output path => path ≠ ""

/-- A setting may be written after a word. -/
structure Fits (scope : Scope) (setting : Setting) : Prop where
  /-- The word knows its switch. -/
  known : setting.switch ∈ scope.switches
  /-- It can be set. -/
  proper : setting.IsProper

/-- A list with a switch in it if that is asked for. -/
def asked (wanted : Bool) (switch : Switch) : List Setting :=
  if wanted then [.flag switch] else []

/-- A list with the output in it if there is one. -/
def aimed (output : Option Path) : List Setting :=
  (output.map fun path => .output path.display).toList

end Setting

/-- Arguments are settings in some order. -/
def Written (settings : List Setting) (arguments : List String) : Prop :=
  ∃ order, order.Perm settings ∧
    List.Forall₂ (fun setting argument => argument ∈ setting.spellings) order arguments

/-- Values are written after a lone `--`, which may be left out if there are none. -/
def Ends (values ending : List String) : Prop :=
  ending = "--" :: values ∨ values = [] ∧ ending = []

/-- Words lead from one to another. -/
inductive Leads : Scope → List String → Scope → Prop where
  /-- No words stay where they are. -/
  | stay (scope : Scope) : Leads scope [] scope
  /-- A word leads to what it names. -/
  | step {scope inner target : Scope} {word : String} {words : List String}
      (named : scope.member? word = some inner) (further : Leads inner words target) :
      Leads scope (word :: words) target

/-- The last word of a command. -/
def scope : Command → Scope
  | .missingImgs _ => .missingImgs
  | .m3u _ _ => .m3u
  | .thumbnail _ _ _ _ => .thumbnail
  | .configShow => .configShow
  | .configPath => .configPath

/-- The words of a command. -/
def words : Command → List String
  | .missingImgs _ => ["missing-imgs"]
  | .m3u _ _ => ["m3u"]
  | .thumbnail _ _ _ _ => ["thumbnail"]
  | .configShow => ["config", "show"]
  | .configPath => ["config", "path"]

/-- The settings of a command. -/
def settings : Command → List Setting
  | .m3u _ dryRun => Setting.asked dryRun .dryRun
  | .thumbnail output fast pico8 _ =>
      Setting.aimed output ++ Setting.asked fast .fast ++ Setting.asked pico8 .pico8
  | _ => []

/-- The paths that are the values of a command. -/
def targets : Command → List Path
  | .missingImgs folder | .m3u folder _ => folder.toList
  | .thumbnail _ _ _ sources => sources
  | .configShow | .configPath => []

/-- The output of a command, if it has one. -/
def output? : Command → Option Path
  | .thumbnail output _ _ _ => output
  | _ => none

/-- The values of a command. -/
def values (command : Command) : List String :=
  command.targets.map Path.display

end Command

/-- A path can be written: it is a text that is not empty. -/
def Path.IsWritable (path : Path) : Prop :=
  ∃ text, text ≠ "" ∧ path = .ofText text

/-- The flags about what is told. -/
def Command.tellings (quiet verbose : Bool) : List Command.Setting :=
  Command.Setting.asked quiet .quiet ++ Command.Setting.asked verbose .verbose

namespace Invocation

/-- The flags of an invocation. -/
def flags (invocation : Invocation) : List Command.Setting :=
  Command.tellings invocation.quiet invocation.verbose

/-- An invocation can be written. -/
structure IsExpressible (invocation : Invocation) : Prop where
  /-- Its flags do not exclude each other. -/
  consistent : ¬ (invocation.quiet = true ∧ invocation.verbose = true)
  /-- Its command has what it needs. -/
  complete : invocation.command.IsComplete
  /-- Its values can be written. -/
  targets : ∀ path ∈ invocation.command.targets, path.IsWritable
  /-- Its output can be written. -/
  output : ∀ path ∈ invocation.command.output?, path.IsWritable

end Invocation

namespace Command

variable {scope inner target : Scope} {reading : Reading} {setting : Setting} {argument : String}
  {command : Command} {invocation : Invocation} {order settings : List Setting}
  {words arguments rest taken values ending : List String}

theorem display_ofText (text : String) : (Path.ofText text).display = text :=
  Utf8.display_encode text

theorem ofText_display {path : Path} (writable : path.IsWritable) :
    Path.ofText path.display = path := by
  obtain ⟨text, -, rfl⟩ := writable
  rw [display_ofText]

theorem display_ne_empty {path : Path} (writable : path.IsWritable) : path.display ≠ "" := by
  obtain ⟨text, proper, rfl⟩ := writable
  rwa [display_ofText]

/-! ## Settings -/

/-- A reading with one more setting. -/
def Reading.taking (reading : Reading) : Setting → Reading
  | .flag switch => { reading with seen := reading.seen ++ [switch] }
  | .output path => { reading with seen := reading.seen ++ [.output], output := some path }

@[simp] theorem Reading.waiting_taking (reading : Reading) (setting : Setting) :
    (reading.taking setting).waiting = reading.waiting := by
  cases setting <;> rfl

@[simp] theorem Reading.values_taking (reading : Reading) (setting : Setting) :
    (reading.taking setting).values = reading.values := by
  cases setting <;> rfl

@[simp] theorem Reading.seen_taking (reading : Reading) (setting : Setting) :
    (reading.taking setting).seen = reading.seen ++ [setting.switch] := by
  cases setting <;> rfl

theorem settle_of_idle (idle : reading.waiting = .nothing) :
    reading.settle scope = .ok reading := by
  obtain ⟨seen, output, values, waiting⟩ := reading
  cases idle
  rfl

theorem takeFlag_of_idle {switch : Switch} (idle : reading.waiting = .nothing)
    (fresh : switch ∉ reading.seen) (noHelp : switch ≠ .help) :
    reading.takeFlag scope switch = .ok (reading.taking (.flag switch)) := by
  rw [Reading.takeFlag, settle_of_idle idle, Except.bind, if_neg noHelp,
    if_neg (by simpa using fresh)]
  rfl

theorem takeOption_of_idle {path : String} (idle : reading.waiting = .nothing)
    (fresh : .output ∉ reading.seen) (proper : path ≠ "") :
    reading.takeOption scope (some path) = .ok (reading.taking (.output path)) := by
  rw [Reading.takeOption, settle_of_idle idle, Except.bind]
  dsimp only
  rw [Reading.takeOutput, if_neg (by simpa using fresh), if_neg (by simpa using proper)]
  rfl

/-- No two switches have the same long name. -/
theorem find?_long {switch : Switch} (known : switch ∈ scope.switches) :
    (scope.switches.find? fun other => other.long == switch.long) = some switch := by
  cases scope <;> cases switch <;> first | rfl | exact absurd known (by decide)

/-- No two switches have the same letter. -/
theorem find?_letter {switch : Switch} {letter : Char} (known : switch ∈ scope.switches)
    (short : switch.letter? = some letter) :
    (scope.switches.find? fun other => other.letter? == some letter) = some switch := by
  rw [← short]
  cases scope <;> cases switch <;> first | rfl | exact absurd known (by decide) | cases short

theorem readLong_flag {switch : Switch} (known : switch ∈ scope.switches)
    (flag : switch.takesValue = false) :
    reading.readLong scope switch.long.toList = reading.takeFlag scope switch := by
  have plain : switch.long.toList.takeWhile (· != '=') = switch.long.toList ∧
      switch.long.toList.dropWhile (· != '=') = [] := by
    cases switch <;> decide
  simp only [Reading.readLong, plain, String.ofList_toList, find?_long known, flag,
    Bool.false_eq_true, if_false]

theorem readLong_output {path : String} (known : .output ∈ scope.switches) :
    reading.readLong scope ("output=" ++ path).toList =
      reading.takeOption scope (some path) := by
  have name : ("output=" ++ path).toList = Switch.output.long.toList ++ '=' :: path.toList := by
    rw [String.toList_append]
    rfl
  have before : ∀ letter ∈ Switch.output.long.toList, (letter != '=') = true := by
    simp [Switch.long]
  have cut : ((Switch.output.long.toList ++ '=' :: path.toList).takeWhile (· != '=')) =
      Switch.output.long.toList := by
    rw [List.takeWhile_append_of_pos before]
    simp
  have left : ((Switch.output.long.toList ++ '=' :: path.toList).dropWhile (· != '=')) =
      '=' :: path.toList := by
    rw [List.dropWhile_append_of_pos before]
    simp
  rw [name]
  simp only [Reading.readLong, cut, left, String.ofList_toList, find?_long known]
  rfl

theorem readLetters_flag {switch : Switch} {letter : Char} (known : switch ∈ scope.switches)
    (short : switch.letter? = some letter) (flag : switch.takesValue = false) :
    reading.readLetters scope [letter] = reading.takeFlag scope switch := by
  simp only [Reading.readLetters, find?_letter known short, flag, Bool.false_eq_true, if_false]
  cases reading.takeFlag scope switch <;> rfl

theorem readLetters_output {path : List Char} (known : .output ∈ scope.switches) :
    reading.readLetters scope ('o' :: '=' :: path) =
      reading.takeOption scope (some (String.ofList path)) := by
  simp only [Reading.readLetters, find?_letter known (rfl : Switch.output.letter? = some 'o')]
  rfl

theorem toList_longOutput (path : String) :
    ("--output=" ++ path).toList = '-' :: '-' :: ("output=" ++ path).toList := by
  rw [String.toList_append, String.toList_append]
  rfl

theorem toList_shortOutput (path : String) :
    ("-o=" ++ path).toList = '-' :: 'o' :: '=' :: path.toList := by
  rw [String.toList_append]
  rfl

theorem forms_of_output {path : String}
    (spelled : argument ∈ (Setting.output path).spellings) :
    argument = "--output=" ++ path ∨ argument = "-o=" ++ path := by
  simpa [Setting.spellings] using spelled

/-- An argument that a setting may be written as adds the setting to what has been read. -/
theorem readArgument_spelling (idle : reading.waiting = .nothing) (fits : setting.Fits scope)
    (fresh : setting.switch ∉ reading.seen) (spelled : argument ∈ setting.spellings) :
    reading.readArgument scope argument = .ok (reading.taking setting) := by
  cases setting with
  | flag switch =>
      obtain ⟨known, flag, noHelp⟩ := fits
      change switch ∈ scope.switches at known
      have takes : reading.takeFlag scope switch = .ok (reading.taking (.flag switch)) :=
        takeFlag_of_idle idle fresh noHelp
      rcases List.mem_cons.mp spelled with rfl | lettered
      · have dashes : ("--" ++ switch.long).toList = '-' :: '-' :: switch.long.toList := by
          rw [String.toList_append]
          rfl
        rw [readArgument_long dashes, readLong_flag known flag, takes]
      · obtain ⟨letter, short, rfl⟩ := Option.map_eq_some_iff.mp (Option.mem_toList.mp lettered)
        have single : letter ≠ '-' := by
          rintro rfl
          cases switch <;> exact absurd short (by decide)
        rw [readArgument_letters (String.toList_ofList) single, readLetters_flag known short flag,
          takes]
  | output path =>
      obtain ⟨known, proper⟩ := fits
      have takes : reading.takeOption scope (some path) = .ok (reading.taking (.output path)) :=
        takeOption_of_idle idle fresh proper
      rcases forms_of_output spelled with rfl | rfl
      · rw [readArgument_long (toList_longOutput path), readLong_output known, takes]
      · rw [readArgument_letters (toList_shortOutput path) (by decide), readLetters_output known,
          String.ofList_toList, takes]

/-- No word of a command line starts with a dash. -/
theorem member?_of_dash (dash : argument.toList.head? = some '-') :
    scope.member? argument = none := by
  have words : ∀ entry ∈ scope.members, entry.1.toList.head? ≠ some '-' := by
    cases scope <;> decide
  rw [Scope.member?, Option.map_eq_none_iff, List.find?_eq_none]
  intro entry member same
  rw [beq_iff_eq] at same
  exact words entry member (same ▸ dash)

theorem head?_spelling (spelled : argument ∈ setting.spellings) :
    argument.toList.head? = some '-' ∧ argument ≠ "--" := by
  cases setting with
  | flag switch =>
      have all : ∀ form ∈ (Setting.flag switch).spellings,
          form.toList.head? = some '-' ∧ form ≠ "--" := by
        cases switch <;> decide
      exact all argument spelled
  | output path =>
      rcases forms_of_output spelled with rfl | rfl
      · rw [ne_eq, ← String.toList_inj, toList_longOutput, String.toList_append]
        exact ⟨rfl, nofun⟩
      · rw [ne_eq, ← String.toList_inj, toList_shortOutput]
        exact ⟨rfl, nofun⟩

theorem readFrom_dash (dash : argument.toList.head? = some '-') (single : argument ≠ "--") :
    readFrom scope reading false (argument :: rest) =
      (reading.readArgument scope argument).bind fun reading =>
        readFrom scope reading false rest := by
  have noHelp : argument ≠ "help" := by
    rintro rfl
    exact absurd dash (by decide)
  rw [readFrom, if_neg Bool.false_ne_true, member?_of_dash dash]
  simp only [beq_eq_false_iff_ne.mpr noHelp, beq_eq_false_iff_ne.mpr single, Bool.and_false,
    Bool.false_eq_true, if_false]

/-- Settings are added to what has been read, one after the other. -/
theorem readFrom_settings
    (spelled : List.Forall₂ (fun setting argument => argument ∈ setting.spellings) order arguments)
    (fits : ∀ setting ∈ order, setting.Fits scope)
    (fresh : (reading.seen ++ order.map Setting.switch).Nodup) (idle : reading.waiting = .nothing) :
    readFrom scope reading false (arguments ++ rest) =
      readFrom scope (order.foldl Reading.taking reading) false rest := by
  induction spelled generalizing reading with
  | nil => rfl
  | @cons setting argument order arguments here _ ih =>
      obtain ⟨fit, fits⟩ := List.forall_mem_cons.mp fits
      obtain ⟨dash, single⟩ := head?_spelling here
      rw [List.map_cons, List.append_cons] at fresh
      have new : setting.switch ∉ reading.seen := by
        intro seen
        have apart := (List.nodup_append.mp (List.nodup_append.mp fresh).1).2.2
        exact apart _ seen _ List.mem_cons_self rfl
      rw [List.cons_append, readFrom_dash dash single, readArgument_spelling idle fit new here,
        List.foldl_cons]
      apply ih fits
      · rwa [Reading.seen_taking]
      · rwa [Reading.waiting_taking]

theorem seen_foldl_taking (order : List Setting) (reading : Reading) :
    (order.foldl Reading.taking reading).seen = reading.seen ++ order.map Setting.switch := by
  induction order generalizing reading with
  | nil => simp
  | cons setting order ih => simp [ih]

theorem waiting_foldl_taking (order : List Setting) (reading : Reading) :
    (order.foldl Reading.taking reading).waiting = reading.waiting := by
  induction order generalizing reading with
  | nil => rfl
  | cons setting order ih => simp [ih]

theorem values_foldl_taking (order : List Setting) (reading : Reading) :
    (order.foldl Reading.taking reading).values = reading.values := by
  induction order generalizing reading with
  | nil => rfl
  | cons setting order ih => simp [ih]

/-- Settings other than the output leave it alone. -/
theorem output_foldl_taking_of_not_mem (without : .output ∉ order.map Setting.switch) :
    (order.foldl Reading.taking reading).output = reading.output := by
  induction order generalizing reading with
  | nil => rfl
  | cons setting order ih =>
      rw [List.map_cons, List.mem_cons, not_or] at without
      rw [List.foldl_cons, ih without.2]
      cases setting with
      | flag switch => rfl
      | output path => exact absurd rfl without.1

/-- An output among settings is the one that is taken. -/
theorem output_foldl_taking_of_mem {path : String} (single : (order.map Setting.switch).Nodup)
    (member : .output path ∈ order) :
    (order.foldl Reading.taking reading).output = some path := by
  induction order generalizing reading with
  | nil => cases member
  | cons setting order ih =>
      rw [List.map_cons, List.nodup_cons] at single
      rcases List.mem_cons.mp member with rfl | later
      · exact output_foldl_taking_of_not_mem single.1
      · exact ih single.2 later

/-! ## Values -/

/-- In the end it does not matter what still waits. -/
theorem readFrom_nil_congr {other : Reading} {trailing : Bool}
    (same : reading.settle scope = other.settle scope) :
    readFrom scope reading trailing [] = readFrom scope other true [] := by
  rw [readFrom, readFrom, Reading.check, Reading.check, same]

theorem settle_of_waiting (empty : reading.values = []) (idle : reading.waiting = .nothing)
    (proper : ∀ value ∈ taken, value ≠ "") :
    Reading.settle scope { reading with waiting := .values taken } =
      .ok { reading with values := taken } := by
  have whole : ¬ taken.any String.isEmpty = true := by
    simpa using fun missing => proper "" missing rfl
  simp only [Reading.settle, if_neg whole, empty, idle, List.nil_append]

theorem readFrom_trailing_cons :
    readFrom scope reading true (argument :: rest) =
      (reading.readValue scope true argument).bind fun reading =>
        readFrom scope reading true rest := by
  rw [readFrom, if_pos rfl]

/-- Values wait together until the end. -/
theorem readFrom_waiting (empty : reading.values = []) (idle : reading.waiting = .nothing)
    (room : ∀ count < taken.length + values.length, scope.takesValueAfter count = true)
    (proper : ∀ value ∈ taken ++ values, value ≠ "") :
    readFrom scope { reading with waiting := .values taken } true values =
      readFrom scope { reading with values := taken ++ values } true [] := by
  induction values generalizing taken with
  | nil =>
      rw [List.append_nil] at proper ⊢
      have settles : Reading.settle scope { reading with waiting := .values taken } =
          Reading.settle scope { reading with values := taken } :=
        (settle_of_waiting empty idle proper).trans (Eq.symm (settle_of_idle idle))
      exact readFrom_nil_congr settles
  | cons value values ih =>
      have fits : scope.takesValueAfter taken.length = true := room _ (by simp)
      have reads : Reading.readValue scope { reading with waiting := .values taken } true value =
          .ok { reading with waiting := .values (taken ++ [value]) } := by
        simp only [Reading.readValue, Reading.valueCount, empty, List.length_nil, Nat.zero_add,
          fits, if_true]
      rw [List.append_cons] at proper ⊢
      rw [readFrom_trailing_cons, reads, Except.bind]
      apply ih _ proper
      intro count few
      apply room
      rw [List.length_append, List.length_singleton] at few
      rw [List.length_cons]
      omega

/-- Values that there is room for are taken as they are. -/
theorem readFrom_values (empty : reading.values = []) (idle : reading.waiting = .nothing)
    (room : ∀ count < values.length, scope.takesValueAfter count = true)
    (proper : ∀ value ∈ values, value ≠ "") :
    readFrom scope reading true values =
      readFrom scope { reading with values } true [] := by
  cases values with
  | nil => rw [← empty]
  | cons value values =>
      have reads : reading.readValue scope true value =
          .ok { reading with waiting := .values [value] } := by
        have fits : scope.takesValueAfter 0 = true := room 0 (by simp)
        rw [Reading.readValue, if_pos (by simpa [Reading.valueCount, empty, idle] using fits), idle]
        simp only [settle_of_idle idle, Except.map]
      rw [readFrom_trailing_cons, reads, Except.bind]
      apply readFrom_waiting empty idle _ proper
      intro count few
      apply room
      rw [List.length_cons]
      rw [List.length_singleton] at few
      omega

theorem readFrom_dashes : readFrom scope reading false ("--" :: rest) =
    readFrom scope reading true rest := by
  have unnamed : scope.member? "--" = none := member?_of_dash (by decide)
  rw [readFrom, if_neg Bool.false_ne_true, unnamed]
  simp

/-- The end of a command line leaves its values. -/
theorem readFrom_ends (ends : Ends values ending) (empty : reading.values = [])
    (idle : reading.waiting = .nothing)
    (room : ∀ count < values.length, scope.takesValueAfter count = true)
    (proper : ∀ value ∈ values, value ≠ "") :
    readFrom scope reading false ending = readFrom scope { reading with values } true [] := by
  rcases ends with rfl | ⟨rfl, rfl⟩
  · rw [readFrom_dashes, readFrom_values empty idle room proper]
  · have same : { reading with values := [] } = reading := by rw [← empty]
    rw [same]
    exact readFrom_nil_congr rfl

/-! ## Words -/

theorem group_of_member? {word : String} (named : scope.member? word = some inner) :
    scope.isGroup = true ∧ scope ≠ .thumbnail := by
  cases scope with
  | program | config => exact ⟨rfl, nofun⟩
  | missingImgs | m3u | thumbnail | configShow | configPath => cases named

/-- A word is read with what follows it, and the flags before it are added. -/
theorem readFrom_word {word : String} (named : scope.member? word = some inner)
    (idle : reading.waiting = .nothing)
    (single : (reading.seen.filter fun switch => switch = .quiet || switch = .verbose).length ≤ 1) :
    readFrom scope reading false (word :: rest) =
      (readFrom inner .start false rest).map fun invocation =>
        { invocation with
          quiet := reading.seen.contains .quiet || invocation.quiet
          verbose := reading.seen.contains .verbose || invocation.verbose } := by
  have passes : reading.check scope true = .ok reading :=
    check_eq_ok_iff.mpr ⟨settle_of_idle idle, .inl rfl, single,
      fun thumbnail => absurd thumbnail (group_of_member? named).2⟩
  rw [readFrom, if_neg Bool.false_ne_true, named]
  simp only [passes]
  rfl

theorem readFrom_words (leads : Leads scope words target) :
    readFrom scope .start false (words ++ rest) = readFrom target .start false rest := by
  induction leads with
  | stay => rfl
  | step named _ ih =>
      rw [List.cons_append, readFrom_word named rfl (by simp [Reading.start]), ih]
      cases readFrom _ Reading.start false rest <;> rfl

theorem Leads.split {front back : List String} (leads : Leads scope (front ++ back) target) :
    ∃ middle, Leads scope front middle ∧ Leads middle back target := by
  induction front generalizing scope with
  | nil => exact ⟨scope, .stay scope, leads⟩
  | cons word front ih =>
      cases leads with
      | step named further =>
          obtain ⟨middle, first, second⟩ := ih further
          exact ⟨middle, .step named first, second⟩

theorem leads_words (command : Command) : Leads .program command.words command.scope := by
  cases command with
  | missingImgs | m3u | thumbnail => exact .step rfl (.stay _)
  | configShow | configPath => exact .step rfl (.step rfl (.stay _))

/-! ## Settings in any order -/

/-- A reading is made of settings and nothing else. -/
structure Reading.IsMadeOf (settings : List Setting) (reading : Reading) : Prop where
  /-- Nothing waits. -/
  idle : reading.waiting = .nothing
  /-- There are no values. -/
  empty : reading.values = []
  /-- The switches of the settings have been seen. -/
  seen : reading.seen.Perm (settings.map Setting.switch)
  /-- An output among the settings is known. -/
  output : ∀ path, .output path ∈ settings → reading.output = some path
  /-- No other output is known. -/
  noOutput : .output ∉ settings.map Setting.switch → reading.output = none

theorem exists_isMadeOf (written : Written settings arguments)
    (fits : ∀ setting ∈ settings, setting.Fits scope)
    (distinct : (settings.map Setting.switch).Nodup) :
    ∃ reading : Reading, reading.IsMadeOf settings ∧
      ∀ rest, readFrom scope .start false (arguments ++ rest) =
        readFrom scope reading false rest := by
  obtain ⟨order, perm, spelled⟩ := written
  have switches : (order.map Setting.switch).Perm (settings.map Setting.switch) := perm.map _
  have single : (order.map Setting.switch).Nodup := switches.nodup_iff.mpr distinct
  refine ⟨order.foldl Reading.taking .start, ?_, fun rest => ?_⟩
  · constructor
    case idle => exact waiting_foldl_taking order .start
    case empty => exact values_foldl_taking order .start
    case seen =>
      rw [seen_foldl_taking]
      exact switches
    case output =>
      intro path member
      exact output_foldl_taking_of_mem single (perm.mem_iff.mpr member)
    case noOutput =>
      intro without
      exact output_foldl_taking_of_not_mem fun member => without (switches.mem_iff.mp member)
  · exact readFrom_settings spelled (fun setting member => fits setting (perm.mem_iff.mp member))
      single rfl

/-- Among distinct switches that do not hold both flags there is at most one of them. -/
theorem length_filter_le_one {seen : List Switch} (distinct : seen.Nodup)
    (apart : ¬ (.quiet ∈ seen ∧ .verbose ∈ seen)) :
    (seen.filter fun switch => switch = .quiet || switch = .verbose).length ≤ 1 := by
  have bound (flag : Switch)
      (only : ∀ switch ∈ seen, switch = .quiet ∨ switch = .verbose → switch = flag) :
      (seen.filter fun switch => switch = .quiet || switch = .verbose).length ≤ [flag].length := by
    refine (List.subperm_of_subset (distinct.filter _) fun switch member => ?_).length_le
    rw [List.mem_filter, Bool.or_eq_true, decide_eq_true_eq, decide_eq_true_eq] at member
    exact List.mem_singleton.mpr (only switch member.1 member.2)
  by_cases quiet : .quiet ∈ seen
  · refine bound .quiet fun switch listed flag => flag.resolve_right ?_
    rintro rfl
    exact apart ⟨quiet, listed⟩
  · refine bound .verbose fun switch listed flag => flag.resolve_left ?_
    rintro rfl
    exact quiet listed

theorem Written.insert {front back flags : List String} {added : List Setting}
    (written : Written settings (front ++ back)) (more : Written added flags) :
    Written (settings ++ added) (front ++ flags ++ back) := by
  obtain ⟨order, perm, spelled⟩ := written
  obtain ⟨others, same, forms⟩ := more
  refine ⟨order.take front.length ++ others ++ order.drop front.length, ?_, ?_⟩
  · calc
      (order.take front.length ++ others ++ order.drop front.length).Perm
          (order.take front.length ++ order.drop front.length ++ others) := by
        rw [List.append_assoc, List.append_assoc]
        exact List.perm_append_comm.append_left _
      _ = order ++ others := by rw [List.take_append_drop]
      List.Perm _ (settings ++ added) := perm.append same
  · exact List.rel_append (List.rel_append (List.forall₂_take_append _ _ _ spelled) forms)
      (List.forall₂_drop_append _ _ _ spelled)

/-! ## What an invocation is written with -/

theorem sublist_asked (wanted : Bool) (switch : Switch) :
    ((Setting.asked wanted switch).map Setting.switch).Sublist [switch] := by
  cases wanted with
  | false => exact List.nil_sublist _
  | true => exact List.Sublist.refl _

theorem sublist_aimed (output : Option Path) :
    ((Setting.aimed output).map Setting.switch).Sublist [.output] := by
  cases output with
  | none => exact List.nil_sublist _
  | some path => exact List.Sublist.refl _

theorem sublist_tellings (quiet verbose : Bool) :
    ((tellings quiet verbose).map Setting.switch).Sublist [.quiet, .verbose, .help] := by
  rw [tellings, List.map_append]
  exact ((sublist_asked _ _).append (sublist_asked _ _)).trans
    (List.sublist_append_left [_, _] [Switch.help])

/-- The last word of a command knows the switches of an invocation, and each is written once. -/
theorem sublist_switches (invocation : Invocation) :
    ((invocation.command.settings ++ invocation.flags).map Setting.switch).Sublist
      invocation.command.scope.switches := by
  have flags := sublist_tellings invocation.quiet invocation.verbose
  rw [List.map_append]
  cases invocation.command with
  | m3u folder dryRun => exact (sublist_asked dryRun .dryRun).append flags
  | thumbnail output fast pico8 sources =>
      rw [settings, List.map_append, List.map_append]
      exact (((sublist_aimed output).append (sublist_asked fast .fast)).append
        (sublist_asked pico8 .pico8)).append flags
  | missingImgs | configShow | configPath => exact flags

theorem isProper_of_mem_asked {wanted : Bool} {switch : Switch}
    (flag : switch.takesValue = false ∧ switch ≠ .help)
    (member : setting ∈ Setting.asked wanted switch) : setting.IsProper := by
  unfold Setting.asked at member
  split at member
  · rw [List.mem_singleton.mp member]
    exact flag
  · cases member

theorem isProper_of_mem_tellings {quiet verbose : Bool}
    (member : setting ∈ tellings quiet verbose) : setting.IsProper := by
  rcases List.mem_append.mp member with flag | flag
  · exact isProper_of_mem_asked (by decide) flag
  · exact isProper_of_mem_asked (by decide) flag

theorem isProper_of_mem (expressible : invocation.IsExpressible)
    (member : setting ∈ invocation.command.settings ++ invocation.flags) : setting.IsProper := by
  rcases List.mem_append.mp member with own | flag
  · match shape : invocation.command with
    | .m3u folder dryRun =>
        rw [shape] at own
        exact isProper_of_mem_asked (by decide) own
    | .thumbnail output fast pico8 sources =>
        rw [shape] at own
        rcases List.mem_append.mp own with own | own
        · rcases List.mem_append.mp own with own | own
          · obtain ⟨path, given, rfl⟩ := Option.map_eq_some_iff.mp (Option.mem_toList.mp own)
            exact display_ne_empty (expressible.output path (by rw [shape]; exact given))
          · exact isProper_of_mem_asked (by decide) own
        · exact isProper_of_mem_asked (by decide) own
    | .missingImgs _ | .configShow | .configPath =>
        rw [shape] at own
        cases own
  · exact isProper_of_mem_tellings flag

theorem fits_of_mem (expressible : invocation.IsExpressible) :
    ∀ setting ∈ invocation.command.settings ++ invocation.flags,
      setting.Fits invocation.command.scope := fun _ member =>
  ⟨(sublist_switches invocation).subset (List.mem_map_of_mem member),
    isProper_of_mem expressible member⟩

theorem nodup_switches (invocation : Invocation) :
    ((invocation.command.settings ++ invocation.flags).map Setting.switch).Nodup := by
  have all (scope : Scope) : scope.switches.Nodup := by
    cases scope <;> decide
  exact (sublist_switches invocation).nodup (all _)

theorem map_ofText_values (writable : ∀ path ∈ command.targets, path.IsWritable) :
    command.values.map Path.ofText = command.targets := by
  rw [values, List.map_map]
  calc
    command.targets.map (Path.ofText ∘ Path.display) = command.targets.map id :=
      List.map_congr_left fun path member => ofText_display (writable path member)
    _ = command.targets := List.map_id _

/-- There is room for the values of a command. -/
theorem room_of_values (command : Command) :
    ∀ count < command.values.length, command.scope.takesValueAfter count = true := by
  intro count few
  rw [values, List.length_map] at few
  cases command with
  | missingImgs folder | m3u folder =>
      have single : folder.toList.length ≤ 1 := by cases folder <;> simp
      change count < folder.toList.length at few
      exact decide_eq_true (by omega)
  | thumbnail => rfl
  | configShow | configPath => exact absurd few (Nat.not_lt_zero count)

@[simp] theorem mem_map_aimed {output : Option Path} {switch : Switch} :
    switch ∈ (Setting.aimed output).map Setting.switch ↔
      output.isSome = true ∧ switch = .output := by
  cases output <;> simp [Setting.aimed, Setting.switch]

@[simp] theorem mem_map_asked {wanted : Bool} {switch other : Switch} :
    other ∈ (Setting.asked wanted switch).map Setting.switch ↔ wanted = true ∧ other = switch := by
  cases wanted <;> simp [Setting.asked, Setting.switch]

theorem mem_switches_quiet (invocation : Invocation) :
    .quiet ∈ (invocation.command.settings ++ invocation.flags).map Setting.switch ↔
      invocation.quiet = true := by
  cases invocation.command <;> simp [settings, Invocation.flags, tellings]

theorem mem_switches_verbose (invocation : Invocation) :
    .verbose ∈ (invocation.command.settings ++ invocation.flags).map Setting.switch ↔
      invocation.verbose = true := by
  cases invocation.command <;> simp [settings, Invocation.flags, tellings]

theorem Reading.IsMadeOf.contains (made : reading.IsMadeOf settings) {switch : Switch}
    {wanted : Bool} (correct : switch ∈ settings.map Setting.switch ↔ wanted = true) :
    reading.seen.contains switch = wanted := by
  rw [Bool.eq_iff_iff, List.contains_iff_mem, made.seen.mem_iff, correct]

theorem Reading.IsMadeOf.single (made : reading.IsMadeOf settings)
    (distinct : (settings.map Setting.switch).Nodup)
    (apart : ¬ (.quiet ∈ settings.map Setting.switch ∧ .verbose ∈ settings.map Setting.switch)) :
    (reading.seen.filter fun switch => switch = .quiet || switch = .verbose).length ≤ 1 := by
  apply length_filter_le_one (made.seen.nodup_iff.mpr distinct)
  rwa [made.seen.mem_iff, made.seen.mem_iff]

/-! ## Whole command lines -/

/-- The settings and values of a command make up the command. -/
theorem command?_of_isMadeOf (expressible : invocation.IsExpressible)
    (made : reading.IsMadeOf (invocation.command.settings ++ invocation.flags)) :
    Reading.command? invocation.command.scope
        { reading with values := invocation.command.values } = some invocation.command := by
  have given := map_ofText_values expressible.targets
  obtain ⟨quiet, verbose, command⟩ := invocation
  cases command with
  | missingImgs folder =>
      simp only [scope, Reading.command?, ← List.head?_map, given, targets, Option.head?_toList]
  | m3u folder dryRun =>
      have dry : reading.seen.contains .dryRun = dryRun :=
        made.contains (by simp [Command.settings, Invocation.flags, tellings])
      simp only [scope, Reading.command?, ← List.head?_map, given, targets, Option.head?_toList,
        dry]
  | thumbnail output fast pico8 sources =>
      have quick : reading.seen.contains .fast = fast :=
        made.contains (by simp [Command.settings, Invocation.flags, tellings])
      have cropped : reading.seen.contains .pico8 = pico8 :=
        made.contains (by simp [Command.settings, Invocation.flags, tellings])
      have goal : reading.output.map Path.ofText = output := by
        cases output with
        | none =>
            rw [made.noOutput (by simp [Command.settings, Invocation.flags, tellings])]
            rfl
        | some path =>
            rw [made.output path.display (by simp [Command.settings, Setting.aimed]), Option.map_some,
              ofText_display (expressible.output path rfl)]
      simp only [scope, Reading.command?, given, targets, quick, cropped, goal]
  | configShow => rfl
  | configPath => rfl

/-- After the words of a command, everything else may stand in any order before the end. -/
theorem readFrom_command (expressible : invocation.IsExpressible)
    (written : Written (invocation.command.settings ++ invocation.flags) arguments)
    (ends : Ends invocation.command.values ending) :
    readFrom invocation.command.scope .start false (arguments ++ ending) = .ok invocation := by
  obtain ⟨reading, made, reads⟩ :=
    exists_isMadeOf written (fits_of_mem expressible) (nodup_switches invocation)
  have proper : ∀ value ∈ invocation.command.values, value ≠ "" := by
    intro value member
    obtain ⟨path, target, rfl⟩ := List.mem_map.mp member
    exact display_ne_empty (expressible.targets path target)
  have single := made.single (nodup_switches invocation) fun both =>
    expressible.consistent (both.imp (mem_switches_quiet _).mp (mem_switches_verbose _).mp)
  have lone : invocation.command.scope.isGroup = false := by
    cases invocation.command <;> rfl
  have sources : invocation.command.scope = .thumbnail → invocation.command.values ≠ [] := by
    intro thumbnail
    have complete := expressible.complete
    match shape : invocation.command with
    | .thumbnail _ _ _ _ => simpa [shape, IsComplete, values, targets] using complete
    | .missingImgs _ | .m3u _ _ | .configShow | .configPath =>
        rw [shape] at thumbnail
        cases thumbnail
  have passes : Reading.check invocation.command.scope
      { reading with values := invocation.command.values } false =
        .ok { reading with values := invocation.command.values } :=
    check_eq_ok_iff.mpr ⟨settle_of_idle made.idle, .inr lone, single, sources⟩
  rw [reads, readFrom_ends ends made.empty made.idle (room_of_values _) proper, readFrom, passes]
  simp only [Except.bind, command?_of_isMadeOf expressible made,
    made.contains (mem_switches_quiet invocation), made.contains (mem_switches_verbose invocation)]

/-- Flags before a word are added to those of what follows it. -/
theorem readFrom_tellings {word : String} {flags : List String} {quiet verbose : Bool}
    (apart : ¬ (quiet = true ∧ verbose = true)) (written : Written (tellings quiet verbose) flags)
    (named : scope.member? word = some inner)
    (within : readFrom inner .start false rest = .ok invocation) :
    readFrom scope .start false (flags ++ word :: rest) =
      .ok ⟨quiet || invocation.quiet, verbose || invocation.verbose, invocation.command⟩ := by
  have known : [Switch.quiet, .verbose, .help] ⊆ scope.switches := by
    cases scope <;> decide
  have listed := sublist_tellings quiet verbose
  have distinct : ((tellings quiet verbose).map Setting.switch).Nodup := listed.nodup (by decide)
  have fits : ∀ setting ∈ tellings quiet verbose, setting.Fits scope := fun setting member =>
    ⟨known (listed.subset (List.mem_map_of_mem member)), isProper_of_mem_tellings member⟩
  obtain ⟨reading, made, reads⟩ := exists_isMadeOf written fits distinct
  have saysQuiet : .quiet ∈ (tellings quiet verbose).map Setting.switch ↔ quiet = true := by
    simp [tellings]
  have saysVerbose : .verbose ∈ (tellings quiet verbose).map Setting.switch ↔ verbose = true := by
    simp [tellings]
  have single := made.single distinct fun both =>
    apart (both.imp saysQuiet.mp saysVerbose.mp)
  rw [reads, readFrom_word named made.idle single, within]
  simp only [Except.map, made.contains saysQuiet, made.contains saysVerbose]

/-- From any word on that leads to its command, an invocation can be written. -/
theorem readFrom_written {front back options flags : List String}
    (expressible : invocation.IsExpressible)
    (leads : Leads scope words invocation.command.scope) (placed : front ++ back = words ++ options)
    (optionsWritten : Written invocation.command.settings options)
    (flagsWritten : Written invocation.flags flags)
    (ends : Ends invocation.command.values ending) :
    readFrom scope .start false (front ++ flags ++ back ++ ending) = .ok invocation := by
  have inside (before after : List String) (together : options = before ++ after) :
      readFrom scope .start false (words ++ before ++ flags ++ after ++ ending) =
        .ok invocation := by
    rw [together] at optionsWritten
    have written := optionsWritten.insert flagsWritten
    rw [List.append_assoc, List.append_assoc, List.append_assoc, readFrom_words leads,
      ← List.append_assoc, ← List.append_assoc]
    exact readFrom_command expressible written ends
  rcases List.append_eq_append_iff.mp placed with ⟨between, rfl, rfl⟩ | ⟨more, rfl, together⟩
  · cases between with
    | nil =>
        have all := inside [] options rfl
        rwa [List.append_nil, List.append_nil] at all
    | cons word between =>
        obtain ⟨middle, first, second⟩ := leads.split
        cases second with
        | step named further =>
            let plain : Invocation := ⟨false, false, invocation.command⟩
            have plainly : plain.IsExpressible :=
              ⟨nofun, expressible.complete, expressible.targets, expressible.output⟩
            have written : Written (plain.command.settings ++ plain.flags) options := by
              change Written (invocation.command.settings ++ []) options
              rwa [List.append_nil]
            have within := readFrom_command plainly written ends
            rw [← readFrom_words further] at within
            have all := readFrom_tellings expressible.consistent flagsWritten named within
            rw [List.append_assoc, List.append_assoc, readFrom_words first]
            simpa only [List.cons_append, List.append_assoc, Bool.or_false, plain] using all
  · exact inside more back together

/-- Every invocation can be written.  Its settings stand in any order behind its words, in either
spelling, the flags about what is told anywhere before its values, and its values at the end. -/
theorem read_written {front back options flags : List String}
    (expressible : invocation.IsExpressible)
    (placed : front ++ back = invocation.command.words ++ options)
    (optionsWritten : Written invocation.command.settings options)
    (flagsWritten : Written invocation.flags flags)
    (ends : Ends invocation.command.values ending) :
    read (front ++ flags ++ back ++ ending) = .ok invocation :=
  readFrom_written expressible (leads_words invocation.command) placed optionsWritten flagsWritten
    ends

/-- Thumbnails of files that are named like a switch and like a command, at a place that is named
like a switch. -/
def oddThumbnails : Command :=
  .thumbnail (some (.ofText "--fast")) true true [.ofText "-v", .ofText "m3u"]

/-- What looks like a switch or a command is told from one, before or after `--quiet`. -/
theorem read_oddThumbnails :
    read ["--quiet", "thumbnail", "--pico8", "--output=--fast", "--fast", "--", "-v", "m3u"] =
        .ok ⟨true, false, oddThumbnails⟩ ∧
      read ["thumbnail", "--pico8", "--output=--fast", "--quiet", "--fast", "--", "-v", "m3u"] =
        .ok ⟨true, false, oddThumbnails⟩ := by
  have expressible : Invocation.IsExpressible ⟨true, false, oddThumbnails⟩ := by
    constructor
    case consistent => decide
    case complete => exact List.cons_ne_nil _ _
    case targets =>
      intro path member
      rcases List.mem_pair.mp member with rfl | rfl
      · exact ⟨"-v", by decide, rfl⟩
      · exact ⟨"m3u", by decide, rfl⟩
    case output =>
      rintro _ ⟨⟩
      exact ⟨"--fast", by decide, rfl⟩
  have own : settings oddThumbnails = [.output "--fast", .flag .fast, .flag .pico8] := by
    simp [oddThumbnails, settings, display_ofText, Setting.aimed, Setting.asked]
  have options : Written (settings oddThumbnails) ["--pico8", "--output=--fast", "--fast"] := by
    rw [own]
    exact ⟨[.flag .pico8, .output "--fast", .flag .fast], by decide,
      .cons (by decide) (.cons (by decide) (.cons (by decide) .nil))⟩
  have flags : Written (tellings true false) ["--quiet"] :=
    ⟨[.flag .quiet], .refl _, .cons (by decide) .nil⟩
  have ends : Ends (values oddThumbnails) ["--", "-v", "m3u"] := by
    have shown : values oddThumbnails = ["-v", "m3u"] := by
      simp [oddThumbnails, values, targets, display_ofText]
    exact .inl (congrArg _ shown.symm)
  have early : read ([] ++ ["--quiet"] ++ ["thumbnail", "--pico8", "--output=--fast", "--fast"] ++
      ["--", "-v", "m3u"]) = .ok ⟨true, false, oddThumbnails⟩ :=
    read_written expressible rfl options flags ends
  have late : read (["thumbnail", "--pico8", "--output=--fast"] ++ ["--quiet"] ++ ["--fast"] ++
      ["--", "-v", "m3u"]) = .ok ⟨true, false, oddThumbnails⟩ :=
    read_written expressible rfl options flags ends
  exact ⟨early, late⟩

end Command
end CardKeeper

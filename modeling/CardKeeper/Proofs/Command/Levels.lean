import CardKeeper.Proofs.Command.Writer
import CardKeeper.Program

/-!
# Flags at several levels

`--quiet` and `--verbose` exclude each other, but each level of a command line, which is what stands
behind one of its words, is checked on its own, and then the flags of all levels are put together.
So both are turned down at one level and taken at two (`read_levels`), and every command can be
asked for with both (`read_written_apart`).

What is given at each level is read off the arguments alone (`levels`).  One argument adds to what
has been seen exactly what it gives (`gives_readArgument`), and a run keeps the two in step
(`reflects_readFrom`).
-/

namespace CardKeeper
namespace Command

/-- The switches that letters give.  One with a value takes the rest for it. -/
def lettersOf (scope : Scope) : List Char → List Switch
  | [] => []
  | letter :: rest =>
      match scope.switches.find? fun switch => switch.letter? == some letter with
      | none => []
      | some switch => if switch.takesValue then [switch] else switch :: lettersOf scope rest

/-- The switches that an argument gives. -/
def switchesOf (scope : Scope) (argument : String) : List Switch :=
  match argument.toList with
  | '-' :: '-' :: name =>
      (scope.switches.find? fun switch =>
        switch.long == String.ofList (name.takeWhile (· != '='))).toList
  | '-' :: letters => lettersOf scope letters
  | _ => []

/-- The switches that are given at each level, from one where some are given already.  The word
`help` asks for help as the switch does. -/
def levelsFrom (scope : Scope) (given : List Switch) : List String → List (List Switch)
  | [] => [given]
  | argument :: rest =>
      match scope.member? argument with
      | some inner => given :: levelsFrom inner [] rest
      | none =>
          if scope.isGroup && argument == "help" then [given ++ [.help]]
          else if argument == "--" then [given]
          else levelsFrom scope (given ++ switchesOf scope argument) rest

/-- The switches that are given at each level of a command line. -/
def levels (arguments : List String) : List (List Switch) :=
  levelsFrom .program [] arguments

/-- A switch is given at some level. -/
def Given (switch : Switch) (levels : List (List Switch)) : Prop :=
  ∃ level ∈ levels, switch ∈ level

/-- Both flags about what is told are given at one level. -/
def GivenTogether (levels : List (List Switch)) : Prop :=
  ∃ level ∈ levels, .quiet ∈ level ∧ .verbose ∈ level

/-- The flags about what is told are given at different levels. -/
def GivenApart (levels : List (List Switch)) : Prop :=
  Given .quiet levels ∧ Given .verbose levels ∧ ¬ GivenTogether levels

variable {scope : Scope} {reading after : Reading} {switch : Switch} {trailing followed : Bool}
  {given more switches : List Switch} {argument : String} {arguments : List String}

/-! ## One argument -/

/-- What has been seen is what is given, but for an output, which is seen once its value is
complete. -/
def Agree (seen given : List Switch) : Prop :=
  ∀ switch, switch ≠ .output → (switch ∈ seen ↔ switch ∈ given)

/-- A part of an argument that is read adds the switches that it gives, and asks for help only if
that is given. -/
def Gives (switches : List Switch) (before : Reading) : Except Stop Reading → Prop
  | .ok after => Agree after.seen (before.seen ++ switches)
  | .error .help => .help ∈ switches
  | .error (.usage _) => True

theorem Agree.append (agree : Agree reading.seen given)
    (gives : Gives switches reading (.ok after)) : Agree after.seen (given ++ switches) := by
  intro switch other
  rw [gives switch other, List.mem_append, List.mem_append, agree switch other]

theorem Agree.contains {seen : List Switch} (agree : Agree seen given) (other : switch ≠ .output) :
    seen.contains switch = true ↔ switch ∈ given := by
  rw [List.contains_iff_mem, agree switch other]

/-- Parts of an argument that are read one after the other give their switches together. -/
theorem Gives.bind {first : Except Stop Reading} {next : Reading → Except Stop Reading}
    (gives : Gives switches reading first) (later : ∀ after, Gives more after (next after)) :
    Gives (switches ++ more) reading (first.bind next) := by
  match first with
  | .error .help => exact List.mem_append_left more gives
  | .error (.usage _) => trivial
  | .ok after =>
      change Gives (switches ++ more) reading (next after)
      have both := later after
      cases result : next after with
      | ok last =>
          rw [result] at both
          change Agree last.seen (reading.seen ++ (switches ++ more))
          rw [← List.append_assoc]
          exact Agree.append gives both
      | error stop =>
          rw [result] at both
          cases stop with
          | help => exact List.mem_append_right switches both
          | usage error => trivial

/-- A part that leaves what has been seen as it is gives nothing. -/
theorem gives_ok (same : after.seen = reading.seen) : Gives [] reading (.ok after) := by
  intro switch _
  rw [same, List.append_nil]

theorem gives_takeOutput (value : String) : Gives [] reading (reading.takeOutput value) := by
  unfold Reading.takeOutput
  split
  · trivial
  · split
    · trivial
    · intro switch other
      simp [other]

theorem gives_settle : Gives [] reading (reading.settle scope) := by
  unfold Reading.settle
  split
  · exact gives_ok rfl
  · trivial
  · exact gives_takeOutput _
  · split
    · trivial
    · exact gives_ok rfl

theorem gives_takeFlag : Gives [switch] reading (reading.takeFlag scope switch) := by
  refine gives_settle.bind fun settled => ?_
  split
  · next help => exact List.mem_singleton.mpr help.symm
  · split
    · trivial
    · intro other _
      exact Iff.rfl

/-- An output is not counted before its value is complete. -/
theorem gives_output {result : Except Stop Reading} (gives : Gives [] reading result)
    (output : switch.takesValue = true) : Gives [switch] reading result := by
  obtain rfl : switch = .output := by
    cases switch with
    | output => rfl
    | _ => cases output
  match result with
  | .error .help => cases gives
  | .error (.usage _) => trivial
  | .ok after =>
      intro switch other
      rw [gives switch other]
      simp [other]

theorem gives_takeOption (attached : Option String) :
    Gives [] reading (reading.takeOption scope attached) := by
  refine gives_settle.bind fun settled => ?_
  cases attached with
  | none => exact gives_ok rfl
  | some value => exact gives_takeOutput value

theorem gives_readLong (name : List Char) :
    Gives (scope.switches.find? fun switch =>
        switch.long == String.ofList (name.takeWhile (· != '='))).toList reading
      (reading.readLong scope name) := by
  unfold Reading.readLong
  dsimp only
  split
  · trivial
  · next switch value found _ =>
      rw [found]
      split
      · next output => exact gives_output (gives_takeOption _) output
      · trivial
  · next switch found _ =>
      rw [found]
      split
      · next output => exact gives_output (gives_takeOption _) output
      · exact gives_takeFlag

theorem gives_readLetters (letters : List Char) :
    Gives (lettersOf scope letters) reading (reading.readLetters scope letters) := by
  induction letters generalizing reading with
  | nil => exact gives_ok rfl
  | cons letter rest ih =>
      unfold Reading.readLetters lettersOf
      cases scope.switches.find? fun switch => switch.letter? == some letter with
      | none => trivial
      | some switch =>
          dsimp only
          by_cases output : switch.takesValue = true
          · rw [if_pos output, if_pos output]
            exact gives_output (gives_takeOption _) output
          · rw [if_neg output, if_neg output]
            exact gives_takeFlag.bind fun after => ih

theorem gives_readValue : Gives [] reading (reading.readValue scope trailing argument) := by
  unfold Reading.readValue
  split
  · split
    · exact gives_ok rfl
    · have settles : Gives [] reading (reading.settle scope) := gives_settle
      generalize reading.settle scope = result at settles
      cases result <;> exact settles
  · split
    · split <;> trivial
    · trivial

/-- One argument adds to what has been seen the switches that it gives. -/
theorem gives_readArgument :
    Gives (switchesOf scope argument) reading (reading.readArgument scope argument) := by
  unfold Reading.readArgument
  split
  · next dashes =>
      simp only [switchesOf, dashes]
      exact gives_readLong _
  · next letter rest single dash =>
      rw [switchesOf, dash]
      split
      · next name same =>
          cases same
          exact (single rfl).elim
      · next letters _ same =>
          cases same
          exact gives_readLetters _
      · next other => exact (other _ rfl).elim
  · next long short =>
      have none : switchesOf scope argument = [] := by
        unfold switchesOf
        split
        · next dashes => exact absurd dashes (long _)
        · next letters _ dash =>
            cases letters with
            | nil => rfl
            | cons letter rest => exact absurd dash (short letter rest)
        · rfl
      rw [none]
      split
      · exact gives_ok rfl
      · exact gives_readValue

/-! ## Whole command lines -/

/-- What has been read has the flags that are given and both at no level, and help is asked for only
if it is given. -/
def Reflects (levels : List (List Switch)) : Except Stop Invocation → Prop
  | .ok invocation =>
      (invocation.quiet = true ↔ Given .quiet levels) ∧
        (invocation.verbose = true ↔ Given .verbose levels) ∧ ¬ GivenTogether levels
  | .error .help => Given .help levels
  | .error (.usage _) => True

theorem given_singleton : Given switch [given] ↔ switch ∈ given := by
  simp [Given]

theorem given_cons {rest : List (List Switch)} :
    Given switch (given :: rest) ↔ switch ∈ given ∨ Given switch rest := by
  simp [Given]

theorem givenTogether_cons {rest : List (List Switch)} : GivenTogether (given :: rest) ↔
    (.quiet ∈ given ∧ .verbose ∈ given) ∨ GivenTogether rest := by
  simp [GivenTogether]

theorem givenTogether_singleton :
    GivenTogether [given] ↔ .quiet ∈ given ∧ .verbose ∈ given := by
  simp [GivenTogether]

/-- What is given already stays given. -/
theorem given_levelsFrom (member : switch ∈ given) :
    Given switch (levelsFrom scope given arguments) := by
  induction arguments generalizing given with
  | nil => exact given_singleton.mpr member
  | cons argument rest ih =>
      unfold levelsFrom
      split
      · exact given_cons.mpr (.inl member)
      · split
        · exact given_singleton.mpr (List.mem_append_left _ member)
        · split
          · exact given_singleton.mpr member
          · exact ih (List.mem_append_left _ member)

theorem gives_check : Gives [] reading (reading.check scope followed) := by
  refine gives_settle.bind fun settled => ?_
  split
  · trivial
  · split
    · trivial
    · split
      · trivial
      · exact gives_ok rfl

/-- What passes a check is what was given, and does not hold both flags. -/
theorem of_check (agree : Agree reading.seen given)
    (passes : reading.check scope followed = .ok after) :
    Agree after.seen given ∧ ¬ (.quiet ∈ given ∧ .verbose ∈ given) := by
  have gives : Gives [] reading (reading.check scope followed) := gives_check
  rw [passes] at gives
  have same : Agree after.seen given := by
    have all := agree.append gives
    rwa [List.append_nil] at all
  refine ⟨same, fun both => ?_⟩
  have quiet : Switch.quiet ∈ after.seen := (same .quiet (by decide)).mpr both.1
  have verbose : Switch.verbose ∈ after.seen := (same .verbose (by decide)).mpr both.2
  have within : [Switch.quiet, .verbose] ⊆
      after.seen.filter fun switch => switch = .quiet || switch = .verbose := by
    simp [quiet, verbose]
  have two := (List.subperm_of_subset (by decide) within).length_le
  exact absurd (Nat.le_trans two (check_eq_ok_iff.mp passes).2.2.1) (by decide)

/-- A part that is read before the others takes its switches to what is given. -/
theorem Gives.reflects {levels : List (List Switch)} {first : Except Stop Reading}
    {next : Reading → Except Stop Invocation} (gives : Gives switches reading first)
    (agree : Agree reading.seen given) (asks : .help ∈ switches → Given .help levels)
    (later : ∀ after, Agree after.seen (given ++ switches) → Reflects levels (next after)) :
    Reflects levels (first.bind next) := by
  match first with
  | .error .help => exact asks gives
  | .error (.usage _) => trivial
  | .ok after => exact later after (agree.append gives)

/-- What follows a check is about what passes it, which does not hold both flags. -/
theorem reflects_check {levels : List (List Switch)} {next : Reading → Except Stop Invocation}
    (agree : Agree reading.seen given)
    (later : ∀ after, Agree after.seen given → ¬ (.quiet ∈ given ∧ .verbose ∈ given) →
      Reflects levels (next after)) :
    Reflects levels ((reading.check scope followed).bind next) := by
  have gives : Gives [] reading (reading.check scope followed) := gives_check
  cases passes : reading.check scope followed with
  | ok after =>
      obtain ⟨same, apart⟩ := of_check agree passes
      exact later after same apart
  | error stop =>
      rw [passes] at gives
      cases stop with
      | help => cases gives
      | usage error => trivial

/-- The flags before a word are put together with those behind it. -/
theorem Reflects.word {levels : List (List Switch)} {inner : Except Stop Invocation}
    (reflects : Reflects levels inner) (agree : Agree reading.seen given) :
    Reflects (given :: levels) (inner.bind fun invocation =>
      (reading.check scope true).map fun reading =>
        { invocation with
          quiet := reading.seen.contains .quiet || invocation.quiet
          verbose := reading.seen.contains .verbose || invocation.verbose }) := by
  match inner with
  | .error .help => exact given_cons.mpr (.inr reflects)
  | .error (.usage _) => trivial
  | .ok invocation =>
      obtain ⟨quiet, verbose, single⟩ := reflects
      simp only [Except.bind, map_eq_bind]
      apply reflects_check agree
      intro checked same apart
      refine ⟨?_, ?_, ?_⟩
      · rw [given_cons, ← same.contains (by decide), ← quiet, Bool.or_eq_true]
      · rw [given_cons, ← same.contains (by decide), ← verbose, Bool.or_eq_true]
      · rw [givenTogether_cons]
        exact not_or.mpr ⟨apart, single⟩

/-- The end of a command line is told by what is given at its last level. -/
theorem reflects_end (trailing : Bool) (agree : Agree reading.seen given) :
    Reflects [given] (readFrom scope reading trailing []) := by
  unfold readFrom
  apply reflects_check agree
  intro checked same apart
  split
  · refine ⟨?_, ?_, ?_⟩
    · rw [given_singleton, same.contains (by decide)]
    · rw [given_singleton, same.contains (by decide)]
    · rwa [givenTogether_singleton]
  · trivial

/-- The flags of what is read, and whether it asks for help, can be told from what is given. -/
theorem reflects_readFrom (agree : Agree reading.seen given) :
    Reflects (if trailing then [given] else levelsFrom scope given arguments)
      (readFrom scope reading trailing arguments) := by
  fun_induction readFrom scope reading trailing arguments generalizing given with
  | case1 scope reading trailing =>
      have own : (if trailing then [given] else levelsFrom scope given []) = [given] := ite_self _
      rw [own]
      exact reflects_end trailing agree
  | case2 scope reading argument rest ih =>
      refine gives_readValue.reflects agree (absurd · List.not_mem_nil) fun after same => ?_
      rw [List.append_nil] at same
      exact ih after same
  | case3 scope reading trailing argument rest leading inner named ih =>
      rw [if_neg leading, levelsFrom, named]
      exact (ih fun _ _ => Iff.rfl).word agree
  | case4 scope reading trailing argument rest leading unnamed asks =>
      rw [if_neg leading, levelsFrom, unnamed]
      simp only [asks, if_true]
      cases readHelp scope rest with
      | help => exact given_singleton.mpr (List.mem_append_right _ List.mem_cons_self)
      | usage error => trivial
  | case5 scope reading trailing argument rest leading unnamed plain dashes ih =>
      rw [if_neg leading, levelsFrom, unnamed]
      simp only [plain, dashes, if_true]
      exact ih agree
  | case6 scope reading trailing argument rest leading unnamed plain single ih =>
      rw [if_neg leading, levelsFrom, unnamed]
      simp only [plain, single, Bool.false_eq_true, if_false]
      refine gives_readArgument.reflects agree (fun asks => ?_) fun after same => ih after same
      exact given_levelsFrom (List.mem_append_right _ asks)

theorem reflects_read (arguments : List String) : Reflects (levels arguments) (read arguments) := by
  have fresh : Agree Reading.start.seen [] := fun _ _ => Iff.rfl
  have all : Reflects (if false then [[]] else levelsFrom .program [] arguments)
      (readFrom .program .start false arguments) := reflects_readFrom fresh
  exact all

/-- Every invocation is read with more flags before one of its words than it has behind it.  So
every command takes both flags if a word stands between them. -/
theorem read_written_apart {front middle back words options outer flags ending : List String}
    {word : String} {quiet verbose : Bool} {invocation : Invocation}
    (expressible : invocation.IsExpressible)
    (cut : invocation.command.words = front ++ word :: words)
    (placed : middle ++ back = words ++ options)
    (optionsWritten : Written invocation.command.settings options)
    (flagsWritten : Written invocation.flags flags)
    (consistent : ¬ (quiet = true ∧ verbose = true))
    (outerWritten : Written (tellings quiet verbose) outer)
    (ends : Ends invocation.command.values ending) :
    read (front ++ (outer ++ word :: (middle ++ flags ++ back ++ ending))) =
      .ok ⟨quiet || invocation.quiet, verbose || invocation.verbose, invocation.command⟩ := by
  have leads := leads_words invocation.command
  rw [cut] at leads
  obtain ⟨level, first, second⟩ := leads.split
  rw [read, readFrom_words first]
  cases second with
  | step named further =>
      apply readFrom_tellings consistent outerWritten named
      exact readFrom_written expressible further placed optionsWritten flagsWritten ends

/-- A command line has the flags that are given at its levels, so both flags about what is told only
if they are given at different levels.  One that gives both at the same level is turned down with
exit code 2, unless it asks for help. -/
theorem read_levels (arguments : List String) :
    (∀ invocation, read arguments = .ok invocation →
      (invocation.quiet = true ↔ Given .quiet (levels arguments)) ∧
      (invocation.verbose = true ↔ Given .verbose (levels arguments)) ∧
      (invocation.quiet = true ∧ invocation.verbose = true ↔ GivenApart (levels arguments))) ∧
    (GivenTogether (levels arguments) →
      (∀ invocation, read arguments ≠ .ok invocation) ∧
      (¬ Given .help (levels arguments) → ∀ environment volume,
        (Program.run environment arguments volume).exit = 2 ∧
          (Program.run environment arguments volume).volume = volume)) := by
  have reflects := reflects_read arguments
  cases done : read arguments with
  | ok invocation =>
      rw [done] at reflects
      obtain ⟨quiet, verbose, single⟩ := reflects
      refine ⟨?_, fun together => absurd together single⟩
      rintro _ ⟨⟩
      refine ⟨quiet, verbose, ?_⟩
      rw [quiet, verbose, GivenApart, and_iff_left single]
  | error stop =>
      refine ⟨nofun, fun _ => ⟨nofun, fun unasked environment volume => ?_⟩⟩
      rw [done] at reflects
      cases stop with
      | help => exact absurd reflects unasked
      | usage error => simp only [Program.run, done, and_self]

/-- A command line with a flag at one level is read, and one with both is not. -/
theorem read_levels_m3u :
    (read ["m3u", "-n", "--quiet"] = .ok ⟨true, false, .m3u none true⟩ ∧
      ¬ GivenApart (levels ["m3u", "-n", "--quiet"])) ∧
    GivenTogether (levels ["-v", "--quiet", "m3u"]) ∧
      ¬ Given .help (levels ["-v", "--quiet", "m3u"]) ∧
      ∀ environment volume,
        (Program.run environment ["-v", "--quiet", "m3u"] volume).exit = 2 := by
  have done : read ["m3u", "-n", "--quiet"] = .ok ⟨true, false, .m3u none true⟩ := by decide
  have single : levels ["m3u", "-n", "--quiet"] = [[], [.dryRun, .quiet]] := by decide
  have both : levels ["-v", "--quiet", "m3u"] = [[.verbose, .quiet], []] := by decide
  have together : GivenTogether (levels ["-v", "--quiet", "m3u"]) := by
    rw [both]
    exact ⟨_, List.mem_cons_self, by decide⟩
  have unasked : ¬ Given .help (levels ["-v", "--quiet", "m3u"]) := by
    simp [both, Given]
  refine ⟨⟨done, fun apart => ?_⟩, together, unasked, fun environment volume => ?_⟩
  · exact absurd (((read_levels _).1 _ done).2.2.mpr apart).2 Bool.false_ne_true
  · exact (((read_levels _).2 together).2 unasked environment volume).1

/-- Both flags are taken at two levels, and the command runs. -/
theorem read_bothFlags :
    read ["-v", "config", "path", "--quiet"] = .ok ⟨true, true, .configPath⟩ ∧
      levels ["-v", "config", "path", "--quiet"] = [[.verbose], [], [.quiet]] ∧
      ∀ environment volume,
        (Program.run environment ["-v", "config", "path", "--quiet"] volume).exit = 0 := by
  have done : read ["-v", "config", "path", "--quiet"] = .ok ⟨true, true, .configPath⟩ := by decide
  refine ⟨done, by decide, fun environment volume => ?_⟩
  rw [Program.run, done]
  rfl

end Command
end CardKeeper

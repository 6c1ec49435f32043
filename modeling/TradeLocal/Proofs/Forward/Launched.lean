import TradeLocal.Children.Handle
import TradeLocal.Proofs.Forward.Outcome
import TradeLocal.Proofs.Settings.Precedence

/-!
# Launched argument vectors

Whatever the tool has run is well formed: a program with a name, the checked place and distance
in their places and all further arguments behind them, or a shell with the text of the echo.
A start is never refused for want of a program.
-/

namespace TradeLocal

namespace Children.Handle

theorem spawn_eq_noProgram_iff {Job : Type} (resolve : Resolver Job) (words : List Bytes)
    (system : System Job) :
    (spawn resolve words system).1 = .error .noProgram ↔ words.headD [] = [] := by
  rcases words with _ | ⟨_ | ⟨byte, program⟩, arguments⟩
  · simp [spawn]
  · simp [spawn]
  · rw [spawn]
    · cases resolve ((byte :: program) :: arguments) <;> simp
    · simp

end Children.Handle

namespace Settings

open Config

theorem preferred_ne_nil {environment file : Option Bytes} {value : Bytes}
    (found : preferred environment file = some value) : value ≠ [] := by
  rintro rfl
  rcases environment with _ | _ | ⟨first, rest⟩ <;> rcases file with _ | _ | ⟨other, others⟩ <;>
    simp [preferred] at found

theorem inside_ne_nil {name : Bytes} (named : name ≠ []) (directory : Bytes) :
    inside directory name ≠ [] := by
  rw [inside]
  split <;> simp [named]

/-- There is a program to run, whatever is empty in the environment or in the file. -/
theorem program_ne_nil {environment : Variables} {answer : Bytes → FileAnswer}
    {settings : Settings} (loaded : (load environment answer).result = .ok settings) :
    settings.program ≠ [] := by
  obtain ⟨text, file, _, _, rfl⟩ := load_eq_ok_iff.mp loaded
  rw [expected]
  cases found : preferred (environment (ascii "TDPY")) (file.get? (ascii "TDPY")) with
  | none => exact inside_ne_nil (by decide) _
  | some value => exact preferred_ne_nil found

end Settings

namespace Forward

open Event

/-- The words are made from the arguments by the rule of the mode in which they are run.
`shown` is what has been echoed by then. -/
inductive WellFormed (settings : Settings) (arguments : List Bytes) (shown : Bytes) :
    List Bytes → Prop where
  | direct {name place distance : Bytes} {extra : List Bytes}
      (mode : settings.mode = .direct) (given : arguments = name :: place :: distance :: extra)
      (program : settings.program ≠ [])
      (place_ne_nil : place ≠ []) (place_head : place.head? ≠ some Byte.hyphen)
      (distance_ne_nil : distance ≠ []) (distance_head : distance.head? ≠ some Byte.hyphen) :
      WellFormed settings arguments shown
        (settings.program :: ascii "local" :: place :: ascii "--ly" :: distance :: extra)
  | shell {text : Bytes} (mode : settings.mode = .shell)
      (echo : shown = ascii "$ " ++ text ++ [Byte.newline]) :
      WellFormed settings arguments shown [ascii "/bin/sh", ascii "-c", text]

theorem WellFormed.headD_ne_nil {settings : Settings} {arguments words : List Bytes}
    {shown : Bytes} (wellFormed : WellFormed settings arguments shown words) :
    words.headD [] ≠ [] := by
  cases wellFormed with
  | direct mode given program => exact program
  | shell mode echo =>
      rw [List.headD_cons]
      decide

theorem launches_append_launch_ne_nil (before : List Event) (words : List Bytes)
    (after : List Event) : launches (before ++ .launch words :: after) ≠ [] := by
  simp [launches]

section Launch

variable {environment : Variables} {answer : Bytes → FileAnswer} {launcher : Launcher}
  {line : CommandLine} {before after : List Event} {words : List Bytes}

/-- What a launch tells about the run: the command line was right, the settings could be made,
and the command that they give for the query has been echoed. -/
theorem launch_cases
    (split : (commandLine environment answer launcher line).events =
      before ++ .launch words :: after) :
    ∃ query settings, Query.ofCommandLine? line = some query ∧
      (Settings.load environment answer).result = .ok settings ∧
      words = launched settings query ∧
      echoed before =
        ascii "$ " ++ Command.render ⟨settings.program, query⟩ ++ [Byte.newline] := by
  have launchesWords := launches_append_launch_ne_nil before words after
  rw [← split] at launchesWords
  cases read : Query.ofCommandLine? line with
  | none =>
      obtain ⟨events, ⟨_, _, noLaunch⟩, run⟩ :=
        commandLine_of_wrong_usage environment answer launcher read
      rw [run] at launchesWords
      exact absurd noLaunch launchesWords
  | some query =>
      cases made : (Settings.load environment answer).result with
      | error error =>
          obtain ⟨events, ⟨_, _, noLaunch⟩, run⟩ :=
            commandLine_of_bad_configuration launcher read made
          rw [run] at launchesWords
          exact absurd noLaunch launchesWords
      | ok settings =>
          obtain ⟨front, ⟨noEcho, _, noLaunch⟩, run⟩ :=
            commandLine_of_settings launcher read made
          obtain ⟨back, ⟨backEcho, _, backLaunch⟩, ran⟩ :=
            runQuery_eq launcher query (mode_of_load made)
          rw [ran] at run
          have events : before ++ .launch words :: after =
              front ++ [.echo (ascii "$ " ++ Command.render ⟨settings.program, query⟩ ++
                [Byte.newline]), .notice (.running settings.mode)] ++
                .launch (launched settings query) :: back := by
            have whole := congrArg Run.events run
            rw [split] at whole
            simpa using whole
          have once : launches before = [] ∧ words = launched settings query ∧
              launches after = [] := by
            simpa [launches, noLaunch, backLaunch, List.append_eq_singleton_iff] using
              congrArg launches events
          -- The one launch is this one, so what is echoed at all is echoed before it.
          have first : EchoedFirst (before ++ .launch words :: after) := by
            rw [events]
            apply echoedFirst_append
            · simp [noLaunch, launches]
            · exact backEcho
          refine ⟨query, settings, rfl, rfl, once.2.1, ?_⟩
          rw [first before words after rfl, events]
          simp [echoed, noEcho, backEcho]

/-- Whatever is launched is well formed, and no start is refused for want of a program. -/
theorem wellFormed_of_launch {arguments : List Bytes}
    (split : (commandLine environment answer launcher (.ofWords arguments)).events =
      before ++ .launch words :: after) :
    (∃ settings, (Settings.load environment answer).result = .ok settings ∧
      WellFormed settings arguments (echoed before) words) ∧
    ∀ {Job : Type} (resolve : Children.Resolver Job) (system : Children.System Job),
      (Children.Handle.spawn resolve words system).1 ≠ .error .noProgram := by
  obtain ⟨query, settings, read, loaded, rfl, echo⟩ := launch_cases split
  have wellFormed : WellFormed settings arguments (echoed before) (launched settings query) := by
    rcases mode_of_load loaded with direct | shell
    · obtain ⟨given, place, distance⟩ := Query.ofCommandLine?_eq_some_iff.mp read
      obtain ⟨placeNonempty, placeHead⟩ := isPositional_iff.mp place
      obtain ⟨distanceNonempty, distanceHead⟩ := isPositional_iff.mp distance
      cases arguments with
      | nil => cases given
      | cons name rest =>
          obtain rfl : rest = query.place :: query.distance :: query.extra := given
          rw [launched, if_neg (by simp [direct])]
          exact .direct direct rfl (Settings.program_ne_nil loaded) placeNonempty placeHead
            distanceNonempty distanceHead
    · rw [launched, if_pos shell]
      exact .shell shell echo
  refine ⟨⟨settings, loaded, wellFormed⟩, ?_⟩
  intro Job resolve system refused
  exact wellFormed.headD_ne_nil ((Children.Handle.spawn_eq_noProgram_iff _ _ _).mp refused)

end Launch

/-- The program's variable is set and empty, in the environment and in the file. -/
theorem wellFormed_of_launch_empty :
    let environment := Variables.ofPairs [(ascii "TDH", []), (ascii "TDPY", [])]
    let answer : Bytes → FileAnswer := fun _ => .contents (ascii "TDPY=\nTDLOC_VERBOSE=yes")
    let launcher : Launcher := fun _ => { result := .ok ⟨0⟩ }
    let arguments := [ascii "tdloc", ascii "New Sol", ascii "10", ascii "--ly", []]
    let words := [ascii "./trade.py", ascii "local", ascii "New Sol", ascii "--ly", ascii "10",
      ascii "--ly", []]
    let before : List Event :=
      [.notice (.load (.reading (ascii "./config.sh"))), .setThreshold .info,
        .notice (.resolved (ascii ".") (ascii "./trade.py")),
        .echo (ascii "$ ./trade.py local \"New Sol\" --ly \"10\" --ly \n"),
        .notice (.running .direct)]
    let after : List Event :=
      [.childOutput [] [], .notice (.finished (ascii "./trade.py") ⟨0⟩)]
    (commandLine environment answer launcher (.ofWords arguments)).events =
        before ++ .launch words :: after ∧
      (∃ settings, (Settings.load environment answer).result = .ok settings ∧
        WellFormed settings arguments (echoed before) words) ∧
      (Children.Handle.spawn (fun _ => .ok ()) words {}).1 ≠ .error .noProgram := by
  intro environment answer launcher arguments words before after
  have split : (commandLine environment answer launcher (.ofWords arguments)).events =
      before ++ .launch words :: after := by
    decide +kernel
  obtain ⟨wellFormed, started⟩ := wellFormed_of_launch split
  exact ⟨split, wellFormed, started _ _⟩

end Forward

end TradeLocal

import TradeLocal.Proofs.Forward.Abort
import TradeLocal.Proofs.Settings.Precedence

/-!
# Verbosity

The tool asks twice whether to lower the threshold of the log: it looks at the environment before
the command line, and at the settings once they are made.  The two checks never disagree, the
threshold changes for no other reason, and nothing but the log depends on it.
-/

namespace TradeLocal

open Config Settings

namespace Settings

theorem meansYes_nil : meansYes [] = false := by decide

theorem any_preferred_iff {environment file : Option Bytes} :
    (preferred environment file).any meansYes = true ↔
      (∃ value, environment = some value ∧ meansYes value = true) ∨
        environment.getD [] = [] ∧ ∃ value, file = some value ∧ meansYes value = true := by
  rcases environment with _ | _ | ⟨first, rest⟩ <;> rcases file with _ | _ | ⟨other, others⟩ <;>
    simp [preferred, meansYes_nil]

end Settings

namespace Logged

theorem threshold_bind {α β : Type} {run : Run α} {next : α → Run β} {value : α}
    (ended : run.result = some value) (threshold : Severity) :
    (ofEvents threshold (run >>= next).events).threshold =
      (ofEvents (ofEvents threshold run.events).threshold (next value).events).threshold := by
  rw [Run.bind_of_result ended, ofEvents_append]

end Logged

namespace Forward

/-- The environment asks for everything to be told. -/
def EnvironmentAsks (environment : Variables) : Prop :=
  ∃ value, environment (ascii "TDLOC_VERBOSE") = some value ∧ meansYes value = true

/-- The configuration file asks for everything to be told, by the value it leaves. -/
def FileAsks (environment : Variables) (answer : Bytes → FileAnswer) : Prop :=
  ∃ text value, (answer (inside (base environment) (ascii "config.sh"))).text? = some text ∧
    FinalValue environment (Bytes.splitOn Byte.newline text) (ascii "TDLOC_VERBOSE")
      (some value) ∧ meansYes value = true

structure Invocation where
  environment : Variables
  answer : Bytes → FileAnswer
  launcher : Launcher
  line : CommandLine

namespace Invocation

def run (invocation : Invocation) : Run (Except ForwardError Int) :=
  commandLine invocation.environment invocation.answer invocation.launcher invocation.line

def loaded (invocation : Invocation) : Except LoadError Settings :=
  (Settings.load invocation.environment invocation.answer).result

def thresholdAfter (invocation : Invocation) (threshold : Severity) : Severity :=
  (Logged.ofEvents threshold invocation.run.events).threshold

/-- A forwarding is to tell everything. -/
def Asks (invocation : Invocation) : Prop :=
  EnvironmentAsks invocation.environment ∨
    (invocation.environment (ascii "TDLOC_VERBOSE")).getD [] = [] ∧
      (∃ query, Query.ofCommandLine? invocation.line = some query) ∧
      (∃ settings, invocation.loaded = .ok settings) ∧
      FileAsks invocation.environment invocation.answer

/-- Whether one of the two checks lowers the threshold. -/
def lowers (invocation : Invocation) : Bool :=
  meansYes ((invocation.environment Setting.verbose).getD []) ||
    match Query.ofCommandLine? invocation.line, invocation.loaded with
    | some _, .ok settings => settings.verbose
    | _, _ => false

end Invocation

theorem environmentAsks_iff {environment : Variables} :
    EnvironmentAsks environment ↔ meansYes ((environment Setting.verbose).getD []) = true := by
  show (∃ value, environment Setting.verbose = some value ∧ meansYes value = true) ↔ _
  cases environment Setting.verbose with
  | none => simp [meansYes_nil]
  | some value => simp

theorem verbose_iff {environment : Variables} {answer : Bytes → FileAnswer} {settings : Settings}
    (loaded : (Settings.load environment answer).result = .ok settings) :
    settings.verbose = true ↔
      EnvironmentAsks environment ∨
        (environment (ascii "TDLOC_VERBOSE")).getD [] = [] ∧ FileAsks environment answer := by
  obtain ⟨text, file, found, read, rfl⟩ := load_eq_ok_iff.mp loaded
  have final : FileAsks environment answer ↔
      ∃ value, file.get? (ascii "TDLOC_VERBOSE") = some value ∧ meansYes value = true := by
    rw [FileAsks, ← configPath_eq, found]
    simp only [Option.some.injEq, exists_and_left, exists_eq_left', finalValue_iff read]
  rw [final]
  exact any_preferred_iff

theorem lowers_iff {invocation : Invocation} : invocation.lowers = true ↔ invocation.Asks := by
  rw [Invocation.lowers, Bool.or_eq_true, ← environmentAsks_iff, Invocation.Asks]
  cases read : Query.ofCommandLine? invocation.line with
  | none => simp
  | some query =>
      cases made : invocation.loaded with
      | error error => simp
      | ok settings =>
          simp only [verbose_iff made]
          constructor
          · rintro (asks | asks | ⟨unset, asks⟩)
            · exact .inl asks
            · exact .inl asks
            · exact .inr ⟨unset, ⟨query, rfl⟩, ⟨settings, rfl⟩, asks⟩
          · rintro (asks | ⟨unset, -, -, asks⟩)
            · exact .inl asks
            · exact .inr (.inr ⟨unset, asks⟩)

section Threshold

variable {environment : Variables} {answer : Bytes → FileAnswer} {launcher : Launcher}

theorem threshold_tellAll (condition : Bool) (threshold : Severity) :
    (Logged.ofEvents threshold (tellAll condition).events).threshold =
      if condition then Severity.info else threshold := by
  cases condition <;> rfl

theorem result_tellAll (condition : Bool) : (tellAll condition).result = some () := by
  cases condition <;> rfl

theorem unset_loadSettings :
    (loadSettings environment answer).Only fun event => ¬event.setsThreshold := by
  intro event member
  obtain ⟨notice, -, rfl⟩ := List.mem_map.mp member
  exact nofun

theorem unset_launch (words : List Bytes) :
    (launch launcher words).Only fun event => ¬event.setsThreshold := by
  intro event member
  rcases List.mem_append.mp member with early | last
  · rcases List.mem_cons.mp early with rfl | told
    · exact nofun
    · obtain ⟨notice, -, rfl⟩ := List.mem_map.mp told
      exact nofun
  · obtain rfl := List.mem_singleton.mp last
    exact nofun

theorem unset_outcome (program : Bytes) (launched : Except Failure WaitStatus) :
    (outcome program launched).Only fun event => ¬event.setsThreshold := by
  rcases launched with ⟨kind, message⟩ | status
  · cases kind
    case notFound | permissionDenied =>
      exact (Run.Only.emit (.notice (.notLaunched message)) nofun).bind fun _ => .pure _
    all_goals exact .pure _
  · refine (Run.Only.emit (.notice (.finished program status)) nofun).bind fun _ => ?_
    cases status.shellCode? with
    | none => exact Run.Only.emit (.notice (.unexpectedStatus status)) nofun
    | some code => exact .pure _

theorem unset_runQuery (settings : Settings) (query : Query) :
    (runQuery settings launcher query).Only fun event => ¬event.setsThreshold := by
  refine (Run.Only.emit (.echo _) nofun).bind fun _ => ?_
  refine (Run.Only.emit (.notice (.running settings.mode)) nofun).bind fun _ => ?_
  have chosen (command : Command) :
      (launchWords settings.mode command).Only fun event => ¬event.setsThreshold := by
    cases settings.mode with
    | direct | shell => exact .pure _
    | other number => exact Run.Only.emit (.notice .unknownMode) nofun
  exact (chosen _).bind fun words => (unset_launch words).bind fun ended => unset_outcome _ ended

theorem threshold_tell_runQuery (notice : Notice) (settings : Settings) (query : Query)
    (threshold : Severity) :
    (Logged.ofEvents threshold
      (Run.tell notice >>= fun _ => runQuery settings launcher query).events).threshold =
        threshold :=
  Logged.threshold_of_unset
    ((Run.Only.emit (.notice notice) nofun).bind fun _ => unset_runQuery settings query) threshold

theorem thresholdAfter_eq (invocation : Invocation) (threshold : Severity) :
    invocation.thresholdAfter threshold =
      if invocation.lowers then Severity.info else threshold := by
  obtain ⟨environment, answer, launcher, line⟩ := invocation
  rw [Invocation.thresholdAfter, Invocation.run, commandLine,
    Logged.threshold_bind (result_tellAll _), threshold_tellAll, Invocation.lowers]
  generalize meansYes ((environment Setting.verbose).getD []) = asked
  cases Query.ofCommandLine? line with
  | none => cases asked <;> rfl
  | some query =>
      rw [Invocation.loaded]
      cases made : (Settings.load environment answer).result with
      | error error =>
          have loaded : (loadSettings environment answer).result = some (.error error) :=
            congrArg some made
          simp only [Logged.threshold_bind loaded, Logged.threshold_of_unset unset_loadSettings]
          cases asked <;> rfl
      | ok settings =>
          have loaded : (loadSettings environment answer).result = some (.ok settings) :=
            congrArg some made
          simp only [Logged.threshold_bind loaded, Logged.threshold_of_unset unset_loadSettings,
            Logged.threshold_bind (result_tellAll _), threshold_tellAll, threshold_tell_runQuery]
          by_cases verbose : settings.verbose = true <;> cases asked <;> simp [verbose]

theorem threshold_flatMap (invocations : List Invocation) (threshold : Severity) :
    (Logged.ofEvents threshold (invocations.flatMap fun given => given.run.events)).threshold =
      if invocations.any Invocation.lowers then Severity.info else threshold := by
  induction invocations generalizing threshold with
  | nil => rfl
  | cons first rest ih =>
      rw [List.flatMap_cons, Logged.ofEvents_append, ih]
      show (if _ then _ else first.thresholdAfter threshold) = _
      rw [thresholdAfter_eq, List.any_cons]
      cases first.lowers <;> cases rest.any Invocation.lowers <;> rfl

end Threshold

/-- A forwarding that is to tell everything lowers the threshold, and any other leaves it as it
was, however many follow one another.  A value in the environment that does not mean yes keeps the
file from being asked, and one that does is found again in the settings. -/
theorem threshold_invocations :
    (∀ (invocation : Invocation) threshold,
      (invocation.Asks → invocation.thresholdAfter threshold = Severity.info) ∧
      (¬invocation.Asks → invocation.thresholdAfter threshold = threshold)) ∧
    (∀ (invocation : Invocation) value,
      invocation.environment (ascii "TDLOC_VERBOSE") = some value → value ≠ [] →
      meansYes value = false → ∀ answer threshold,
        { invocation with answer }.thresholdAfter threshold = threshold) ∧
    (∀ (invocation : Invocation) settings, EnvironmentAsks invocation.environment →
      invocation.loaded = .ok settings → settings.verbose = true) ∧
    ∀ (invocations : List Invocation) threshold,
      let events := invocations.flatMap fun invocation => invocation.run.events
      ((∃ invocation ∈ invocations, invocation.Asks) →
        (Logged.ofEvents threshold events).threshold = Severity.info) ∧
      ((∀ invocation ∈ invocations, ¬invocation.Asks) →
        (Logged.ofEvents threshold events).threshold = threshold) := by
  have one (invocation : Invocation) (threshold : Severity) :
      (invocation.Asks → invocation.thresholdAfter threshold = Severity.info) ∧
      (¬invocation.Asks → invocation.thresholdAfter threshold = threshold) := by
    rw [thresholdAfter_eq, ← lowers_iff]
    exact ⟨fun asks => if_pos asks, fun silent => if_neg silent⟩
  refine ⟨one, ?_, ?_, ?_⟩
  · intro invocation value given nonempty refuses answer threshold
    refine (one { invocation with answer } threshold).2 ?_
    rintro (⟨other, found, asks⟩ | ⟨unset, -⟩)
    · obtain rfl : value = other := Option.some.inj (given.symm.trans found)
      rw [refuses] at asks
      cases asks
    · rw [given] at unset
      exact nonempty unset
  · intro invocation settings asks made
    exact (verbose_iff made).mpr (.inl asks)
  · intro invocations threshold events
    rw [threshold_flatMap]
    constructor
    · rintro ⟨invocation, member, asks⟩
      exact if_pos (List.any_eq_true.mpr ⟨invocation, member, lowers_iff.mpr asks⟩)
    · intro silent
      refine if_neg fun lowered => ?_
      obtain ⟨invocation, member, asks⟩ := List.any_eq_true.mp lowered
      exact silent invocation member (lowers_iff.mp asks)

/-- A blank in the environment is no empty value, so the file is not asked. -/
theorem threshold_invocations_blank :
    let invocation : Invocation :=
      { environment := Variables.ofPairs [(ascii "TDLOC_VERBOSE", ascii " ")]
        answer := fun _ => .contents (ascii "TDLOC_VERBOSE=Yes")
        launcher := fun _ => { result := .ok ⟨0⟩ }
        line := ⟨ascii "tdloc", [ascii "Sol", ascii "10"]⟩ }
    invocation.environment (ascii "TDLOC_VERBOSE") = some (ascii " ") ∧ ascii " " ≠ [] ∧
      meansYes (ascii " ") = false ∧
      invocation.thresholdAfter Severity.warning = Severity.warning := by
  intro invocation
  have given : invocation.environment (ascii "TDLOC_VERBOSE") = some (ascii " ") := rfl
  have nonempty : ascii " " ≠ [] := by decide
  have refuses : meansYes (ascii " ") = false := by decide
  exact ⟨given, nonempty, refuses,
    threshold_invocations.2.1 invocation (ascii " ") given nonempty refuses invocation.answer _⟩

/-- Under two thresholds the tool has the same result and exit code and does the same past its
log: it echoes, complains and launches alike.  The lines of the log under the higher threshold
are some of those under the lower one.  So far this is `Console.run_above`, and holds of every
run.  What the tool adds, with a launcher that comes back, is that no process is cut short: each
has the result of the run, does all of it, and writes every notice that passes its threshold. -/
theorem run_tool_above (environment : Variables) (answer : Bytes → FileAnswer)
    (launcher : Launcher) (line : CommandLine) (labels : Labels) {first second : Severity}
    (le : second ≤ first) :
    let run := tool environment answer launcher line
    let higher := (Console.opening first).run labels run
    let lower := (Console.opening second).run labels run
    higher.1 = lower.1 ∧ higher.2.done = lower.2.done ∧
      higher.2.log.aborted = lower.2.log.aborted ∧
      higher.2.log.lines.Sublist lower.2.log.lines ∧
      (Returns launcher → ∀ threshold,
        let process := (Console.opening threshold).run labels run
        process.1 = run.result ∧ process.2.done = run.events.filter Event.isDone ∧
          process.2.log.lines = (Logged.ofEvents threshold run.events).notices.map
            fun notice => (labels.entry notice).written) := by
  intro run higher lower
  obtain ⟨result, above⟩ := Console.run_above labels (Console.above_opening le) run
  refine ⟨result, above.done, above.aborted, above.lines, ?_⟩
  intro returns threshold process
  have performed : process = _ := Console.run_of_proper labels (proper_tool returns) threshold
  rw [performed]
  exact ⟨rfl, rfl, rfl⟩

/-- That a program was not found is told in both runs, and all else in one. -/
theorem run_tool_above_notFound :
    let labels : Labels := ⟨fun _ => ascii "tool/run", fun _ => 7, Bytes.ofNat⟩
    let launcher : Launcher := fun _ => { result := .error ⟨.notFound, ascii "E"⟩ }
    let line : CommandLine := ⟨ascii "tdloc", [ascii "Sol", ascii "10"]⟩
    let run := tool (fun _ => none) (fun _ => .contents (ascii "cd /")) launcher line
    let higher := (Console.opening Severity.error).run labels run
    let lower := (Console.opening Severity.info).run labels run
    Severity.info ≤ Severity.error ∧ Returns launcher ∧
      higher.1 = some (.ok 127, 127) ∧ lower.1 = some (.ok 127, 127) ∧
      higher.2.log.lines.Sublist lower.2.log.lines ∧
      higher.2.log.lines.length = 1 ∧ lower.2.log.lines.length = 5 := by
  intro labels launcher line run higher lower
  have le : Severity.info ≤ Severity.error := by decide
  have returns : Returns launcher := fun _ _ => nofun
  obtain ⟨same, -, -, lines, known⟩ := run_tool_above (fun _ => none)
    (fun _ => .contents (ascii "cd /")) launcher line labels le
  have result : run.result = some (.ok 127, 127) := by decide +kernel
  have higherResult := (known returns Severity.error).1.trans result
  refine ⟨le, returns, higherResult, same.symm.trans higherResult, lines, ?_, ?_⟩
  · rw [(known returns Severity.error).2.2, List.length_map]
    decide +kernel
  · rw [(known returns Severity.info).2.2, List.length_map]
    decide +kernel

end Forward

end TradeLocal

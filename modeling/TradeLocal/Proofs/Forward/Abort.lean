import TradeLocal.Proofs.Forward.Outcome
import TradeLocal.Proofs.Log.Console
import TradeLocal.Proofs.WaitStatus
import TradeLocal.Tool

/-!
# Aborted runs

The tool is aborted by nothing but a wait status that reports no ending.  Every other run has a
result, and the low eight bits of its exit code tell all of it.
-/

namespace TradeLocal

namespace Forward

def codeOf : Except ForwardError Int → Int
  | .ok code => code
  | .error (.usage _) => 1
  | .error (.badConfiguration _) | .error (.launchFailed _) => -1

/-- The exit status that is seen of a result. -/
def seenOf : Except ForwardError Int → Nat
  | .ok code => code.toNat
  | .error (.usage _) => 1
  | .error (.badConfiguration _) | .error (.launchFailed _) => 255

/-- The command line is right, the settings can be made, and the launcher reports of the child
that it has not ended. -/
def Unended (environment : Variables) (answer : Bytes → FileAnswer) (launcher : Launcher)
    (line : CommandLine) : Prop :=
  ∃ query settings status, Query.ofCommandLine? line = some query ∧
    (Settings.load environment answer).result = .ok settings ∧
    (launcher (launched settings query)).result = .ok status ∧ status.raw &&& 127 = 127

theorem result_exitCode (result : Except ForwardError Int) :
    (exitCode (result.mapError ForwardError.failure)).result = some (codeOf result) := by
  rcases result with error | code
  · cases error <;> rfl
  · rfl

theorem result_outcome_ok (program : Bytes) (status : WaitStatus) :
    (outcome program (.ok status)).result = status.shellCode?.map fun code => .ok (code : Int) := by
  rw [outcome]
  cases status.shellCode? <;> rfl

theorem result_outcome_error (program : Bytes) (failure : Failure) :
    ∃ result, (outcome program (.error failure)).result = some result ∧
      ∀ code, result = .ok code → code = 126 ∨ code = 127 := by
  obtain ⟨kind, message⟩ := failure
  cases kind
  case notFound => exact ⟨.ok 127, rfl, fun _ same => .inr (Except.ok.inj same).symm⟩
  case permissionDenied => exact ⟨.ok 126, rfl, fun _ same => .inl (Except.ok.inj same).symm⟩
  all_goals exact ⟨_, rfl, nofun⟩

theorem result_outcome_eq_none_iff {program : Bytes} {launched : Except Failure WaitStatus} :
    (outcome program launched).result = none ↔
      ∃ status, launched = .ok status ∧ status.raw &&& 127 = 127 := by
  cases launched with
  | error failure =>
      obtain ⟨result, returned, -⟩ := result_outcome_error program failure
      simp [returned]
  | ok status => simp [result_outcome_ok, WaitStatus.shellCode?_eq_none_iff]

theorem code_of_outcome {program : Bytes} {launched : Except Failure WaitStatus} {code : Int}
    (returned : (outcome program launched).result = some (.ok code)) : 0 ≤ code ∧ code ≤ 255 := by
  cases launched with
  | error failure =>
      obtain ⟨result, known, codes⟩ := result_outcome_error program failure
      have := codes code (Option.some.inj (known.symm.trans returned))
      omega
  | ok status =>
      rw [result_outcome_ok, Option.map_eq_some_iff] at returned
      obtain ⟨known, shellCode, ⟨⟩⟩ := returned
      have := WaitStatus.shellCode?_lt shellCode
      omega

section Run

variable (environment : Variables) (answer : Bytes → FileAnswer) (launcher : Launcher)
  (line : CommandLine)

theorem result_commandLine :
    (commandLine environment answer launcher line).result =
      match Query.ofCommandLine? line, (Settings.load environment answer).result with
      | none, _ => some (.error (.usage line.program))
      | some _, .error error => some (.error (.badConfiguration error))
      | some query, .ok settings =>
          (outcome settings.program (launcher (launched settings query)).result).result := by
  cases read : Query.ofCommandLine? line with
  | none =>
      obtain ⟨events, -, run⟩ := commandLine_of_wrong_usage environment answer launcher read
      rw [run]
  | some query =>
      cases made : (Settings.load environment answer).result with
      | error error =>
          obtain ⟨events, -, run⟩ := commandLine_of_bad_configuration launcher read made
          rw [run]
      | ok settings =>
          obtain ⟨front, -, run⟩ := commandLine_of_settings launcher read made
          obtain ⟨back, -, ran⟩ := runQuery_eq launcher query (mode_of_load made)
          rw [run, ran]

theorem result_tool :
    (tool environment answer launcher line).result =
      (commandLine environment answer launcher line).result.map
        fun result => (result, codeOf result) := by
  cases ended : (commandLine environment answer launcher line).result with
  | none =>
      rw [tool, Run.bind_of_abort ended]
      rfl
  | some result =>
      rw [tool_of_result (congrArg (Run.mk _) ended), result_exitCode]
      rfl

variable {environment answer launcher line}

theorem result_commandLine_eq_none_iff :
    (commandLine environment answer launcher line).result = none ↔
      Unended environment answer launcher line := by
  rw [result_commandLine, Unended]
  cases Query.ofCommandLine? line with
  | none => simp
  | some query =>
      cases (Settings.load environment answer).result with
      | error error => simp
      | ok settings => simp [result_outcome_eq_none_iff]

theorem code_of_commandLine {code : Int}
    (returned : (commandLine environment answer launcher line).result = some (.ok code)) :
    0 ≤ code ∧ code ≤ 255 := by
  rw [result_commandLine] at returned
  split at returned
  · cases returned
  · cases returned
  · exact code_of_outcome returned

theorem seen_codeOf {result : Except ForwardError Int}
    (returned : (commandLine environment answer launcher line).result = some result) :
    (codeOf result % 256).toNat = seenOf result := by
  rcases result with error | code
  · cases error <;> rfl
  · obtain ⟨nonneg, le⟩ := code_of_commandLine returned
    rw [codeOf, seenOf, Int.emod_eq_of_lt nonneg (by omega)]

/-- A launcher that comes back has told nothing fatal. -/
def Returns (launcher : Launcher) : Prop :=
  ∀ words, ∀ notice ∈ (launcher words).notices, notice.severity ≠ Severity.fatal

theorem proper_tellAll (condition : Bool) : (tellAll condition).Proper := by
  rw [tellAll]
  split
  · exact .emit _ nofun
  · exact .pure ()

theorem proper_loadSettings : (loadSettings environment answer).Proper := by
  refine .returned fun event member => ?_
  obtain ⟨notice, -, rfl⟩ := List.mem_map.mp member
  exact nofun

theorem proper_launchWords (mode : Mode) (command : Command) :
    (launchWords mode command).Proper := by
  cases mode with
  | direct | shell => exact .pure _
  | other number => exact .abort rfl

theorem proper_launch (returns : Returns launcher) (words : List Bytes) :
    (launch launcher words).Proper := by
  refine .returned fun event member => ?_
  rcases List.mem_append.mp member with early | last
  · rcases List.mem_cons.mp early with rfl | told
    · exact Bool.false_ne_true
    · obtain ⟨notice, present, rfl⟩ := List.mem_map.mp told
      simpa [Event.isFatal] using returns words notice present
  · obtain rfl := List.mem_singleton.mp last
    exact Bool.false_ne_true

theorem proper_outcome (program : Bytes) (launched : Except Failure WaitStatus) :
    (outcome program launched).Proper := by
  rcases launched with ⟨kind, message⟩ | status
  · cases kind
    case notFound | permissionDenied =>
      have told := Run.Proper.tell (.notLaunched message) Severity.error_ne_fatal
      exact told.bind fun _ => .pure _
    all_goals exact .pure _
  · refine (Run.Proper.tell (.finished program status) Severity.info_ne_fatal).bind fun _ => ?_
    cases status.shellCode? with
    | none => exact .abort rfl
    | some code => exact .pure _

theorem proper_runQuery (returns : Returns launcher) (settings : Settings) (query : Query) :
    (runQuery settings launcher query).Proper := by
  refine (Run.Proper.emit (.echo _) nofun).bind fun _ => ?_
  refine (Run.Proper.tell (.running _) Severity.info_ne_fatal).bind fun _ => ?_
  refine (proper_launchWords _ _).bind fun words => ?_
  exact (proper_launch returns words).bind fun ended => proper_outcome _ ended

theorem proper_commandLine (returns : Returns launcher) :
    (commandLine environment answer launcher line).Proper := by
  refine (proper_tellAll _).bind fun _ => ?_
  cases Query.ofCommandLine? line with
  | none => exact .pure _
  | some query =>
      refine proper_loadSettings.bind fun loaded => ?_
      cases loaded with
      | error error => exact .pure _
      | ok settings =>
          refine (proper_tellAll _).bind fun _ => ?_
          refine (Run.Proper.tell (.resolved _ _) Severity.info_ne_fatal).bind fun _ => ?_
          exact proper_runQuery returns settings query

theorem proper_exitCode (result : Except Failure Int) : (exitCode result).Proper := by
  rcases result with ⟨kind, message⟩ | code
  · cases kind
    case invalidArgument => exact (Run.Proper.emit (.complain _) nofun).bind fun _ => .pure _
    all_goals
      exact (Run.Proper.tell (.failed message) Severity.error_ne_fatal).bind fun _ => .pure _
  · exact .pure code

theorem proper_tool (returns : Returns launcher) :
    (tool environment answer launcher line).Proper := by
  refine (proper_commandLine returns).bind fun result => ?_
  exact (proper_exitCode _).bind fun code => .pure _

end Run

/-- The tool is aborted exactly by a status whose low seven bits are all set, and so is every
process that runs it, under whatever threshold.  Any other run has a result, whose exit code is
known by its low eight bits. -/
theorem aborts_iff_unended (environment : Variables) (answer : Bytes → FileAnswer)
    (launcher : Launcher) (line : CommandLine) :
    let run := tool environment answer launcher line
    (run.result = none ↔ Unended environment answer launcher line) ∧
    (Returns launcher → ∀ labels threshold,
      let process := (Console.opening threshold).run labels run
      process.1 = run.result ∧
        (process.2.log.aborted = true ↔ Unended environment answer launcher line)) ∧
    (∀ code, (commandLine environment answer launcher line).result = some (.ok code) →
      0 ≤ code ∧ code ≤ 255) ∧
    (∀ result code, run.result = some (result, code) →
      (commandLine environment answer launcher line).result = some result ∧
        code = codeOf result ∧ (code % 256).toNat = seenOf result) := by
  intro run
  have aborts : run.result = none ↔ Unended environment answer launcher line := by
    rw [← result_commandLine_eq_none_iff, result_tool, Option.map_eq_none_iff]
  refine ⟨aborts, ?_, fun code => code_of_commandLine, ?_⟩
  · intro returns labels threshold process
    have proper : run.Proper := proper_tool returns
    have performed := Console.run_of_proper labels proper threshold
    have ended : process.2.log.aborted = run.result.isNone :=
      congrArg (fun after => after.2.log.aborted) performed
    refine ⟨congrArg Prod.fst performed, ?_⟩
    rw [ended, Option.isNone_iff_eq_none, aborts]
  · intro result code returned
    rw [result_tool, Option.map_eq_some_iff] at returned
    obtain ⟨_, ended, ⟨⟩⟩ := returned
    exact ⟨ended, rfl, seen_codeOf ended⟩

/-- A status with all bits set aborts the tool also when only what is fatal is written. -/
theorem aborts_iff_unended_negative :
    let environment : Variables := fun _ => none
    let launcher : Launcher := fun _ =>
      { notices := [.spawned (ascii "./trade.py") 7], result := .ok ⟨-1⟩ }
    let line : CommandLine := ⟨ascii "tdloc", [ascii "Sol", ascii "10"]⟩
    let labels : Labels := ⟨fun _ => ascii "tool/run", fun _ => 7, Bytes.ofNat⟩
    let run := tool environment (fun _ => .missing) launcher line
    let process := (Console.opening Severity.fatal).run labels run
    Returns launcher ∧ Unended environment (fun _ => .missing) launcher line ∧
      run.result = none ∧ process.1 = none ∧ process.2.log.aborted = true := by
  intro environment launcher line labels run process
  have returns : Returns launcher := by
    intro words notice member
    obtain rfl := List.mem_singleton.mp member
    exact Severity.info_ne_fatal
  have unended : Unended environment (fun _ => .missing) launcher line :=
    ⟨⟨ascii "Sol", ascii "10", []⟩, _, ⟨-1⟩, rfl, rfl, rfl, rfl⟩
  obtain ⟨aborts, performed, -⟩ := aborts_iff_unended environment (fun _ => .missing) launcher line
  obtain ⟨result, ended⟩ := performed returns labels Severity.fatal
  have aborted := aborts.mpr unended
  exact ⟨returns, unended, aborted, result.trans aborted, ended.mpr unended⟩

section Host

variable (showPid : Pid → Bytes) (world : Host.World) (line : CommandLine)

theorem notices_launcher (words : List Bytes) :
    (world.launcher words).notices =
      Session.noticesSince {} (Children.launch world.resolve words {}).2 := by
  rw [Host.World.launcher]
  rcases Children.launch world.resolve words {} with ⟨_ | job, system⟩ <;> rfl

/-- What a host tells of its children is never fatal. -/
theorem returns_launcher : Returns world.launcher := by
  intro words notice member
  rw [notices_launcher, Session.noticesSince] at member
  obtain ⟨call, -, told⟩ := List.mem_filterMap.mp member
  cases call with
  | spawn called child =>
      cases child with
      | none => cases told
      | some pid =>
          obtain rfl := Option.some.inj told
          exact Severity.info_ne_fatal
  | kill child =>
      obtain rfl := Option.some.inj told
      show Severity.warning ≠ Severity.fatal
      decide
  | setInterrupt | setQuit | reap => cases told

theorem ending_run :
    let environment := world.environment.toVariables
    (Tool.run showPid world line).ending =
      match (commandLine environment world.answer world.launcher line).result with
      | some result => .exited (seenOf result)
      | none => .signaled Tool.abortSignal := by
  intro environment
  rw [Tool.run, result_tool]
  cases ended : (commandLine environment world.answer world.launcher line).result with
  | none => rfl
  | some result => exact congrArg WaitStatus.Ending.exited (seen_codeOf ended)

/-- On a host, too, the tool is aborted by nothing else. -/
theorem ending_run_eq_signaled_iff :
    (Tool.run showPid world line).ending = .signaled Tool.abortSignal ↔
      Unended world.environment.toVariables world.answer world.launcher line := by
  rw [ending_run, ← result_commandLine_eq_none_iff]
  cases (commandLine world.environment.toVariables world.answer world.launcher line).result with
  | none => simp
  | some result => simp

end Host

end Forward

end TradeLocal

import TradeLocal.Forward
import TradeLocal.Proofs.WaitStatus

/-!
# The outcomes of forwarding

A run of the tool ends in one of three ways: the command line was wrong, the settings could
not be made, or the command was run.  Each has its own exit code, output and launches.
-/

namespace TradeLocal

namespace Event

/-- Nothing is written past the log, and nothing is launched. -/
def Quiet (events : List Event) : Prop :=
  echoed events = [] ∧ complaints events = [] ∧ launches events = []

theorem quiet_nil : Quiet [] := ⟨rfl, rfl, rfl⟩

theorem Quiet.append {first second : List Event} (firstQuiet : Quiet first)
    (secondQuiet : Quiet second) : Quiet (first ++ second) := by
  obtain ⟨echoedFirst, complaintsFirst, launchesFirst⟩ := firstQuiet
  obtain ⟨echoedSecond, complaintsSecond, launchesSecond⟩ := secondQuiet
  refine ⟨?_, ?_, ?_⟩
  · rw [echoed_append, echoedFirst, echoedSecond, List.append_nil]
  · rw [complaints_append, complaintsFirst, complaintsSecond, List.append_nil]
  · rw [launches_append, launchesFirst, launchesSecond, List.append_nil]

theorem quiet_notices {α : Type} (notice : α → Notice) (told : List α) :
    Quiet (told.map fun value => .notice (notice value)) := by
  induction told with
  | nil => exact quiet_nil
  | cons value rest ih => exact ih

/-- Whatever is echoed has been written by the time of any launch. -/
def EchoedFirst (events : List Event) : Prop :=
  ∀ before words after, events = before ++ .launch words :: after →
    echoed before = echoed events

theorem echoedFirst_append {front back : List Event} (noLaunch : launches front = [])
    (noEcho : echoed back = []) : EchoedFirst (front ++ back) := by
  intro before words after split
  rw [echoed_append, noEcho, List.append_nil]
  rcases List.append_eq_append_iff.mp split with ⟨middle, rfl, rfl⟩ | ⟨middle, rfl, rest⟩
  · rw [echoed_append, List.append_eq_nil_iff] at noEcho
    rw [echoed_append, noEcho.1, List.append_nil]
  · cases middle with
    | nil => rw [List.append_nil]
    | cons event middle =>
        obtain rfl : Event.launch words = event := by simpa using congrArg List.head? rest
        simp [launches] at noLaunch

end Event

namespace Forward

open Event

/-- What a run of the tool shows: its result and exit code, what it has written to standard
output and to standard error, and the argument vectors it had run. -/
structure Shown where
  result : Except Failure Int
  code : Int
  out : Bytes
  err : Bytes
  launches : List (List Bytes)

def Shown.ofRun? (run : Run (Except ForwardError Int × Int)) : Option Shown :=
  run.result.map fun (result, code) =>
    { result := result.mapError ForwardError.failure
      code := code
      out := echoed run.events
      err := complaints run.events
      launches := Event.launches run.events }

/-- A launch that can be reported: it failed, or the child is known to have ended. -/
def Decodable (launched : Except Failure WaitStatus) : Prop :=
  ∀ status, launched = .ok status → status.lowBits ≠ 127

/-- The result that a launch leads to.  The low bits of a wait status are 0 for a child that
exited, with its code in the second byte, and else the signal that ended it. -/
def reported : Except Failure WaitStatus → Except Failure Int
  | .error ⟨.notFound, _⟩ => .ok 127
  | .error ⟨.permissionDenied, _⟩ => .ok 126
  | .error ⟨_, message⟩ => .error ⟨.internal, message⟩
  | .ok status =>
      .ok (if status.lowBits = 0 then status.secondByte else 128 + status.lowBits)

/-- The argument vector that settings have run for a query. -/
def launched (settings : Settings) (query : Query) : List Bytes :=
  let command : Command := ⟨settings.program, query⟩
  if settings.mode = .shell then [ascii "/bin/sh", ascii "-c", command.render]
  else command.words

/-- What is expected of a run, by what the command line and the configuration hold. -/
def expected (launcher : Launcher) (line : CommandLine) (loaded : Except LoadError Settings) :
    Shown :=
  match Query.ofCommandLine line, loaded with
  | .error _, _ =>
      let usage := ascii "Usage: " ++ line.program ++ ascii " <place> <ly> ..."
      { result := .error ⟨.invalidArgument, usage⟩
        code := 1
        out := []
        err := usage ++ [Byte.newline]
        launches := [] }
  | .ok _, .error error =>
      { result :=
          .error ⟨.failedPrecondition, ascii "Bad configuration: " ++ error.failure.message⟩
        code := -1
        out := []
        err := []
        launches := [] }
  | .ok query, .ok settings =>
      let command : Command := ⟨settings.program, query⟩
      let result := reported (launcher (launched settings query)).result
      { result := result
        code := match result with
          | .ok code => code
          | .error _ => -1
        out := ascii "$ " ++ command.render ++ [Byte.newline]
        err := []
        launches := [launched settings query] }

@[simp]
theorem mapError_ok (code : Int) :
    (Except.ok code).mapError ForwardError.failure = .ok code := rfl

@[simp]
theorem mapError_error (error : ForwardError) :
    (Except.error error : Except ForwardError Int).mapError ForwardError.failure =
      .error error.failure := rfl

theorem quiet_tellAll (condition : Bool) :
    ∃ events, Quiet events ∧ tellAll condition = ⟨events, some ()⟩ := by
  cases condition with
  | true => exact ⟨[.setThreshold .info], ⟨rfl, rfl, rfl⟩, rfl⟩
  | false => exact ⟨[], quiet_nil, rfl⟩

theorem quiet_loadSettings (environment : Variables) (answer : Bytes → FileAnswer) :
    Quiet (loadSettings environment answer).events :=
  quiet_notices Notice.load _

theorem mode_of_load {environment : Variables} {answer : Bytes → FileAnswer} {settings : Settings}
    (loaded : (Settings.load environment answer).result = .ok settings) :
    settings.mode = .direct ∨ settings.mode = .shell := by
  simp only [Settings.load] at loaded
  cases read : (Config.load environment answer (Settings.configPath environment)).result with
  | error error => simp [read, Except.map] at loaded
  | ok file =>
      obtain rfl : Settings.resolve environment (Settings.baseOf environment) file = settings := by
        simpa [read, Except.map] using loaded
      cases on : Settings.isOn environment file Setting.shellMode <;>
        simp [Settings.resolve, on]

theorem quiet_outcome (program : Bytes) (launched : Except Failure WaitStatus) :
    Quiet (outcome program launched).events := by
  rcases launched with ⟨kind, message⟩ | status
  · cases kind <;> exact ⟨rfl, rfl, rfl⟩
  · rw [outcome]
    cases status.shellCode? <;> exact ⟨rfl, rfl, rfl⟩

theorem result_outcome (program : Bytes) {launched : Except Failure WaitStatus}
    (decodable : Decodable launched) :
    ∃ result, (outcome program launched).result = some result ∧
      result.mapError ForwardError.failure = reported launched := by
  rcases launched with ⟨kind, message⟩ | status
  · cases kind <;> exact ⟨_, rfl, rfl⟩
  · rw [outcome, WaitStatus.shellCode?_of_lowBits (decodable status rfl)]
    refine ⟨_, rfl, ?_⟩
    by_cases exited : status.lowBits = 0 <;> simp [reported, exited]

theorem launchWords_eq {settings : Settings} (query : Query)
    (meaningful : settings.mode = .direct ∨ settings.mode = .shell) :
    launchWords settings.mode ⟨settings.program, query⟩ = pure (launched settings query) := by
  rcases meaningful with direct | shell
  · simp [launched, direct, launchWords]
  · simp [launched, shell, launchWords, shellPath, shellOption]

/-- The echo comes first, then the one launch, and nothing is written past the log after
it. -/
theorem runQuery_eq {settings : Settings} (launcher : Launcher) (query : Query)
    (meaningful : settings.mode = .direct ∨ settings.mode = .shell) :
    let words := launched settings query
    let ended := outcome settings.program (launcher words).result
    ∃ back, Quiet back ∧
      runQuery settings launcher query =
        ⟨[.echo (ascii "$ " ++ Command.render ⟨settings.program, query⟩ ++ [Byte.newline]),
            .notice (.running settings.mode)] ++ .launch words :: back, ended.result⟩ := by
  intro words ended
  refine ⟨(launcher words).notices.map .notice ++
    [.childOutput (launcher words).out (launcher words).err] ++ ended.events, ?_, ?_⟩
  · exact ((quiet_notices id _).append ⟨rfl, rfl, rfl⟩).append (quiet_outcome _ _)
  · rw [runQuery, launchWords_eq query meaningful]
    rfl

theorem commandLine_of_wrong_usage {line : CommandLine} (environment : Variables)
    (answer : Bytes → FileAnswer) (launcher : Launcher)
    (wrong : Query.ofCommandLine? line = none) :
    ∃ events, Quiet events ∧ commandLine environment answer launcher line =
      ⟨events, some (.error (.usage line.program))⟩ := by
  obtain ⟨events, quiet, told⟩ := quiet_tellAll (meansYes ((environment Setting.verbose).getD []))
  refine ⟨events ++ [], quiet.append quiet_nil, ?_⟩
  rw [commandLine, told, wrong]
  rfl

theorem commandLine_of_bad_configuration {environment : Variables}
    {answer : Bytes → FileAnswer} {line : CommandLine} {query : Query} {error : LoadError}
    (launcher : Launcher) (read : Query.ofCommandLine? line = some query)
    (failed : (Settings.load environment answer).result = .error error) :
    ∃ events, Quiet events ∧ commandLine environment answer launcher line =
      ⟨events, some (.error (.badConfiguration error))⟩ := by
  obtain ⟨events, quiet, told⟩ := quiet_tellAll (meansYes ((environment Setting.verbose).getD []))
  refine ⟨events ++ ((loadSettings environment answer).events ++ []),
    quiet.append ((quiet_loadSettings environment answer).append quiet_nil), ?_⟩
  rw [commandLine, told, read]
  have loaded : (loadSettings environment answer).result = some (.error error) :=
    congrArg some failed
  simp only [Run.mk_bind, Run.bind_of_result loaded]
  rfl

theorem commandLine_of_settings {environment : Variables} {answer : Bytes → FileAnswer}
    {line : CommandLine} {query : Query} {settings : Settings} (launcher : Launcher)
    (read : Query.ofCommandLine? line = some query)
    (made : (Settings.load environment answer).result = .ok settings) :
    ∃ events, Quiet events ∧ commandLine environment answer launcher line =
      ⟨events ++ (runQuery settings launcher query).events,
        (runQuery settings launcher query).result⟩ := by
  obtain ⟨events, quiet, told⟩ := quiet_tellAll (meansYes ((environment Setting.verbose).getD []))
  obtain ⟨more, moreQuiet, moreTold⟩ := quiet_tellAll settings.verbose
  refine ⟨events ++ ((loadSettings environment answer).events ++ (more ++
    [.notice (.resolved settings.baseDirectory settings.program)])), ?_, ?_⟩
  · exact quiet.append ((quiet_loadSettings environment answer).append
      (moreQuiet.append ⟨rfl, rfl, rfl⟩))
  · have loaded : (loadSettings environment answer).result = some (.ok settings) :=
      congrArg some made
    rw [commandLine, told, read]
    simp [Run.bind_of_result loaded, moreTold, Run.tell, Run.emit]

theorem ofCommandLine_eq (line : CommandLine) :
    Query.ofCommandLine line =
      match Query.ofCommandLine? line with
      | some query => .ok query
      | none => .error (Query.usageFailure line) := rfl

theorem mem_launches_tool {environment : Variables} {answer : Bytes → FileAnswer}
    {launcher : Launcher} {line : CommandLine} {words : List Bytes}
    (member : words ∈ launches (commandLine environment answer launcher line).events) :
    words ∈ launches (tool environment answer launcher line).events := by
  cases ended : (commandLine environment answer launcher line).result with
  | none => rw [tool, Run.bind_of_abort ended]; exact member
  | some result => rw [tool, Run.bind_of_result ended]; simp [member]

theorem tool_of_result {environment : Variables} {answer : Bytes → FileAnswer}
    {launcher : Launcher} {line : CommandLine} {events : List Event}
    {result : Except ForwardError Int}
    (run : commandLine environment answer launcher line = ⟨events, some result⟩) :
    tool environment answer launcher line =
      ⟨events ++ (exitCode (result.mapError ForwardError.failure)).events,
        (exitCode (result.mapError ForwardError.failure)).result.map (result, ·)⟩ := by
  rw [tool, run, Run.mk_bind]
  cases coded : (exitCode (result.mapError ForwardError.failure)).result with
  | none => simp [Run.bind_of_abort coded]
  | some code => simp [Run.bind_of_result coded]

/-- Only wrong usage is told on standard error. -/
theorem exitCode_reported (launched : Except Failure WaitStatus) :
    Quiet (exitCode (reported launched)).events ∧
      (exitCode (reported launched)).result =
        some (match reported launched with
          | .ok code => code
          | .error _ => -1) := by
  rcases launched with ⟨kind, message⟩ | status
  · cases kind <;> exact ⟨⟨rfl, rfl, rfl⟩, rfl⟩
  · exact ⟨quiet_nil, rfl⟩

/-- A run of the tool whose launches can be reported ends as expected, and has written its
echo by the time of its launch. -/
theorem shown_tool (environment : Variables) (answer : Bytes → FileAnswer) (launcher : Launcher)
    (line : CommandLine)
    (decodable : ∀ words ∈ launches (tool environment answer launcher line).events,
      Decodable (launcher words).result) :
    Shown.ofRun? (tool environment answer launcher line) =
        some (expected launcher line (Settings.load environment answer).result) ∧
      EchoedFirst (tool environment answer launcher line).events := by
  cases read : Query.ofCommandLine? line with
  | none =>
      obtain ⟨events, ⟨noEcho, noComplaint, noLaunch⟩, run⟩ :=
        commandLine_of_wrong_usage environment answer launcher read
      have coded : exitCode (.error (ForwardError.usage line.program).failure) =
          ⟨[.complain (CommandLine.usage line.program ++ [Byte.newline])], some 1⟩ := rfl
      rw [tool_of_result run, mapError_error, coded]
      refine ⟨?_, echoedFirst_append noLaunch rfl⟩
      simp [Shown.ofRun?, expected, ofCommandLine_eq, read, noEcho, noComplaint, noLaunch, echoed,
        complaints, launches, ForwardError.failure, CommandLine.usage]
  | some query =>
      cases made : (Settings.load environment answer).result with
      | error error =>
          obtain ⟨events, ⟨noEcho, noComplaint, noLaunch⟩, run⟩ :=
            commandLine_of_bad_configuration launcher read made
          have coded : exitCode (.error (ForwardError.badConfiguration error).failure) =
              ⟨[.notice (.failed (ForwardError.badConfiguration error).failure.message)],
                some (-1)⟩ := rfl
          rw [tool_of_result run, mapError_error, coded]
          refine ⟨?_, echoedFirst_append noLaunch rfl⟩
          simp [Shown.ofRun?, expected, ofCommandLine_eq, read, noEcho, noComplaint, noLaunch,
            echoed, complaints, launches, ForwardError.failure]
      | ok settings =>
          obtain ⟨front, ⟨noEcho, noComplaint, noLaunch⟩, run⟩ :=
            commandLine_of_settings launcher read made
          obtain ⟨back, ⟨backEcho, backComplaint, backLaunch⟩, ran⟩ :=
            runQuery_eq launcher query (mode_of_load made)
          rw [ran] at run
          have member : launched settings query ∈
              launches (commandLine environment answer launcher line).events := by
            rw [run]
            simp [launches]
          obtain ⟨result, ended, reports⟩ := result_outcome settings.program
            (decodable _ (mem_launches_tool member))
          obtain ⟨⟨codeEcho, codeComplaint, codeLaunch⟩, coded⟩ :=
            exitCode_reported (launcher (launched settings query)).result
          rw [ended] at run
          rw [tool_of_result run, reports, coded, ← List.append_assoc, List.append_assoc]
          refine ⟨?_, echoedFirst_append ?_ ?_⟩
          · simp [Shown.ofRun?, expected, ofCommandLine_eq, read, noEcho, noComplaint, noLaunch,
              backEcho, backComplaint, backLaunch, codeEcho, codeComplaint, codeLaunch, echoed,
              complaints, launches, reports]
          · simp [noLaunch, launches]
          · simp [backEcho, codeEcho, echoed]

/-- A launcher that refuses as invalid what it is given has not made the usage wrong. -/
theorem shown_tool_refused :
    let environment : Variables := fun _ => none
    let launcher : Launcher := fun _ => { result := .error ⟨.invalidArgument, ascii "E"⟩ }
    let line : CommandLine := ⟨ascii "tdloc", [ascii "Sol", ascii "10"]⟩
    let run := tool environment (fun _ => .missing) launcher line
    (∀ words ∈ launches run.events, Decodable (launcher words).result) ∧
      Shown.ofRun? run = some
        { result := .error ⟨.internal, ascii "E"⟩
          code := -1
          out := ascii "$ ./trade.py local \"Sol\" --ly \"10\"" ++ [Byte.newline]
          err := []
          launches :=
            [[ascii "./trade.py", ascii "local", ascii "Sol", ascii "--ly", ascii "10"]] } := by
  intro environment launcher line run
  have decodable : ∀ words ∈ launches run.events, Decodable (launcher words).result := by
    intro words _ status ended
    cases ended
  exact ⟨decodable, (shown_tool environment _ launcher line decodable).1⟩

end Forward

end TradeLocal

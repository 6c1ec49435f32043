import TradeLocal.Command
import TradeLocal.Run

/-!
# Forwarding

The whole of what the tool does with a command line: check it, make the settings, echo the
command, have it run, and turn the outcome into an exit code.  How a program is run and how
a file is read are parameters.
-/

namespace TradeLocal

structure Launch where
  notices : List Notice := []
  out : Bytes := []
  err : Bytes := []
  result : Except Failure WaitStatus

/-- A way to run an argument vector to completion. -/
abbrev Launcher := List Bytes → Launch

/-- The failures of a forwarding.  Only a wrong command line counts as wrong usage, also
when a lower layer has found an argument invalid. -/
inductive ForwardError where
  | usage (program : Bytes)
  | badConfiguration (error : LoadError)
  | launchFailed (message : Bytes)
  deriving DecidableEq, Repr

def ForwardError.failure : ForwardError → Failure
  | usage program => ⟨.invalidArgument, CommandLine.usage program⟩
  | badConfiguration error =>
      ⟨.failedPrecondition, ascii "Bad configuration: " ++ error.failure.message⟩
  | launchFailed message => ⟨.internal, message⟩

namespace ExitCode

def cannotExecute : Int := 126

def notFound : Int := 127

def usage : Int := 1

def failure : Int := -1

end ExitCode

namespace Forward

def shellPath : Bytes := ascii "/bin/sh"

def shellOption : Bytes := ascii "-c"

def launchWords (mode : Mode) (command : Command) : Run (List Bytes) :=
  match mode with
  | .direct => pure command.words
  | .shell => pure [shellPath, shellOption, command.render]
  | .other _ => Run.abort .unknownMode

def launch (launcher : Launcher) (words : List Bytes) : Run (Except Failure WaitStatus) :=
  let launch := launcher words
  ⟨.launch words :: launch.notices.map .notice ++ [.childOutput launch.out launch.err],
    some launch.result⟩

def outcome (program : Bytes) : Except Failure WaitStatus → Run (Except ForwardError Int)
  | .error ⟨.notFound, message⟩ => do
      Run.tell (.notLaunched message)
      return .ok ExitCode.notFound
  | .error ⟨.permissionDenied, message⟩ => do
      Run.tell (.notLaunched message)
      return .ok ExitCode.cannotExecute
  -- What the launcher finds invalid is not the user's command line.
  | .error ⟨_, message⟩ => return .error (.launchFailed message)
  | .ok status => do
      Run.tell (.finished program status)
      match status.shellCode? with
      | some code => return .ok code
      | none => Run.abort (.unexpectedStatus status)

def runQuery (settings : Settings) (launcher : Launcher) (query : Query) :
    Run (Except ForwardError Int) := do
  let command : Command := ⟨settings.program, query⟩
  Run.emit (.echo (ascii "$ " ++ command.render ++ [Byte.newline]))
  Run.tell (.running settings.mode)
  let words ← launchWords settings.mode command
  outcome command.program (← launch launcher words)

def loadSettings (environment : Variables) (answer : Bytes → FileAnswer) :
    Run (Except LoadError Settings) :=
  let loaded := Settings.load environment answer
  ⟨loaded.notices.map fun notice => .notice (.load notice), some loaded.result⟩

def tellAll (condition : Bool) : Run Unit :=
  if condition then Run.emit (.setThreshold .info) else pure ()

/-- Forward a command line.  It is checked before anything is read, so that wrong usage is
reported as such whatever the configuration holds. -/
def commandLine (environment : Variables) (answer : Bytes → FileAnswer) (launcher : Launcher)
    (line : CommandLine) : Run (Except ForwardError Int) := do
  tellAll (meansYes ((environment Setting.verbose).getD []))
  match Query.ofCommandLine? line with
  | none => return .error (.usage line.program)
  | some query =>
      match ← loadSettings environment answer with
      | .error error => return .error (.badConfiguration error)
      | .ok settings => do
          tellAll settings.verbose
          Run.tell (.resolved settings.baseDirectory settings.program)
          runQuery settings launcher query

/-- The exit code of a result.  The message of wrong usage is written as it is; other
failures go to the log. -/
def exitCode : Except Failure Int → Run Int
  | .ok code => return code
  | .error ⟨.invalidArgument, message⟩ => do
      Run.emit (.complain (message ++ [Byte.newline]))
      return ExitCode.usage
  | .error ⟨_, message⟩ => do
      Run.tell (.failed message)
      return ExitCode.failure

def tool (environment : Variables) (answer : Bytes → FileAnswer) (launcher : Launcher)
    (line : CommandLine) : Run (Except ForwardError Int × Int) := do
  let result ← commandLine environment answer launcher line
  let code ← exitCode (result.mapError ForwardError.failure)
  return (result, code)

end Forward

end TradeLocal

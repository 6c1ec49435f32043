import TradeLocal.Forward
import TradeLocal.Session

/-!
# The tool on a host

The tool reads its settings from the environment and the files of a host, and runs its
command there.
-/

namespace TradeLocal

open TradeLocal.Host

namespace Host.World

/-- What the host answers when a configuration file is asked for.  What is not a plain file
has no contents to read. -/
def answer (world : World) (path : Bytes) : FileAnswer :=
  match find world.files world.here path with
  | .ok ⟨_, _, .file text _⟩ => .contents text
  | .ok _ => .contents []
  | .error .notFound => .missing
  | .error error => .refused error

def launcher (world : World) : Launcher := fun words =>
  let (result, system) := Children.launch world.resolve words {}
  let notices := Session.noticesSince {} system
  match result with
  | .error failure => { notices, result := .error failure }
  | .ok job =>
      let finished := world.finish job
      { notices, out := finished.out, err := finished.err, result := .ok finished.status }

end Host.World

/-- The line of a notice in the log of the tool: the severity and the text, up to the first
NUL. -/
def Notice.line (showPid : Pid → Bytes) (notice : Notice) : Bytes :=
  Bytes.cutAtNul (notice.severity.name ++ ascii ": " ++ notice.text showPid) ++ [Byte.newline]

namespace Tool

structure Visible where
  out : Bytes
  err : Bytes
  ending : WaitStatus.Ending
  deriving DecidableEq, Repr

def abortSignal : Nat := 6

/-- Run the tool on a host, with processes named by `showPid` in its log.  Of the exit code
the low eight bits are seen. -/
def run (showPid : Pid → Bytes) (world : World) (line : CommandLine) : Visible :=
  let run := Forward.tool world.environment.toVariables world.answer world.launcher line
  { out := Event.standardOutput run.events
    err := Event.standardError (Notice.line showPid) Severity.warning run.events
    ending :=
      match run.result with
      | some (_, code) => .exited (code % 256).toNat
      | none => .signaled abortSignal }

end Tool

end TradeLocal

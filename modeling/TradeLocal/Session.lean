import TradeLocal.Children.Table
import TradeLocal.Host.Layout
import TradeLocal.Host.Signal
import TradeLocal.Programs.Start

/-!
# Sessions

A session is a host with the children that were started on it.  What a child does to the
files happens when it is waited for; a child that is killed before does nothing.
-/

namespace TradeLocal

open TradeLocal.Host

structure Finished where
  status : WaitStatus
  out : Bytes
  err : Bytes
  files : Files

def WaitStatus.ofEnding : Ending → WaitStatus
  | .exited code => ofExitCode (Int32.ofNat code)
  | .signaled signal => ofSignal (Int32.ofNat signal)

/-- How a program is seen to end that is stopped.  One that cannot go on has no stack left. -/
def endingOfStop : Stop → WaitStatus.Ending
  | .ended ending => ending
  | .asleep | .exhausted => .signaled Signal.overflow

namespace Host.World

def ofLayout (layout : Layout) (environment : Environment) : World :=
  ⟨layout.root, workingDirectory, environment⟩

/-- A process on the host, with nothing to read, whose output is seen from outside. -/
def workplace (world : World) : Workplace :=
  let input : Object :=
    match find world.files [] (ascii "/dev/null") with
    | .ok found => .node found.number
    | .error _ => .out
  { machine :=
      { files := world.files
        opened :=
          #[{ object := input, reads := true, writes := false },
            { object := .out, reads := false, writes := true },
            { object := .err, reads := false, writes := true }] }
    process := { here := world.here, descriptors := [(0, 0), (1, 1), (2, 2)] } }

def finish (world : World) (job : Job) : Finished :=
  let (result, workplace) :=
    (Programs.start world.environment job).run.run world.workplace
  let ending :=
    match result with
    | .ok code => .exited (code % 256)
    | .error stop => endingOfStop stop
  let machine := workplace.machine
  ⟨WaitStatus.ofEnding ending, machine.out.reverse.flatten, machine.err.reverse.flatten,
    machine.files⟩

end Host.World

structure Session where
  world : World
  table : Children.Table Job := {}

namespace Session

structure Outcome where
  reply : Children.Reply Job
  finished : Option Finished
  notices : List Notice

def noticesSince (earlier later : Children.System Job) : List Notice :=
  (Children.System.callsSince earlier later).filterMap Children.Call.notice?

def step (session : Session) (operation : Children.Operation) : Outcome × Session :=
  let (reply, table) := session.table.step session.world.resolve operation
  let notices := noticesSince session.table.system table.system
  match reply.finished? with
  | none => (⟨reply, none, notices⟩, { session with table })
  | some job =>
      let finished := session.world.finish job
      (⟨reply, some finished, notices⟩,
        ⟨{ session.world with files := finished.files }, table⟩)

def close (session : Session) : List Notice :=
  noticesSince session.table.system session.table.dropAll.system

end Session

end TradeLocal

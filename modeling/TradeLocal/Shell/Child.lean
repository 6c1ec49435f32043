import TradeLocal.Shell.Lines
import TradeLocal.Shell.Redirect

/-!
# Copies of a shell

Some commands are run by a copy of the shell, of which only what it did to the machine remains.
A copy in the background is put off until it is waited for, or until it would have ended while
something else was run.
-/

namespace TradeLocal.Shell

open TradeLocal.Host

namespace Script

/-- Say that a signal has ended a process, unless it is one that is common at the end of
pipes and terminals. -/
def mention : WaitStatus.Ending → Script Unit
  | .exited _ => pure ()
  | .signaled signal => do
      unless signal == Signal.interrupt || signal == Signal.pipe do
        err (Signal.text signal ++ [Byte.newline])

def endingOf {α : Type} (exitCode : α → Nat) (result : Except Leave α) :
    Script WaitStatus.Ending := do
  match result with
  | .ok value => return .exited (exitCode value % 256)
  | .error (.stop (.ended ending)) => return ending
  | .error (.stop .exhausted) => return .signaled Signal.overflow
  | .error leave => throw leave

/-- The context of a copy: commands for signals are forgotten, and so are children. -/
def copied (context : Context) : Context :=
  { context with
    traps := context.traps.filter (·.2.isEmpty), arrived := [], children := []
    savedStatus := none }

def inCopy {α : Type} (nested : Nested) (change : Process → Process) (script : Script α) :
    Script WaitStatus.Ending := do
  let before ← get
  let parent := before.workplace.process
  let number := before.workplace.machine.nextProcess
  work (Work.changeMachine fun machine => { machine with nextProcess := number + 1 })
  work (Work.changeProcess fun process =>
    change { process with number, ancestors := process.number :: process.ancestors })
  changeContext copied
  let result ← attempt do leaveShell nested (← attempt script)
  work (Work.changeProcess fun _ => parent)
  modify fun state => { state with context := before.context, buffer := before.buffer }
  let ending ← endingOf id result
  receive
  return ending

structure Outlook where
  /-- The time at which it ends. -/
  time : Nat
  ending : WaitStatus.Ending
  /-- The shell as it is afterwards. -/
  state : State

/-- Run a command in the background up to its end or up to a time.  Of the shell that asks only
what all processes share is changed. -/
def runDeferred (nested : Nested) (limit : Option Nat) (deferred : Deferred) :
    Script (Except Leave Nat) := do
  let before ← get
  let machine := before.workplace.machine
  let deadline :=
    match limit, machine.deadline with
    | some limit, some deadline => some (min limit deadline)
    | limit, deadline => limit <|> deadline
  set { before with
    context := deferred.context, buffer := []
    deferred := before.deferred.filter (·.process.number != deferred.process.number)
    workplace :=
      { machine := { machine with clock := deferred.start, deadline }
        process := deferred.process } }
  let result ← attempt do leaveShell nested (← attempt (nested.background deferred))
  modify fun state =>
    { state with
      context := before.context, buffer := before.buffer
      workplace :=
        { state.workplace with
          process := before.workplace.process
          machine := { state.workplace.machine with deadline := machine.deadline } } }
  return result

/-- What becomes of a command in the background up to a time; nothing if it has not ended by
then. -/
def outlook (nested : Nested) (limit : Option Nat) (deferred : Deferred) :
    Script (Option Outlook) := do
  let before ← get
  let result ← runDeferred nested limit deferred
  let after ← get
  set before
  match result with
  | .error (.stop .asleep) => return none
  | result => do
      let ending ← endingOf id result
      let machine := after.workplace.machine
      let number := deferred.process.number
      return some
        { time := machine.clock, ending
          state :=
            { after with
              finished := (number, ending) :: after.finished
              workplace :=
                { after.workplace with
                  machine := { machine with clock := before.workplace.machine.clock } } } }

/-- The one that ends first; of two at the same time the one that was begun first. -/
def earliest : Option Outlook → Option Outlook → Option Outlook
  | none, second => second
  | first, none => first
  | some first, some second => if second.time < first.time then some second else some first

def backgroundLimit : Nat := 100000

def settle (nested : Nested) (limit : Option Nat) : Script Unit :=
  iterate
    (fun _ => do
      let deferred := (← get).deferred
      let first ← deferred.foldlM
        (fun first deferred => return earliest first (← outlook nested limit deferred))
        none
      match first with
      | none => return .inr ()
      | some outlook => do
          set outlook.state
          receive
          return .inl ())
    (pure ()) backgroundLimit ()

def settleNow (nested : Nested) : Script Unit := do
  unless (← get).deferred.isEmpty do
    settle nested (some (← work Work.machine).clock)

def notice : Script Unit := do
  let finished := (← get).finished
  changeContext fun context =>
    { context with
      children := context.children.map fun child =>
        { child with isNoticed := child.isNoticed || (finished.lookup child.process).isSome } }

def meanwhile {α : Type} (nested : Nested) (script : Script α) :
    Script α := do
  settleNow nested
  let result ← script
  settleNow nested
  notice
  return result

def waitUntilEnded (nested : Nested) (number : Nat) : Script Unit := do
  match (← get).deferred.find? (·.process.number == number) with
  | none => pure ()
  | some deferred =>
      match ← outlook nested none deferred with
      | none => throw (.stop .asleep)
      | some outlook => do
          settle nested (some outlook.time)
          work (Work.changeMachine fun machine =>
            { machine with clock := max machine.clock outlook.time })

def waitForWriters (nested : Nested) (pipe : Nat) : Script Unit :=
  iterate
    (fun _ => do
      let state ← get
      let writes (deferred : Deferred) : Bool :=
        deferred.process.descriptors.any fun (_, number) =>
          (state.workplace.machine.opened[number]?).any fun file =>
            file.writes && file.object == .pipe pipe
      match state.deferred.find? writes with
      | none => return .inr ()
      | some deferred => do
          waitUntilEnded nested deferred.process.number
          return .inl ())
    (pure ()) backgroundLimit ()

/-- Send a signal to a process in the background.  It stops where it is when the signal
arrives. -/
def killDeferred (nested : Nested) (signal : Nat) (deferred : Deferred) :
    Script Unit := do
  let isDeadly := Signal.effect signal == .ends &&
    (signal == Signal.kill || !deferred.process.ignored.contains signal)
  if isDeadly then
    let clock := (← work Work.machine).clock
    match ← outlook nested (some clock) deferred with
    | some outlook => set outlook.state
    | none => do
        let _ ← runDeferred nested (some clock) deferred
        modify fun state =>
          { state with
            finished := (deferred.process.number, .signaled signal) :: state.finished
            workplace :=
              { state.workplace with machine := { state.workplace.machine with clock } } }

end Script

end TradeLocal.Shell

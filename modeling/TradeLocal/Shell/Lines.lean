import TradeLocal.Shell.Grammar
import TradeLocal.Shell.State

/-!
# Running texts

A text is read and run one command line after the other, so that what a line does can change
how the next one is read.
-/

namespace TradeLocal.Shell

open TradeLocal.Host

structure Nested where
  /-- Run a command, and say its status. -/
  command : Position → Command → Script Nat
  /-- Run a command in the background. -/
  background : Deferred → Script Nat
  /-- Have the process run a program in its place. -/
  start : Environment → Job → Work Nat

namespace Script

/-- Read the next command line.  There is none at the end of the text.  The lines of a file are
shown as they are read, if that is wanted. -/
def readLine (isFile : Bool) (reader : Reader) : Script (Option Command × Reader) := do
  let context ← context
  let (result, reader) := Reading.commandLine.run.run
    { reader with
      aliases := context.aliases, documents := context.documents, shown := []
      showsLines := isFile && context.flags.contains .verbose }
  unless reader.shown.isEmpty do err reader.shown.reverse.flatten
  changeContext fun context =>
    { context with documents := reader.documents, readLine := reader.source.line }
  match result with
  | .error mistake => failSyntax mistake.line mistake.error
  | .ok command? => return (command?, reader)

def readerOf (text : Bytes) : Reader :=
  { source := { text } }

def hasEnded (reader : Reader) : Bool :=
  reader.isPushedBack && reader.token == .endOfFile

def runText (nested : Nested) (isFile : Bool) (position : Position) (text : Bytes) :
    Script Nat := do
  let before ← context
  ensuring
    (iterate
      (fun (reader, status) => do
        let (command?, reader) ← readLine isFile reader
        match command? with
        | none => return .inr status
        | some command =>
            let isLast := position.isLast && hasEnded reader
            let result ← nested.command { position with isLast } command
            let status := if command.isNothing then status else result
            if (← context).jump.isSome then return .inr status else return .inl (reader, status))
      (throw (.stop .exhausted)) repetitionLimit (readerOf text, 0))
    (changeContext fun context => { context with readLine := before.readLine })

def runLines (nested : Nested) (position : Position) (text : Bytes) : Script Nat :=
  runText nested false position text

/-- How often the end of a file is passed over by a shell that is told to ignore it. -/
def ignoredEnds : Nat := 50

/-- Run the lines of a file up to the first jump.  A return arrives at its end. -/
def runFile (nested : Nested) (isTop : Bool) (text : Bytes) : Script Nat := do
  let status ← runText nested true {} (text.filter (· != 0))
  let context ← context
  match context.jump with
  | some (.returning _) => changeContext fun context => { context with jump := none }
  | some _ => pure ()
  | none =>
      if isTop && context.flags.contains .ignoreeof then
        err (List.replicate ignoredEnds (ascii "\nUse \"exit\" to leave shell.\n")).flatten
  return status

/-- Run the commands for the signals that have arrived, the lowest signal first.  The status
is afterwards what it was before, unless such a command returns with another. -/
def runTraps (nested : Nested) : Script Unit := do
  let start ← context
  unless start.arrived.isEmpty do
    let status := start.savedStatus.getD start.status
    changeContext fun context => { context with savedStatus := some status }
    for signal in List.range (Signal.last + 1) do
      let context ← context
      if context.jump.isNone && context.arrived.contains signal then
        changeContext fun context =>
          { context with arrived := context.arrived.filter (· != signal) }
        match context.traps.lookup signal with
        | none => pure ()
        | some command =>
            let _ ← runLines nested {} command
            unless (← Script.context).jump == some (.returning true) do setStatus status
    changeContext fun context => { context with savedStatus := start.savedStatus }

def receiveSignal (signal : Nat) : Script Unit := do
  let context ← context
  if (← work Work.process).ignored.contains signal && signal != Signal.kill then pure ()
  else if signal != Signal.kill && (context.traps.lookup signal).isSome then
    changeContext fun context => { context with arrived := signal :: context.arrived }
  else
    match Signal.effect signal with
    | .ends => throw (.stop (.ended (.signaled signal)))
    | .nothing | .stops => pure ()

def receive : Script Unit := do
  let workplace := (← get).workplace
  unless workplace.machine.sent.isEmpty do
    let (own, others) :=
      workplace.machine.sent.partition fun (receiver, _) => receiver == workplace.process.number
    work (Work.changeMachine fun machine => { machine with sent := others })
    for (_, signal) in own.reverse do receiveSignal signal

def abandon (leave : Leave) : Script Unit :=
  changeContext fun context =>
    let keeps := leave == .exit || context.jump == some (.returning false)
    { context with
      status := if keeps then context.savedStatus.getD context.status else context.status
      savedStatus := none, jump := none, loops := 0, isTracing := false, command? := none }

def endShell (nested : Nested) : Script Nat := do
  let context ← context
  match context.traps.lookup 0 with
  | none => return context.status
  | some command => do
      changeContext fun context =>
        { context with
          traps := context.traps.filter (·.1 != 0)
          savedStatus := some context.status, jump := none }
      match ← attempt (runLines nested {} command) with
      | .ok _ => return context.status
      | .error (.stop stop) => throw (.stop stop)
      | .error leave => do
          abandon leave
          status

def leaveShell {α : Type} (nested : Nested) (result : Except Leave α) : Script Nat := do
  match result with
  | .ok _ => endShell nested
  | .error (.stop stop) => throw (.stop stop)
  | .error leave => do
      abandon leave
      endShell nested

end Script

end TradeLocal.Shell

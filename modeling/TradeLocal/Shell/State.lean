import TradeLocal.Host.Execute
import TradeLocal.Host.Machine
import TradeLocal.Host.Signal
import TradeLocal.Shell.Syntax

/-!
# State of a shell

What a running script can read and change, the ways in which it can leave what it is doing,
and the requests that most commands make of both.
-/

namespace TradeLocal.Shell

open TradeLocal.Host

/-- The options of a shell, in the order in which they are listed. -/
inductive Flag where
  | errexit
  | noglob
  | ignoreeof
  | interactive
  | monitor
  | noexec
  | stdin
  | xtrace
  | verbose
  | vi
  | emacs
  | noclobber
  | allexport
  | notify
  | nounset
  | privileged
  | nolog
  | debug
  deriving DecidableEq, Repr

def Flag.table : List (Flag × Bytes × Option UInt8) :=
  [(.errexit, "errexit", 'e'), (.noglob, "noglob", 'f'), (.ignoreeof, "ignoreeof", 'I'),
    (.interactive, "interactive", 'i'), (.monitor, "monitor", 'm'), (.noexec, "noexec", 'n'),
    (.stdin, "stdin", 's'), (.xtrace, "xtrace", 'x'), (.verbose, "verbose", 'v'),
    (.vi, "vi", 'V'), (.emacs, "emacs", 'E'), (.noclobber, "noclobber", 'C'),
    (.allexport, "allexport", 'a'), (.notify, "notify", 'b'), (.nounset, "nounset", 'u'),
    (.privileged, "privileged", 'p'), (.nolog, "nolog", ' '), (.debug, "debug", ' ')].map
    fun (flag, name, letter) =>
      (flag, ascii name, if letter = ' ' then none else some (Byte.ofChar letter))

/-- A variable; one without a value may still be marked. -/
structure Variable where
  name : Bytes
  value : Option Bytes
  isExported : Bool := false
  isReadOnly : Bool := false
  /-- It keeps its marks when it is unset. -/
  isFixed : Bool := false
  deriving DecidableEq, Repr

inductive Saved where
  | variable (name : Bytes) (before : Option Variable)
  | flags (before : List Flag)
  deriving DecidableEq, Repr

/-- A jump that is under way: commands are passed over until it has arrived. -/
inductive Jump where
  | breakLoop
  | continueLoop
  /-- Leave a function or a file, with a status of its own or the last one. -/
  | returning (hasStatus : Bool)
  deriving DecidableEq, Repr

structure Child where
  /-- The number under which the shell lists it. -/
  slot : Nat
  /-- Its last process. -/
  process : Nat
  /-- How many processes it has. -/
  stages : Nat
  /-- Whether it has been waited for. -/
  isWaited : Bool := false
  /-- Whether the shell has noticed that it has ended. -/
  isNoticed : Bool := false
  deriving DecidableEq, Repr

structure Context where
  /-- The name under which the shell reports errors. -/
  name : Bytes := []
  /-- The builtin that is at work. -/
  command? : Option Bytes := none
  arguments : List Bytes := []
  bindings : List Variable := []
  /-- The local scopes, the innermost first. -/
  scopes : List (List Saved) := []
  functions : List (Bytes × Command) := []
  aliases : List (Bytes × Bytes) := []
  documents : Array Word := #[]
  flags : List Flag := []
  /-- The exit code of the last command. -/
  status : Nat := 0
  /-- The exit code of the last command substitution of the present command. -/
  substituted : Nat := 0
  /-- The line of the present command. -/
  line : Nat := 0
  /-- The line up to which the script has been read. -/
  readLine : Nat := 1
  /-- How many loops the present command is in. -/
  loops : Nat := 0
  /-- How many functions the present command is in. -/
  calls : Nat := 0
  jump : Option Jump := none
  /-- How many loops the jump leaves. -/
  levels : Nat := 0
  /-- The exit code that an `exit` without one has where the last one is not to count. -/
  savedStatus : Option Nat := none
  /-- The number of the process of which this shell is a copy. -/
  rootProcess : Nat := 2
  /-- The last process in the background. -/
  background? : Option Nat := none
  /-- The jobs in the background, the latest first. -/
  children : List Child := []
  /-- Commands to run when a signal arrives; 0 stands for the end of the shell. -/
  traps : List (Nat × Bytes) := []
  /-- Signals that have arrived and whose commands have not been run. -/
  arrived : List Nat := []
  /-- Where the search for options goes on: the argument, and the place in it. -/
  optionIndex : Nat := 1
  optionOffset : Option Nat := none
  /-- Where the programs were found that have been run. -/
  hashed : List (Bytes × Nat) := []
  /-- The path of the current directory as the shell knows it. -/
  directory : Bytes := []
  previousDirectory : Bytes := []
  /-- Whether a trace is being written, which is not itself traced. -/
  isTracing : Bool := false

inductive Target where
  | file (access : Access) (path : Bytes)
  /-- To where another descriptor leads, or nowhere. -/
  | duplicate (source : Option Nat)
  | document (text : Word)

structure Opening where
  descriptor : Nat
  target : Target

structure Position where
  /-- The shell ends with the command. -/
  isLast : Bool := false
  /-- The command's failure does not end the shell. -/
  isTested : Bool := false
  deriving DecidableEq, Repr

structure Deferred where
  process : Process
  context : Context
  command : Command
  openings : List Opening
  isTested : Bool
  /-- The time at which the command began. -/
  start : Nat

structure State where
  workplace : Workplace
  context : Context
  /-- What the present builtin has written and what has not been passed on, the latest
  first. -/
  buffer : List Bytes := []
  /-- The commands in the background that have not been run, the oldest first. -/
  deferred : List Deferred := []
  /-- How the processes in the background ended that have been run. -/
  finished : List (Nat × WaitStatus.Ending) := []

inductive Leave where
  /-- Something has failed, and has been reported. -/
  | failure
  | exit
  /-- A program could not take the place of the shell. -/
  | notReplaced
  /-- The process of the shell does not go on. -/
  | stop (stop : Stop)
  deriving DecidableEq, Repr

/-- Something a shell does.  What it has changed remains also when it is left early. -/
abbrev Script := ExceptT Leave (StateM State)

namespace Script

def context : Script Context :=
  return (← get).context

def changeContext (change : Context → Context) : Script Unit :=
  modify fun state => { state with context := change state.context }

def work {α : Type} (work : Work α) : Script α :=
  ExceptT.mk do
    let state ← get
    let (result, workplace) := work.run.run state.workplace
    set { state with workplace }
    return result.mapError .stop

/-- Do something and say how it was left, keeping all it has changed. -/
def attempt {α : Type} (script : Script α) : Script (Except Leave α) :=
  ExceptT.mk (return .ok (← script.run))

def ensuring {α : Type} (script : Script α) (last : Script Unit) : Script α := do
  let result ← attempt script
  last
  match result with
  | .ok value => return value
  | .error leave => throw leave

def status : Script Nat :=
  return (← context).status

def setStatus (status : Nat) : Script Unit :=
  changeContext fun context => { context with status }

def setLine (line : Nat) : Script Unit :=
  changeContext fun context => { context with line }

def isOn (flag : Flag) : Script Bool :=
  return (← context).flags.contains flag

def out (text : Bytes) : Script Unit :=
  modify fun state => { state with buffer := text :: state.buffer }

/-- Pass on what builtins have written.  Says whether that worked. -/
def flush : Script Bool := do
  let buffer := (← get).buffer
  modify fun state => { state with buffer := [] }
  match buffer.reverse.flatten with
  | [] => return true
  | text => return (← work (Work.write 1 text)).isOk

def err (text : Bytes) : Script Unit := do
  let _ ← work (Work.write 2 text)

/-- What stands before a message: the shell's name, the line, and the builtin at work. -/
def messageStart : Script Bytes := do
  let context ← context
  let command :=
    match context.command? with
    | none => []
    | some command => command ++ ascii ": "
  return context.name ++ ascii ": " ++ Bytes.ofNat context.line ++ ascii ": " ++ command

def complain (text : Bytes) : Script Unit := do
  err ((← messageStart) ++ text ++ [Byte.newline])

def misuse : Nat := 2

def fail {α : Type} (text : Bytes) : Script α := do
  complain text
  let _ ← flush
  setStatus misuse
  throw .failure

def failNumber {α : Type} (word : Bytes) : Script α :=
  fail (ascii "Illegal number: " ++ word)

def failSyntax {α : Type} (line : Nat) (error : SyntaxError) : Script α := do
  changeContext fun context => { context with line }
  fail error.text

end Script

end TradeLocal.Shell

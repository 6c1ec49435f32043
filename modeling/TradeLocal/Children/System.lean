import TradeLocal.Run

/-!
# The system as a parent of processes sees it

A parent asks the system to change what a signal does to it, to start a child, to kill one
and to reap one.  The state keeps the children that were started and not yet reaped, and
every request with the signal actions in force when it was made.

What a child will do is a parameter `Job`: it is handed over when the child is reaped.
-/

namespace TradeLocal.Children

inductive Action where
  | standard
  | ignored
  | handled (handler : Nat)
  deriving DecidableEq, Repr

/-- The actions for the two signals a terminal sends to interrupt a program. -/
structure Signals where
  interrupt : Action := .standard
  quit : Action := .standard
  deriving DecidableEq, Repr

def Signals.bothIgnored : Signals :=
  ⟨.ignored, .ignored⟩

inductive Call where
  | setInterrupt (action : Action)
  | setQuit (action : Action)
  /-- Start a program; no child if the system refuses. -/
  | spawn (words : List Bytes) (child : Option Pid)
  | kill (child : Pid)
  | reap (child : Pid)
  deriving DecidableEq, Repr

def Call.notice? : Call → Option Notice
  | spawn words (some child) => some (.spawned (words.headD []) child)
  | kill child => some (.killing child)
  | _ => none

structure System (Job : Type) where
  signals : Signals := {}
  /-- The number of the next child. -/
  nextPid : Pid := 1
  /-- The children that were started and not yet reaped, the latest first. -/
  children : List (Pid × Job) := []
  /-- The requests so far, the oldest first, with the actions in force before each. -/
  history : List (Signals × Call) := []

namespace System

variable {Job : Type}

def record (call : Call) (system : System Job) : System Job :=
  { system with history := system.history ++ [(system.signals, call)] }

def setInterrupt (action : Action) (system : System Job) : System Job :=
  { system.record (.setInterrupt action) with
    signals := { system.signals with interrupt := action } }

def setQuit (action : Action) (system : System Job) : System Job :=
  { system.record (.setQuit action) with signals := { system.signals with quit := action } }

def start (words : List Bytes) (job : Job) (system : System Job) : Pid × System Job :=
  (system.nextPid,
    { system.record (.spawn words (some system.nextPid)) with
      nextPid := system.nextPid + 1
      children := (system.nextPid, job) :: system.children })

/-- Ask for a child to be killed.  It stays until it is reaped. -/
def kill (child : Pid) (system : System Job) : System Job :=
  system.record (.kill child)

def reap (child : Pid) (system : System Job) : Option Job × System Job :=
  (system.children.lookup child,
    { system.record (.reap child) with
      children := system.children.filter fun other => other.1 != child })

def callsSince (earlier later : System Job) : List Call :=
  (later.history.drop earlier.history.length).map Prod.snd

end System

/-- The actions a guard restores when it ends. -/
structure Guard where
  interrupt : Action
  quit : Action
  deriving DecidableEq, Repr

namespace Guard

variable {Job α : Type}

def acquire (system : System Job) : Guard × System Job :=
  (⟨system.signals.interrupt, system.signals.quit⟩,
    (system.setInterrupt .ignored).setQuit .ignored)

/-- Restore the remembered actions, in the opposite order. -/
def release (guard : Guard) (system : System Job) : System Job :=
  (system.setQuit guard.quit).setInterrupt guard.interrupt

def around (body : System Job → α × System Job) (system : System Job) : α × System Job :=
  let acquired := acquire system
  let done := body acquired.2
  (done.1, release acquired.1 done.2)

end Guard

end TradeLocal.Children

import TradeLocal.Children.System

/-!
# Handles of children

A handle owns at most one child, and a child is reaped through the handle that owns it:
by waiting for it, or by killing it when the handle is dropped or overwritten first.

Two requests can be refused: to start a program, and to wait for a process that is no child.
Setting up what a new child does about signals, changing the action of a signal and killing a
child that is left always succeed, and their failures are left out.
-/

namespace TradeLocal.Children

structure Handle where
  child : Option Pid := none
  deriving DecidableEq, Repr

inductive SpawnError where
  | noProgram
  | refused (program : Bytes) (error : SystemError)
  deriving DecidableEq, Repr

def SpawnError.failure : SpawnError → Failure
  | noProgram => ⟨.failedPrecondition, ascii "No program to spawn"⟩
  | refused program error => error.failure (ascii "Failed to run '" ++ program ++ ascii "'")

def notWaitable : Failure :=
  ⟨.failedPrecondition, ascii "Process was already waited on"⟩

def noChild (process : Pid) : Failure :=
  SystemError.noChildren.failure (ascii "waitpid(" ++ Bytes.ofNat process ++ ascii ")")

/-- How the system answers a request to start an argument vector. -/
abbrev Resolver (Job : Type) := List Bytes → Except SystemError Job

namespace Handle

variable {Job : Type}

def waitable (handle : Handle) : Bool :=
  handle.child.isSome

/-- Start a program.  An empty program name is refused without asking the system. -/
def spawn (resolve : Resolver Job) (words : List Bytes) (system : System Job) :
    Except SpawnError Handle × System Job :=
  match words with
  | [] | [] :: _ => (.error .noProgram, system)
  | program :: arguments =>
      match resolve (program :: arguments) with
      | .error error =>
          (.error (.refused program error), system.record (.spawn (program :: arguments) none))
      | .ok job =>
          let started := system.start (program :: arguments) job
          (.ok ⟨some started.1⟩, started.2)

/-- Wait for the child, with the interrupting signals ignored meanwhile.  Once the child has
been reaped the handle owns nothing; a handle whose wait failed is as it was. -/
def wait (handle : Handle) (system : System Job) :
    Except Failure Job × Handle × System Job :=
  match handle.child with
  | none => (.error notWaitable, handle, system)
  | some child =>
      match Guard.around (System.reap child) system with
      | (some job, after) => (.ok job, {}, after)
      | (none, after) => (.error (noChild child), handle, after)

/-- Give the handle up.  A child it still owns is killed and reaped. -/
def drop (handle : Handle) (system : System Job) : System Job :=
  match handle.child with
  | none => system
  | some child => (handle.wait (system.kill child)).2.2

end Handle

/-- Run a program to completion: start it and wait for it, with the interrupting signals
ignored from before the start until after the child has been reaped. -/
def launch {Job : Type} (resolve : Resolver Job) (words : List Bytes) :
    System Job → Except Failure Job × System Job :=
  Guard.around fun system =>
    match Handle.spawn resolve words system with
    | (.error error, after) => (.error error.failure, after)
    | (.ok handle, started) =>
        let waited := handle.wait started
        (waited.1, waited.2.1.drop waited.2.2)

end TradeLocal.Children

import TradeLocal.Programs.Collect
import TradeLocal.Programs.Compare
import TradeLocal.Programs.Concatenate
import TradeLocal.Programs.Condition
import TradeLocal.Programs.Copy
import TradeLocal.Programs.Count
import TradeLocal.Programs.Expression
import TradeLocal.Programs.Grep
import TradeLocal.Programs.Launch
import TradeLocal.Programs.Link
import TradeLocal.Programs.List
import TradeLocal.Programs.Locate
import TradeLocal.Programs.Permission
import TradeLocal.Programs.Print
import TradeLocal.Programs.Sequence
import TradeLocal.Programs.Sort
import TradeLocal.Programs.System
import TradeLocal.Programs.Touch
import TradeLocal.Programs.Translate
import TradeLocal.Shell.Startup

/-!
# Starting programs

Which program of the system a job runs.  A program may start others, and a shell runs commands
inside of commands; how deep that goes is limited, as the stack of a process is.
-/

namespace TradeLocal.Programs

open TradeLocal.Host TradeLocal.Shell

def perform (launcher : Launcher) (call : Call) : Utility → Work Nat
  | .shell | .succeed => return 0
  | .fail => return 1
  | .echo => echo call
  | .printf => printf call
  | .cat => concatenate call
  | .sleep => sleep call
  | .test => test call false
  | .bracket => test call true
  | .env => env launcher call
  | .printenv => printenv call
  | .list => list call
  | .baseName => baseName call
  | .directoryName => directoryName call
  | .count => count call
  | .sort => sort call
  | .translate => translate call
  | .expr => expression call
  | .sequence => sequence call
  | .head => head call
  | .tail => tail call
  | .remove => remove call
  | .removeDirectory => removeDirectory call
  | .makeDirectory => makeDirectory call
  | .touch => touch call
  | .copy => copyFiles call
  | .move => moveFiles call
  | .makeLink => makeLinks call
  | .changeMode => changeMode call
  | .unique => unique call
  | .cut => cut call
  | .tee => tee call
  | .reverseLines => reverseLines call
  | .reverseBytes => reverseBytes call
  | .numberLines => numberLines call
  | .fold => fold call
  | .paste => paste call
  | .compareSorted => compareSorted call
  | .compareBytes => compareBytes call
  | .repeatLine => repeatLine call
  | .readLink => readLink call
  | .realPath => realPath call
  | .workingDirectory => workingDirectory call
  | .userName => userName call
  | .userIdentity => userIdentity call
  | .systemName => systemName call
  | .xargs => xargs launcher call
  | .grep => grep call
  | .timeout => timeout launcher call
  | .which => which call
  | .terminalName => terminalName call

/-- Do what a program does up to its exit, and write then what it has put aside. -/
def finishing (call : Call) (work : Work Nat) : Work Nat := do
  match ← ExceptT.mk (return .ok (← work.run)) with
  | .ok code => do
      call.flush
      return code
  | .error (.ended (.exited code)) => do
      call.flush
      return code
  | .error stop => throw stop

/-- Run a program in a process, one level above what it runs. -/
def startAbove (nested : Nested) (environment : Environment) (job : Job) : Work Nat :=
  match job.utility with
  | .shell => Shell.start nested environment job.words
  | utility =>
      let call : Call :=
        { name := job.words.headD [], arguments := job.words.tail, environment }
      finishing call (perform nested.start call utility)

def above (nested : Nested) : Nested where
  command := Script.runCommand nested
  background := Script.runInBackground nested
  start := startAbove nested

def exhausted : Nested where
  command _ _ := throw (.stop .exhausted)
  background _ := throw (.stop .exhausted)
  start _ _ := throw .exhausted

/-- How deep commands and programs may stand in each other. -/
def depthLimit : Nat := 20000

def nested : Nested :=
  Nat.repeat above depthLimit exhausted

def start (environment : Environment) (job : Job) : Work Nat :=
  nested.start environment job

end TradeLocal.Programs

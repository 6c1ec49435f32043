import TradeLocal.Bytes

/-!
# The log

Entries have a severity, any integer, and are written to standard error when they reach
the threshold in force.  A fatal entry is written whatever the threshold is, and ends the
process.
-/

namespace TradeLocal

/-- How grave an entry is.  Four levels have names; every integer is allowed. -/
abbrev Severity := Int

namespace Severity

def info : Severity := 0
def warning : Severity := 1
def error : Severity := 2
def fatal : Severity := 3

def name (severity : Severity) : Bytes :=
  if severity = info then ascii "INFO"
  else if severity = warning then ascii "WARNING"
  else if severity = error then ascii "ERROR"
  else if severity = fatal then ascii "FATAL"
  else ascii "UNKNOWN"

end Severity

namespace Log

/-- The threshold asked for, but never above the gravest named level. -/
def clamp (requested : Severity) : Severity :=
  min requested Severity.fatal

def passes (threshold severity : Severity) : Bool :=
  threshold ≤ severity || severity == Severity.fatal

structure Entry where
  file : Bytes
  line : Int
  severity : Severity
  text : Bytes
  deriving DecidableEq, Repr

def baseName (path : Bytes) : Bytes :=
  (path.reverse.takeWhile (· != Byte.slash)).reverse

namespace Entry

/-- The entry as it is written: the severity's name, the file's last component with the
line, and the text up to its first NUL. -/
def written (entry : Entry) : Bytes :=
  Bytes.cutAtNul
    (entry.severity.name ++ ascii ":" ++ baseName (Bytes.cutAtNul entry.file) ++ ascii "(" ++
      Bytes.ofInt entry.line ++ ascii "): " ++ entry.text) ++ [Byte.newline]

def aborts (entry : Entry) : Bool :=
  entry.severity == Severity.fatal

end Entry

inductive Use where
  | setThreshold (requested : Severity)
  | log (entry : Entry)
  deriving DecidableEq, Repr

/-- A log in use: the threshold in force, the lines written so far in order, and whether
a fatal entry has ended the process. -/
structure State where
  threshold : Severity := Severity.warning
  lines : List Bytes := []
  aborted : Bool := false
  deriving DecidableEq, Repr

/-- One use of the log.  After a fatal entry nothing more happens. -/
def State.step (state : State) (use : Use) : State :=
  if state.aborted then state
  else match use with
    | .setThreshold requested => { state with threshold := clamp requested }
    | .log entry =>
        { state with
          lines :=
            if passes state.threshold entry.severity then state.lines ++ [entry.written]
            else state.lines
          aborted := entry.aborts }

def State.run (state : State) (uses : List Use) : State :=
  uses.foldl State.step state

namespace State

variable {state : State}

theorem step_of_aborted (ended : state.aborted = true) (use : Use) : state.step use = state :=
  if_pos ended

theorem step_setThreshold (running : state.aborted = false) (requested : Severity) :
    state.step (.setThreshold requested) = { state with threshold := clamp requested } := by
  simp [step, running]

theorem step_log (running : state.aborted = false) (entry : Entry) :
    state.step (.log entry) =
      { state with
        lines :=
          if passes state.threshold entry.severity then state.lines ++ [entry.written]
          else state.lines
        aborted := entry.severity == Severity.fatal } := by
  simp [step, running, Entry.aborts]

theorem run_append (state : State) (first second : List Use) :
    state.run (first ++ second) = (state.run first).run second :=
  List.foldl_append

theorem run_concat (state : State) (uses : List Use) (use : Use) :
    state.run (uses ++ [use]) = (state.run uses).step use :=
  run_append state uses [use]

theorem run_of_aborted (ended : state.aborted = true) (uses : List Use) :
    state.run uses = state := by
  induction uses with
  | nil => rfl
  | cons use uses ih =>
      rw [run, List.foldl_cons, step_of_aborted ended]
      exact ih

end State

end Log

end TradeLocal

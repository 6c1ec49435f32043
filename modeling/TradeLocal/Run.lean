import TradeLocal.Log
import TradeLocal.Settings
import TradeLocal.WaitStatus

/-!
# Runs

A run of the tool is the list of what it does, in order, and how it ends: with a result, or
aborted.  What is written to the log is a view of that list under a threshold, so the
threshold cannot influence what the tool does.
-/

namespace TradeLocal

abbrev Pid := Nat

inductive Notice where
  | load (notice : LoadNotice)
  | resolved (baseDirectory program : Bytes)
  | running (mode : Mode)
  | spawned (program : Bytes) (pid : Pid)
  | killing (pid : Pid)
  | finished (program : Bytes) (status : WaitStatus)
  | notLaunched (message : Bytes)
  | failed (message : Bytes)
  | unknownMode
  | unexpectedStatus (status : WaitStatus)
  deriving DecidableEq, Repr

namespace Notice

def severity : Notice → Severity
  | load _ | resolved _ _ | running _ | spawned _ _ | finished _ _ => .info
  | killing _ => .warning
  | notLaunched _ | failed _ => .error
  | unknownMode | unexpectedStatus _ => .fatal

def text (showPid : Pid → Bytes) : Notice → Bytes
  | load notice => notice.text
  | resolved base program =>
      ascii "Base directory: '" ++ base ++ ascii "', program: '" ++ program ++ ascii "'"
  | running mode => ascii "Running in " ++ mode.name ++ ascii " mode"
  | spawned program pid =>
      ascii "Spawned '" ++ program ++ ascii "' as pid " ++ showPid pid
  | killing pid => ascii "Killing unwaited child " ++ showPid pid
  | finished program status => program ++ ascii " finished with " ++ status.text
  | notLaunched message => message
  | failed message => ascii "Error: " ++ message
  | unknownMode => ascii "NOTREACHED(): Unknown ExecMode"
  | unexpectedStatus status =>
      ascii "NOTREACHED(): Unexpected wait status " ++ Bytes.ofInt status.raw.toInt

end Notice

inductive Event where
  /-- Tell the log. -/
  | notice (notice : Notice)
  /-- Change the log's threshold. -/
  | setThreshold (requested : Severity)
  /-- Write to standard output. -/
  | echo (text : Bytes)
  /-- Write to standard error, past the log. -/
  | complain (text : Bytes)
  /-- Ask for a program to be run. -/
  | launch (words : List Bytes)
  /-- A child's writing to standard output and standard error. -/
  | childOutput (out err : Bytes)
  deriving DecidableEq, Repr

/-- What a computation does and how it ends; `none` stands for an abort. -/
structure Run (α : Type) where
  events : List Event
  result : Option α

namespace Run

variable {α β : Type}

protected def pure (value : α) : Run α :=
  ⟨[], some value⟩

/-- After an abort nothing more is done. -/
protected def bind (run : Run α) (next : α → Run β) : Run β :=
  match run.result with
  | none => ⟨run.events, none⟩
  | some value => ⟨run.events ++ (next value).events, (next value).result⟩

instance : Monad Run where
  pure := Run.pure
  bind := Run.bind

def emit (event : Event) : Run Unit :=
  ⟨[event], some ()⟩

def tell (notice : Notice) : Run Unit :=
  emit (.notice notice)

def abort (notice : Notice) : Run α :=
  ⟨[.notice notice], none⟩

@[simp]
theorem events_pure (value : α) : (pure value : Run α).events = [] := rfl

@[simp]
theorem result_pure (value : α) : (pure value : Run α).result = some value := rfl

@[simp]
theorem mk_bind (events : List Event) (value : α) (next : α → Run β) :
    (⟨events, some value⟩ : Run α) >>= next =
      ⟨events ++ (next value).events, (next value).result⟩ := rfl

theorem bind_of_result {run : Run α} {next : α → Run β} {value : α}
    (done : run.result = some value) :
    run >>= next = ⟨run.events ++ (next value).events, (next value).result⟩ := by
  show Run.bind run next = _
  simp [Run.bind, done]

theorem bind_of_abort {run : Run α} {next : α → Run β} (aborted : run.result = none) :
    run >>= next = ⟨run.events, none⟩ := by
  show Run.bind run next = _
  simp [Run.bind, aborted]

protected theorem id_map (run : Run α) : id <$> run = run := by
  show Run.bind run (fun value => Run.pure (id value)) = run
  rcases run with ⟨events, _ | value⟩ <;> simp [Run.bind, Run.pure]

protected theorem pure_bind (value : α) (next : α → Run β) : pure value >>= next = next value := by
  show Run.bind (Run.pure value) next = next value
  simp [Run.bind, Run.pure]

protected theorem bind_assoc {γ : Type} (run : Run α) (next : α → Run β) (last : β → Run γ) :
    run >>= next >>= last = run >>= fun value => next value >>= last := by
  show Run.bind (Run.bind run next) last = Run.bind run fun value => Run.bind (next value) last
  rcases run with ⟨events, _ | value⟩
  · simp [Run.bind]
  · rcases step : next value with ⟨later, _ | result⟩ <;> simp [Run.bind, step]

instance : LawfulMonad Run :=
  LawfulMonad.mk' Run Run.id_map Run.pure_bind Run.bind_assoc

end Run

structure Logged where
  /-- The threshold after the events. -/
  threshold : Severity
  /-- The notices that were written, in order. -/
  notices : List Notice
  deriving DecidableEq, Repr

def Logged.ofEvents (threshold : Severity) : List Event → Logged
  | [] => ⟨threshold, []⟩
  | .setThreshold requested :: rest => ofEvents (Log.clamp requested) rest
  | .notice notice :: rest =>
      let later := ofEvents threshold rest
      if Log.passes threshold notice.severity then
        { later with notices := notice :: later.notices }
      else later
  | .echo _ :: rest | .complain _ :: rest | .launch _ :: rest | .childOutput _ _ :: rest =>
      ofEvents threshold rest

namespace Event

def echoed : List Event → Bytes
  | [] => []
  | .echo text :: rest => text ++ echoed rest
  | _ :: rest => echoed rest

def complaints : List Event → Bytes
  | [] => []
  | .complain text :: rest => text ++ complaints rest
  | _ :: rest => complaints rest

def launches : List Event → List (List Bytes)
  | [] => []
  | .launch words :: rest => words :: launches rest
  | _ :: rest => launches rest

@[simp]
theorem echoed_append (first second : List Event) :
    echoed (first ++ second) = echoed first ++ echoed second := by
  induction first with
  | nil => rfl
  | cons event rest ih => cases event <;> simp [echoed, ih]

@[simp]
theorem complaints_append (first second : List Event) :
    complaints (first ++ second) = complaints first ++ complaints second := by
  induction first with
  | nil => rfl
  | cons event rest ih => cases event <;> simp [complaints, ih]

@[simp]
theorem launches_append (first second : List Event) :
    launches (first ++ second) = launches first ++ launches second := by
  induction first with
  | nil => rfl
  | cons event rest ih => cases event <;> simp [launches, ih]

/-- All that arrives on standard output: the echo and what children write. -/
def standardOutput : List Event → Bytes
  | [] => []
  | .echo text :: rest => text ++ standardOutput rest
  | .childOutput out _ :: rest => out ++ standardOutput rest
  | _ :: rest => standardOutput rest

/-- All that arrives on standard error, with a line for each notice that reaches the
threshold. -/
def standardError (line : Notice → Bytes) (threshold : Severity) : List Event → Bytes
  | [] => []
  | .setThreshold requested :: rest => standardError line (Log.clamp requested) rest
  | .notice told :: rest =>
      (if Log.passes threshold told.severity then line told else []) ++
        standardError line threshold rest
  | .complain text :: rest => text ++ standardError line threshold rest
  | .childOutput _ err :: rest => err ++ standardError line threshold rest
  | .echo _ :: rest | .launch _ :: rest => standardError line threshold rest

end Event

end TradeLocal

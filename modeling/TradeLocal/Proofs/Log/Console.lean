import TradeLocal.Run

/-!
# Performing a run

A process performs the events of a run one after the other and keeps a log.  A fatal notice ends
it wherever it stands, under every threshold.  A proper run is aborted exactly by the fatal notice
that it ends with, so that a process which performs it has the result of the run.
-/

namespace TradeLocal

theorem Severity.info_ne_fatal : info ≠ fatal := by decide

theorem Severity.error_ne_fatal : error ≠ fatal := by decide

namespace Event

def isFatal : Event → Bool
  | notice told => told.severity == Severity.fatal
  | _ => false

def isDone : Event → Bool
  | notice _ | setThreshold _ => false
  | echo _ | complain _ | launch _ | childOutput _ _ => true

def setsThreshold : Event → Bool
  | setThreshold _ => true
  | _ => false

end Event

namespace Log

theorem passes_of_le {low high severity : Severity} (le : low ≤ high)
    (passed : passes high severity = true) : passes low severity = true := by
  simp only [passes, Bool.or_eq_true, decide_eq_true_eq, beq_iff_eq] at passed ⊢
  exact passed.imp_left (Int.le_trans le)

theorem passes_fatal (threshold : Severity) : passes threshold Severity.fatal = true := by
  simp [passes]

end Log

namespace Logged

theorem ofEvents_append (threshold : Severity) (first second : List Event) :
    ofEvents threshold (first ++ second) =
      ⟨(ofEvents (ofEvents threshold first).threshold second).threshold,
        (ofEvents threshold first).notices ++
          (ofEvents (ofEvents threshold first).threshold second).notices⟩ := by
  induction first generalizing threshold with
  | nil => rfl
  | cons event rest ih =>
      cases event with
      | notice told =>
          rw [List.cons_append, ofEvents, ofEvents, ih]
          split <;> rfl
      | _ =>
          rw [List.cons_append, ofEvents, ofEvents, ih]

theorem threshold_of_unset {events : List Event} (unset : ∀ event ∈ events, ¬event.setsThreshold)
    (threshold : Severity) : (ofEvents threshold events).threshold = threshold := by
  induction events with
  | nil => rfl
  | cons event rest ih =>
      have later := ih fun other member => unset other (by simp [member])
      cases event with
      | setThreshold requested => exact absurd rfl (unset (.setThreshold requested) (by simp))
      | notice told =>
          rw [ofEvents]
          split
          · exact later
          · exact later
      | _ => exact later

end Logged

namespace Run

variable {α β : Type} {run : Run α} {next : α → Run β}

def Only (allowed : Event → Prop) (run : Run α) : Prop :=
  ∀ event ∈ run.events, allowed event

theorem Only.bind {allowed : Event → Prop} (first : run.Only allowed)
    (rest : ∀ value, (next value).Only allowed) : (run >>= next).Only allowed := by
  intro event member
  cases ended : run.result with
  | none =>
      rw [bind_of_abort ended] at member
      exact first event member
  | some value =>
      rw [bind_of_result ended] at member
      rcases List.mem_append.mp member with early | late
      · exact first event early
      · exact rest value event late

theorem Only.pure {allowed : Event → Prop} (value : α) : (pure value : Run α).Only allowed :=
  nofun

theorem Only.emit {allowed : Event → Prop} (event : Event) (allows : allowed event) :
    (emit event).Only allowed := by
  intro other member
  obtain rfl := List.mem_singleton.mp member
  exact allows

/-- The run tells nothing fatal, or it is aborted by the fatal notice that it ends with. -/
inductive Proper : Run α → Prop where
  | returned {events : List Event} {value : α} (mild : ∀ event ∈ events, ¬event.isFatal) :
      Proper ⟨events, some value⟩
  | aborted {events : List Event} {told : Notice} (mild : ∀ event ∈ events, ¬event.isFatal)
      (fatal : told.severity = Severity.fatal) : Proper ⟨events ++ [.notice told], none⟩

namespace Proper

theorem pure (value : α) : (pure value : Run α).Proper :=
  .returned nofun

theorem emit (event : Event) (mild : ¬event.isFatal) : (emit event).Proper := by
  refine .returned fun other member => ?_
  obtain rfl := List.mem_singleton.mp member
  exact mild

theorem tell (told : Notice) (mild : told.severity ≠ Severity.fatal) : (tell told).Proper :=
  emit _ (by simpa [Event.isFatal] using mild)

theorem abort {told : Notice} (fatal : told.severity = Severity.fatal) :
    (abort told : Run α).Proper := by
  have mild : ∀ event ∈ ([] : List Event), ¬event.isFatal := nofun
  exact .aborted mild fatal

theorem bind (first : run.Proper) (rest : ∀ value, (next value).Proper) :
    (run >>= next).Proper := by
  cases first with
  | @returned events value mild =>
      have both {later : List Event} (laterMild : ∀ event ∈ later, ¬event.isFatal) :
          ∀ event ∈ events ++ later, ¬event.isFatal := by
        intro event member
        exact (List.mem_append.mp member).elim (mild event) (laterMild event)
      have later := rest value
      rw [mk_bind]
      generalize next value = after at later
      cases later with
      | returned laterMild => exact .returned (both laterMild)
      | aborted laterMild fatal =>
          simp only [← List.append_assoc]
          exact .aborted (both laterMild) fatal
  | aborted mild fatal =>
      rw [bind_of_abort rfl]
      exact .aborted mild fatal

end Proper

end Run

/-- Where the notices of a log come from, and how it names processes. -/
structure Labels where
  file : Notice → Bytes
  line : Notice → Int
  showPid : Pid → Bytes

def Labels.entry (labels : Labels) (notice : Notice) : Log.Entry where
  file := labels.file notice
  line := labels.line notice
  severity := notice.severity
  text := notice.text labels.showPid

/-- A process: its log, and what it has done past the log so far. -/
structure Console where
  log : Log.State := {}
  done : List Event := []

namespace Console

variable {α : Type} (labels : Labels)

def opening (threshold : Severity) : Console where
  log := { threshold }

/-- Do one thing.  A process that was ended does nothing more. -/
def perform (console : Console) (event : Event) : Console :=
  if console.log.aborted then console
  else match event with
    | .notice told => { console with log := console.log.step (.log (labels.entry told)) }
    | .setThreshold requested => { console with log := console.log.step (.setThreshold requested) }
    | .echo _ | .complain _ | .launch _ | .childOutput _ _ =>
        { console with done := console.done ++ [event] }

/-- Do all that a run does.  It has no result if the process was ended. -/
def run (console : Console) (run : Run α) : Option α × Console :=
  let after := run.events.foldl (perform labels) console
  (if after.log.aborted then none else run.result, after)

section Perform

variable {labels} {console : Console} {event : Event}

theorem perform_of_aborted (ended : console.log.aborted = true) :
    console.perform labels event = console :=
  if_pos ended

theorem perform_notice (running : console.log.aborted = false) (told : Notice) :
    console.perform labels (.notice told) =
      { console with
        log :=
          { console.log with
            lines :=
              if Log.passes console.log.threshold told.severity then
                console.log.lines ++ [(labels.entry told).written]
              else console.log.lines
            aborted := told.severity == Severity.fatal } } := by
  rw [perform, if_neg (by simp [running])]
  simp only [Log.State.step_log running]
  rfl

theorem perform_setThreshold (running : console.log.aborted = false) (requested : Severity) :
    console.perform labels (.setThreshold requested) =
      { console with log := { console.log with threshold := Log.clamp requested } } := by
  simp [perform, Log.State.step_setThreshold running, running]

theorem perform_of_isDone (running : console.log.aborted = false) (past : event.isDone = true) :
    console.perform labels event = { console with done := console.done ++ [event] } := by
  cases event with
  | notice | setThreshold => cases past
  | echo | complain | launch | childOutput => exact if_neg (by simp [running])

end Perform

/-- The log is what a log sees of the events, and the rest is done past it. -/
theorem foldl_perform_of_mild {events : List Event} (mild : ∀ event ∈ events, ¬event.isFatal)
    {console : Console} (running : console.log.aborted = false) :
    events.foldl (perform labels) console =
      { log :=
          { threshold := (Logged.ofEvents console.log.threshold events).threshold
            lines := console.log.lines ++
              (Logged.ofEvents console.log.threshold events).notices.map
                fun notice => (labels.entry notice).written
            aborted := false }
        done := console.done ++ events.filter Event.isDone } := by
  induction events generalizing console with
  | nil =>
      obtain ⟨⟨threshold, lines, aborted⟩, done⟩ := console
      obtain rfl : aborted = false := running
      simp [Logged.ofEvents]
  | cons event rest ih =>
      have restMild : ∀ other ∈ rest, ¬other.isFatal :=
        fun other member => mild other (by simp [member])
      rw [List.foldl_cons]
      cases event with
      | notice told =>
          have notFatal : (told.severity == Severity.fatal) = false := by
            simpa [Event.isFatal] using mild (.notice told) (by simp)
          rw [perform_notice running]
          rw [ih restMild notFatal]
          by_cases passed : Log.passes console.log.threshold told.severity = true <;>
            simp [passed, Logged.ofEvents, Event.isDone]
      | setThreshold requested =>
          rw [perform_setThreshold running]
          refine (ih restMild ?_).trans ?_
          · exact running
          · simp [Logged.ofEvents, Event.isDone]
      | echo | complain | launch | childOutput =>
          rw [perform_of_isDone running rfl, List.filter_cons_of_pos rfl]
          refine (ih restMild ?_).trans ?_
          · exact running
          · simp [Logged.ofEvents]

theorem run_of_proper {run : Run α} (proper : run.Proper) (threshold : Severity) :
    (opening threshold).run labels run =
      (run.result,
        { log :=
            { threshold := (Logged.ofEvents threshold run.events).threshold
              lines := (Logged.ofEvents threshold run.events).notices.map
                fun notice => (labels.entry notice).written
              aborted := run.result.isNone }
          done := run.events.filter Event.isDone }) := by
  cases proper with
  | returned mild =>
      rw [Console.run, foldl_perform_of_mild labels mild rfl]
      simp [opening]
  | @aborted events told mild fatal =>
      have last (before : Severity) : Logged.ofEvents before [.notice told] = ⟨before, [told]⟩ := by
        simp [Logged.ofEvents, fatal, Log.passes_fatal]
      rw [Console.run, List.foldl_append, foldl_perform_of_mild labels mild rfl, List.foldl_cons,
        perform_notice rfl]
      simp [opening, fatal, Log.passes_fatal, Logged.ofEvents_append, last, Event.isDone]

/-- Of two processes that perform the same, the first under the higher threshold: they have done
the same, and the first has written no line that the second has not. -/
structure Above (first second : Console) : Prop where
  threshold : second.log.threshold ≤ first.log.threshold
  lines : first.log.lines.Sublist second.log.lines
  aborted : first.log.aborted = second.log.aborted
  done : first.done = second.done

namespace Above

variable {first second : Console}

theorem perform (above : Above first second) (event : Event) :
    Above (first.perform labels event) (second.perform labels event) := by
  cases ended : second.log.aborted with
  | true =>
      rw [perform_of_aborted (above.aborted.trans ended), perform_of_aborted ended]
      exact above
  | false =>
      have running : first.log.aborted = false := above.aborted.trans ended
      cases event with
      | notice told =>
          rw [perform_notice running, perform_notice ended]
          refine ⟨above.threshold, ?_, rfl, above.done⟩
          -- What passes the higher threshold passes the lower one too.
          have lower := @Log.passes_of_le _ _ told.severity above.threshold
          by_cases passed : Log.passes first.log.threshold told.severity = true
          · rw [if_pos passed, if_pos (lower passed)]
            exact above.lines.append_right _
          · rw [if_neg passed]
            split
            · exact above.lines.trans (List.sublist_append_left _ _)
            · exact above.lines
      | setThreshold requested =>
          rw [perform_setThreshold running, perform_setThreshold ended]
          exact ⟨Int.le_refl _, above.lines, above.aborted, above.done⟩
      | echo | complain | launch | childOutput =>
          rw [perform_of_isDone running rfl, perform_of_isDone ended rfl]
          exact ⟨above.threshold, above.lines, above.aborted, by rw [above.done]⟩

theorem foldl_perform (above : Above first second) (events : List Event) :
    Above (events.foldl (Console.perform labels) first)
      (events.foldl (Console.perform labels) second) := by
  induction events generalizing first second with
  | nil => exact above
  | cons event rest ih => exact ih (above.perform labels event)

end Above

theorem above_opening {first second : Severity} (le : second ≤ first) :
    Above (opening first) (opening second) where
  threshold := le
  lines := .refl _
  aborted := rfl
  done := rfl

theorem run_above {first second : Console} (above : Above first second) (run : Run α) :
    (first.run labels run).1 = (second.run labels run).1 ∧
      Above (first.run labels run).2 (second.run labels run).2 := by
  have after := above.foldl_perform labels run.events
  refine ⟨?_, after⟩
  rw [Console.run, Console.run, after.aborted]

end Console

end TradeLocal

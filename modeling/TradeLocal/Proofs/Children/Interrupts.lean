import TradeLocal.Children.Table

/-!
# Interrupting signals

A guard saves the actions it finds and puts them back, so guards that end in the opposite
order of their beginnings restore what the first of them found, whatever is done with
children in between.  A guard within a guard finds both signals ignored and puts just that
back, so its end opens no gap in the outer one.

Every request is recorded with the actions in force before it.  That both signals were
ignored all the time between two states is thus a statement about the history.
-/

namespace TradeLocal.Children

variable {Job α : Type}

def Signals.entering (signals : Signals) : List (Signals × Call) :=
  [(signals, .setInterrupt .ignored),
    ({ signals with interrupt := .ignored }, .setQuit .ignored)]

def Signals.leaving (signals : Signals) : List (Signals × Call) :=
  [(.bothIgnored, .setQuit signals.quit),
    ({ signals with interrupt := .ignored }, .setInterrupt signals.interrupt)]

namespace Guard

def saved (guard : Guard) : Signals :=
  ⟨guard.interrupt, guard.quit⟩

@[simp]
theorem saved_acquire (system : System Job) : (acquire system).1.saved = system.signals :=
  rfl

@[simp]
theorem signals_acquire (system : System Job) :
    (acquire system).2.signals = .bothIgnored :=
  rfl

@[simp]
theorem signals_release (guard : Guard) (system : System Job) :
    (guard.release system).signals = guard.saved :=
  rfl

@[simp]
theorem signals_around (body : System Job → α × System Job) (system : System Job) :
    (around body system).2.signals = system.signals :=
  rfl

theorem history_acquire (system : System Job) :
    (acquire system).2.history = system.history ++ system.signals.entering := by
  simp [acquire, System.setQuit, System.setInterrupt, System.record, Signals.entering]

theorem history_release {guard : Guard} {system : System Job}
    (ignored : system.signals = .bothIgnored) :
    (guard.release system).history = system.history ++ guard.saved.leaving := by
  simp [release, System.setQuit, System.setInterrupt, System.record, Signals.leaving, saved,
    ignored, Signals.bothIgnored]

end Guard

section Spawn

variable {resolve : Resolver Job} {words : List Bytes}

theorem Handle.spawn_unnamed (unnamed : words.headD [] = []) (system : System Job) :
    spawn resolve words system = (.error .noProgram, system) := by
  rcases words with _ | ⟨program, arguments⟩
  · rfl
  · obtain rfl : program = [] := unnamed
    rfl

theorem Handle.spawn_refused {error : SystemError} (named : words.headD [] ≠ [])
    (refused : resolve words = .error error) (system : System Job) :
    spawn resolve words system =
      (.error (.refused (words.headD []) error), system.record (.spawn words none)) := by
  rcases words with _ | ⟨_ | ⟨byte, program⟩, arguments⟩
  · exact absurd rfl named
  · exact absurd rfl named
  · simp [spawn, refused]

theorem Handle.spawn_started {job : Job} (named : words.headD [] ≠ [])
    (accepted : resolve words = .ok job) (system : System Job) :
    spawn resolve words system = (.ok ⟨some system.nextPid⟩, (system.start words job).2) := by
  rcases words with _ | ⟨_ | ⟨byte, program⟩, arguments⟩
  · exact absurd rfl named
  · exact absurd rfl named
  · simp [spawn, accepted, System.start]

variable (resolve words)

theorem Handle.recorded_spawn (system : System Job) :
    (Handle.spawn resolve words system).2 = system ∨
      ∃ call, (Handle.spawn resolve words system).2.signals = system.signals ∧
        (Handle.spawn resolve words system).2.history = (system.record call).history := by
  by_cases named : words.headD [] = []
  · rw [Handle.spawn_unnamed named]
    exact .inl rfl
  cases answer : resolve words with
  | error error =>
    rw [Handle.spawn_refused named answer]
    exact .inr ⟨_, rfl, rfl⟩
  | ok job =>
    rw [Handle.spawn_started named answer]
    exact .inr ⟨_, rfl, rfl⟩

@[simp]
theorem Handle.signals_spawn (system : System Job) :
    (Handle.spawn resolve words system).2.signals = system.signals := by
  rcases Handle.recorded_spawn resolve words system with none | ⟨call, same, -⟩
  · rw [none]
  · exact same

end Spawn

theorem Handle.system_wait (child : Pid) (system : System Job) :
    (Handle.wait ⟨some child⟩ system).2.2 = (Guard.around (System.reap child) system).2 := by
  simp only [Handle.wait]
  rcases Guard.around (System.reap child) system with ⟨_ | job, after⟩ <;> rfl

@[simp]
theorem Handle.signals_wait (handle : Handle) (system : System Job) :
    (handle.wait system).2.2.signals = system.signals := by
  obtain ⟨_ | child⟩ := handle
  · rfl
  · rw [Handle.system_wait, Guard.signals_around]

@[simp]
theorem Handle.signals_drop (handle : Handle) (system : System Job) :
    (handle.drop system).signals = system.signals := by
  obtain ⟨_ | child⟩ := handle
  · rfl
  · exact Handle.signals_wait ⟨some child⟩ (system.kill child)

@[simp]
theorem signals_launch (resolve : Resolver Job) (words : List Bytes) (system : System Job) :
    (launch resolve words system).2.signals = system.signals :=
  Guard.signals_around _ system

namespace Table

@[simp]
theorem signals_assign (slot : Int) (handle : Handle) (table : Table Job) :
    (table.assign slot handle).system.signals = table.system.signals :=
  Handle.signals_drop _ table.system

@[simp]
theorem signals_move (source target : Int) (table : Table Job) :
    (table.move source target).system.signals = table.system.signals := by
  unfold move
  split
  · rfl
  · exact signals_assign target ((table.handle? source).getD {}) table

@[simp]
theorem signals_step (resolve : Resolver Job) (table : Table Job) (operation : Operation) :
    (table.step resolve operation).2.system.signals = table.system.signals := by
  cases operation with
  | run words => exact signals_launch resolve words table.system
  | spawn slot words =>
    rw [← Handle.signals_spawn resolve words table.system, step]
    rcases Handle.spawn resolve words table.system with ⟨_ | handle, after⟩
    · rfl
    · exact signals_assign slot handle { table with system := after }
  | wait slot => exact Handle.signals_wait _ table.system
  | inspect slot => rfl
  | move source target => exact signals_move source target table
  | drop slot => exact Handle.signals_drop _ table.system

end Table

/-- The requests that lead from one state to another, with both signals ignored before,
after and at each of them. -/
structure IgnoredDuring (calls : List Call) (earlier later : System Job) : Prop where
  before : earlier.signals = .bothIgnored
  after : later.signals = .bothIgnored
  history : later.history = earlier.history ++ calls.map (Prod.mk .bothIgnored)

def guarded (calls : List Call) : List Call :=
  [.setInterrupt .ignored, .setQuit .ignored] ++ calls ++
    [.setQuit .ignored, .setInterrupt .ignored]

def Handle.waiting (handle : Handle) : List Call :=
  match handle.child with
  | none => []
  | some child => guarded [.reap child]

def Handle.dropping (handle : Handle) : List Call :=
  match handle.child with
  | none => []
  | some child => .kill child :: handle.waiting

namespace IgnoredDuring

variable {system middle later : System Job} {calls more : List Call}

theorem refl (ignored : system.signals = .bothIgnored) : IgnoredDuring [] system system where
  before := ignored
  after := ignored
  history := (List.append_nil _).symm

theorem trans (first : IgnoredDuring calls system middle)
    (second : IgnoredDuring more middle later) :
    IgnoredDuring (calls ++ more) system later where
  before := first.before
  after := second.after
  history := by
    rw [second.history, first.history, List.map_append, List.append_assoc]

theorem record (ignored : system.signals = .bothIgnored) {call : Call}
    (same : later.signals = system.signals)
    (recorded : later.history = (system.record call).history) :
    IgnoredDuring [call] system later where
  before := ignored
  after := same.trans ignored
  history := by
    rw [recorded, System.record, ignored]
    rfl

theorem acquire (ignored : system.signals = .bothIgnored) :
    IgnoredDuring [.setInterrupt .ignored, .setQuit .ignored] system
      (Guard.acquire system).2 where
  before := ignored
  after := Guard.signals_acquire system
  history := by
    rw [Guard.history_acquire, ignored]
    rfl

theorem release {guard : Guard} (ignored : system.signals = .bothIgnored)
    (inner : guard.saved = .bothIgnored) :
    IgnoredDuring [.setQuit .ignored, .setInterrupt .ignored] system
      (guard.release system) where
  before := ignored
  after := (Guard.signals_release guard system).trans inner
  history := by
    rw [Guard.history_release ignored, inner]
    rfl

theorem around {body : System Job → α × System Job}
    (ignored : system.signals = .bothIgnored)
    (inside : IgnoredDuring calls (Guard.acquire system).2 (body (Guard.acquire system).2).2) :
    IgnoredDuring (guarded calls) system (Guard.around body system).2 :=
  ((acquire ignored).trans inside).trans (release inside.after ignored)

theorem history_release (inside : IgnoredDuring calls (Guard.acquire system).2 later) :
    ((Guard.acquire system).1.release later).history =
      system.history ++ system.signals.entering ++ calls.map (Prod.mk .bothIgnored) ++
        system.signals.leaving := by
  rw [Guard.history_release inside.after, inside.history, Guard.history_acquire,
    Guard.saved_acquire]

theorem reap (ignored : system.signals = .bothIgnored) (child : Pid) :
    IgnoredDuring [.reap child] system (system.reap child).2 :=
  record ignored rfl rfl

theorem wait (ignored : system.signals = .bothIgnored) (handle : Handle) :
    IgnoredDuring handle.waiting system (handle.wait system).2.2 := by
  obtain ⟨_ | child⟩ := handle
  · exact refl ignored
  · rw [Handle.system_wait]
    exact around ignored (reap rfl child)

theorem drop (ignored : system.signals = .bothIgnored) (handle : Handle) :
    IgnoredDuring handle.dropping system (handle.drop system) := by
  obtain ⟨_ | child⟩ := handle
  · exact refl ignored
  · have killed : IgnoredDuring [.kill child] system (system.kill child) :=
      record ignored rfl rfl
    exact killed.trans (wait killed.after ⟨some child⟩)

end IgnoredDuring

namespace Handle

theorem history_wait (child : Pid) (system : System Job) :
    (wait ⟨some child⟩ system).2.2.history =
      system.history ++ system.signals.entering ++ [(.bothIgnored, .reap child)] ++
        system.signals.leaving := by
  rw [system_wait]
  exact (IgnoredDuring.reap rfl child).history_release

theorem wait_start (words : List Bytes) (job : Job) (system : System Job) :
    wait ⟨some system.nextPid⟩ (system.start words job).2 =
      (.ok job, {},
        (Guard.around (System.reap system.nextPid) (system.start words job).2).2) := by
  have found : (Guard.around (System.reap system.nextPid) (system.start words job).2).1 =
      some job := by
    simp [Guard.around, Guard.acquire, System.setQuit, System.setInterrupt, System.record,
      System.reap, System.start]
  simp only [wait]
  split
  next ended after around =>
    rw [around] at found ⊢
    rw [Option.some.inj found]
  next after around =>
    rw [around] at found
    nomatch found

end Handle

/-- What a launch answers, and what it requests between the beginning and the end of its
guard. -/
inductive Launched (resolve : Resolver Job) (words : List Bytes) (child : Pid) :
    Except Failure Job → List Call → Prop
  | unnamed : words.headD [] = [] →
      Launched resolve words child (.error SpawnError.noProgram.failure) []
  | refused {error : SystemError} : words.headD [] ≠ [] → resolve words = .error error →
      Launched resolve words child
        (.error (SpawnError.refused (words.headD []) error).failure) [.spawn words none]
  | ended {job : Job} : words.headD [] ≠ [] → resolve words = .ok job →
      Launched resolve words child (.ok job)
        (.spawn words (some child) :: guarded [.reap child])

theorem launched_launch (resolve : Resolver Job) (words : List Bytes) (system : System Job) :
    ∃ calls inner, Launched resolve words system.nextPid (launch resolve words system).1 calls ∧
      IgnoredDuring calls (Guard.acquire system).2 inner ∧
      (launch resolve words system).2 = (Guard.acquire system).1.release inner := by
  have alive := Guard.signals_acquire system
  by_cases named : words.headD [] = []
  · refine ⟨[], (Guard.acquire system).2, ?_, .refl alive, ?_⟩
    · rw [launch, Guard.around, Handle.spawn_unnamed named]
      exact .unnamed named
    · rw [launch, Guard.around, Handle.spawn_unnamed named]
  cases answer : resolve words with
  | error error =>
    refine ⟨_, (Guard.acquire system).2.record (.spawn words none), ?_,
      .record alive rfl rfl, ?_⟩
    · rw [launch, Guard.around, Handle.spawn_refused named answer]
      exact .refused named answer
    · rw [launch, Guard.around, Handle.spawn_refused named answer]
  | ok job =>
    have started : IgnoredDuring [.spawn words (some system.nextPid)] (Guard.acquire system).2
        ((Guard.acquire system).2.start words job).2 :=
      .record alive rfl rfl
    have reaped := started.trans
      (IgnoredDuring.around started.after (.reap rfl system.nextPid))
    refine ⟨_, _, ?_, reaped, ?_⟩
    · rw [launch, Guard.around, Handle.spawn_started named answer]
      simp only [Handle.wait_start]
      exact .ended named answer
    · rw [launch, Guard.around, Handle.spawn_started named answer]
      simp only [Handle.wait_start]
      rfl

/-- From before the start of a program until after its end, both signals are ignored. -/
theorem history_launch (resolve : Resolver Job) (words : List Bytes) (system : System Job) :
    ∃ calls, Launched resolve words system.nextPid (launch resolve words system).1 calls ∧
      (launch resolve words system).2.history =
        system.history ++ system.signals.entering ++ calls.map (Prod.mk .bothIgnored) ++
          system.signals.leaving := by
  obtain ⟨calls, inner, launched, ignored, after⟩ := launched_launch resolve words system
  exact ⟨calls, launched, by rw [after, ignored.history_release]⟩

def StaysIgnored (earlier later : System Job) : Prop :=
  ∃ calls, IgnoredDuring calls earlier later

namespace StaysIgnored

variable {system middle later : System Job}

theorem trans (first : StaysIgnored system middle) (second : StaysIgnored middle later) :
    StaysIgnored system later := by
  obtain ⟨calls, first⟩ := first
  obtain ⟨more, second⟩ := second
  exact ⟨calls ++ more, first.trans second⟩

theorem launch (ignored : system.signals = .bothIgnored) (resolve : Resolver Job)
    (words : List Bytes) : StaysIgnored system (launch resolve words system).2 := by
  obtain ⟨calls, inner, -, inside, after⟩ := launched_launch resolve words system
  rw [after]
  exact ⟨_, ((IgnoredDuring.acquire ignored).trans inside).trans (.release inside.after ignored)⟩

theorem spawn (ignored : system.signals = .bothIgnored) (resolve : Resolver Job)
    (words : List Bytes) : StaysIgnored system (Handle.spawn resolve words system).2 := by
  rcases Handle.recorded_spawn resolve words system with none | ⟨call, same, recorded⟩
  · rw [none]
    exact ⟨_, .refl ignored⟩
  · exact ⟨_, .record ignored same recorded⟩

theorem assign (table : Table Job) (ignored : table.system.signals = .bothIgnored)
    (slot : Int) (handle : Handle) :
    StaysIgnored table.system (table.assign slot handle).system :=
  ⟨_, .drop ignored _⟩

theorem move {table : Table Job} (ignored : table.system.signals = .bothIgnored)
    (source target : Int) : StaysIgnored table.system (table.move source target).system := by
  unfold Table.move
  split
  · exact ⟨_, .refl ignored⟩
  · exact assign table ignored target ((table.handle? source).getD {})

theorem step {table : Table Job} (ignored : table.system.signals = .bothIgnored)
    (resolve : Resolver Job) (operation : Operation) :
    StaysIgnored table.system (table.step resolve operation).2.system := by
  cases operation with
  | run words => exact launch ignored resolve words
  | spawn slot words =>
    have spawned := spawn ignored resolve words
    have after := (Handle.signals_spawn resolve words table.system).trans ignored
    rw [Table.step]
    revert spawned after
    rcases Handle.spawn resolve words table.system with ⟨_ | handle, started⟩
    · intro spawned _
      exact spawned
    · intro spawned after
      exact spawned.trans (assign { table with system := started } after slot handle)
  | wait slot => exact ⟨_, .wait ignored _⟩
  | inspect slot => exact ⟨_, .refl ignored⟩
  | move source target => exact move ignored source target
  | drop slot => exact ⟨_, .drop ignored _⟩

end StaysIgnored

/-- What is done where guards may be alive. -/
inductive Use (Job : Type) where
  /-- Begin a guard. -/
  | enter
  /-- End the guard that began last. -/
  | leave
  | operate (resolve : Resolver Job) (operation : Operation)

/-- A table of handles and the guards that are alive, the one that began last first. -/
structure Scope (Job : Type) where
  table : Table Job := {}
  guards : List Guard := []

namespace Scope

def signals (scope : Scope Job) : Signals :=
  scope.table.system.signals

def step (scope : Scope Job) : Use Job → Scope Job
  | .enter =>
      let acquired := Guard.acquire scope.table.system
      ⟨{ scope.table with system := acquired.2 }, acquired.1 :: scope.guards⟩
  | .leave =>
      match scope.guards with
      | [] => scope
      | guard :: outer =>
          ⟨{ scope.table with system := guard.release scope.table.system }, outer⟩
  | .operate resolve operation => { scope with table := (scope.table.step resolve operation).2 }

def run (scope : Scope Job) (uses : List (Use Job)) : Scope Job :=
  uses.foldl step scope

theorem run_cons (scope : Scope Job) (use : Use Job) (rest : List (Use Job)) :
    scope.run (use :: rest) = (scope.step use).run rest :=
  rfl

end Scope

/-- Both signals are ignored while a guard is alive, and each guard has saved what was in
force before it began. -/
def Nested (initial : Signals) : List Guard → Signals → Prop
  | [], signals => signals = initial
  | guard :: outer, signals => signals = .bothIgnored ∧ Nested initial outer guard.saved

theorem Nested.ignored {initial signals : Signals} {guards : List Guard}
    (nested : Nested initial guards signals) (alive : guards ≠ []) :
    signals = .bothIgnored := by
  cases guards with
  | nil => exact absurd rfl alive
  | cons guard outer => exact nested.1

namespace Scope

variable {initial : Signals} {scope : Scope Job}

theorem nested_step (nested : Nested initial scope.guards scope.signals) (use : Use Job) :
    Nested initial (scope.step use).guards (scope.step use).signals := by
  obtain ⟨table, guards⟩ := scope
  cases use with
  | enter => exact ⟨rfl, nested⟩
  | leave =>
    cases guards with
    | nil => exact nested
    | cons guard outer => exact nested.2
  | operate resolve operation =>
    simp only [step, signals, Table.signals_step]
    exact nested

theorem nested_run (nested : Nested initial scope.guards scope.signals)
    (uses : List (Use Job)) :
    Nested initial (scope.run uses).guards (scope.run uses).signals := by
  induction uses generalizing scope with
  | nil => exact nested
  | cons use rest ih =>
    rw [run_cons]
    exact ih (nested_step nested use)

/-- One guard may end and another begin: as long as there is one, both signals are ignored. -/
theorem staysIgnored_step (nested : Nested initial scope.guards scope.signals)
    (use : Use Job) (alive : scope.guards ≠ []) (still : (scope.step use).guards ≠ []) :
    StaysIgnored scope.table.system (scope.step use).table.system := by
  have ignored : scope.table.system.signals = .bothIgnored := nested.ignored alive
  cases use with
  | enter => exact ⟨_, .acquire ignored⟩
  | leave =>
    -- The guard that ends had another around it, so it found both signals ignored.
    obtain ⟨table, _ | ⟨guard, outer⟩⟩ := scope
    · exact absurd rfl alive
    · exact ⟨_, .release ignored (nested.2.ignored still)⟩
  | operate resolve operation => exact .step ignored resolve operation

theorem staysIgnored_run (nested : Nested initial scope.guards scope.signals)
    (uses : List (Use Job))
    (alive : ∀ front, front <+: uses → (scope.run front).guards ≠ []) :
    StaysIgnored scope.table.system (scope.run uses).table.system := by
  have before := alive [] List.nil_prefix
  induction uses generalizing scope with
  | nil => exact ⟨_, .refl (nested.ignored before)⟩
  | cons use rest ih =>
    have later : ∀ front, front <+: rest → ((scope.step use).run front).guards ≠ [] :=
      fun front leading => alive (use :: front) ((List.prefix_cons_inj use).mpr leading)
    have first := staysIgnored_step nested use before (later [] List.nil_prefix)
    rw [run_cons]
    exact first.trans (ih (nested_step nested use) later (later [] List.nil_prefix))

end Scope

/-- Guards that nest restore what was in force before the first of them, and while there is
one, both signals are ignored.  Hence operations on children leave the actions alone, and
whatever a launch requests from the start of its program to the reaping of the child, it
requests with both signals ignored. -/
theorem interrupts_restored :
    (∀ (table : Table Job) (uses : List (Use Job)),
      let scope := (Scope.mk table []).run uses
      (scope.guards ≠ [] → scope.signals = .bothIgnored) ∧
        (scope.guards = [] → scope.signals = table.system.signals) ∧
        ∀ more, (∀ front, front <+: more → (scope.run front).guards ≠ []) →
          StaysIgnored scope.table.system (scope.run more).table.system) ∧
    (∀ (resolve : Resolver Job) (words : List Bytes) (system : System Job),
      (launch resolve words system).2.signals = system.signals ∧
        ∃ calls, Launched resolve words system.nextPid (launch resolve words system).1 calls ∧
          (launch resolve words system).2.history =
            system.history ++ system.signals.entering ++ calls.map (Prod.mk .bothIgnored) ++
              system.signals.leaving) ∧
    (∀ (handle : Handle) (system : System Job),
      (handle.wait system).2.2.signals = system.signals ∧
        (handle.drop system).signals = system.signals ∧
        ∀ child, handle.child = some child →
          (handle.wait system).2.2.history =
            system.history ++ system.signals.entering ++ [(.bothIgnored, .reap child)] ++
              system.signals.leaving) ∧
    ∀ (resolve : Resolver Job) (table : Table Job) (operation : Operation),
      (table.step resolve operation).2.system.signals = table.system.signals := by
  refine ⟨fun table uses => ?_, fun resolve words system => ?_, fun handle system => ?_,
    Table.signals_step⟩
  · have nested : Nested table.system.signals (Scope.mk table []).guards
        (Scope.mk table []).signals := rfl
    have after := Scope.nested_run nested uses
    refine ⟨after.ignored, ?_, Scope.staysIgnored_run after⟩
    intro ended
    rw [ended] at after
    exact after
  · exact ⟨signals_launch resolve words system, history_launch resolve words system⟩
  · refine ⟨Handle.signals_wait handle system, Handle.signals_drop handle system, ?_⟩
    obtain ⟨owned⟩ := handle
    rintro child rfl
    exact Handle.history_wait child system

/-- Where an interrupt had a handler of its own, it has that handler again. -/
theorem interrupts_restored_handled :
    let table : Table Nat := { system := { signals := ⟨.handled 3, .standard⟩ } }
    let launching : Use Nat := .operate (fun _ => .ok 7) (.run [ascii "sh"])
    let outer := (Scope.mk table []).run [.enter]
    outer.signals = .bothIgnored ∧
      StaysIgnored outer.table.system
        (outer.run [.enter, launching, .leave, launching]).table.system ∧
      ((Scope.mk table []).run [.enter, .enter, launching, .leave, launching, .leave]).signals =
        ⟨.handled 3, .standard⟩ ∧
      (Handle.wait ⟨some 1⟩ table.system).2.2.history =
        [(⟨.handled 3, .standard⟩, .setInterrupt .ignored),
          (⟨.ignored, .standard⟩, .setQuit .ignored), (⟨.ignored, .ignored⟩, .reap 1),
          (⟨.ignored, .ignored⟩, .setQuit .standard),
          (⟨.ignored, .standard⟩, .setInterrupt (.handled 3))] := by
  intro table launching outer
  have begun := interrupts_restored.1 table [.enter]
  have ended := interrupts_restored.1 table
    [.enter, .enter, launching, .leave, launching, .leave]
  have waited := (interrupts_restored.2.2.1 ⟨some 1⟩ table.system).2.2 1 rfl
  refine ⟨begun.1 (List.cons_ne_nil _ _), begun.2.2 _ ?_, ended.2.1 rfl, waited⟩
  intro front leading
  simp only [List.prefix_cons_iff, List.prefix_nil] at leading
  rcases leading with rfl | ⟨_, rfl, rfl | ⟨_, rfl, rfl | ⟨_, rfl, rfl | ⟨_, rfl, rfl⟩⟩⟩⟩ <;>
    exact List.cons_ne_nil _ _

end TradeLocal.Children

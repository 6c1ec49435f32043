import Mathlib.Data.List.Nodup
import TradeLocal.Children.Handle

/-!
# The books of a parent

The books keep of a system only what concerns its children: which were started, killed and
reaped, in which order, and which are left.  A child is known by its number, and no number is
given twice: whoever kills what was reaped may be killing a stranger.

The books of a parent that kills and reaps none but children it has are balanced: every child
it ever started is left or was reaped, once, and none is killed after it was reaped.
-/

namespace TradeLocal.Children

inductive Entry where
  | started (child : Pid)
  | killed (child : Pid)
  | reaped (child : Pid)
  deriving DecidableEq, Repr

def Entry.started? : Entry → Option Pid
  | started child => some child
  | _ => none

def Entry.killed? : Entry → Option Pid
  | killed child => some child
  | _ => none

def Entry.reaped? : Entry → Option Pid
  | reaped child => some child
  | _ => none

/-- What a request does to a child.  One that was refused does nothing. -/
def Call.entry? : Call → Option Entry
  | spawn _ child => child.map .started
  | kill child => some (.killed child)
  | reap child => some (.reaped child)
  | setInterrupt _ | setQuit _ => none

structure Books where
  nextPid : Pid
  /-- The children that were not reaped yet. -/
  live : List Pid
  entries : List Entry

namespace Books

def started (books : Books) : List Pid :=
  books.entries.filterMap Entry.started?

def killed (books : Books) : List Pid :=
  books.entries.filterMap Entry.killed?

def reaped (books : Books) : List Pid :=
  books.entries.filterMap Entry.reaped?

def start (books : Books) : Books where
  nextPid := books.nextPid + 1
  live := books.nextPid :: books.live
  entries := books.entries ++ [.started books.nextPid]

def kill (child : Pid) (books : Books) : Books :=
  { books with entries := books.entries ++ [.killed child] }

def reap (child : Pid) (books : Books) : Books where
  nextPid := books.nextPid
  live := books.live.filter (· != child)
  entries := books.entries ++ [.reaped child]

def abandon (owned : Option Pid) (books : Books) : Books :=
  match owned with
  | none => books
  | some child => (books.kill child).reap child

section Entries

variable (books : Books) (child : Pid) (owned : Option Pid)

@[simp]
theorem started_start : books.start.started = books.started ++ [books.nextPid] := by
  simp [start, started, Entry.started?]

@[simp]
theorem killed_start : books.start.killed = books.killed := by
  simp [start, killed, Entry.killed?]

@[simp]
theorem reaped_start : books.start.reaped = books.reaped := by
  simp [start, reaped, Entry.reaped?]

@[simp]
theorem started_kill : (books.kill child).started = books.started := by
  simp [kill, started, Entry.started?]

@[simp]
theorem killed_kill : (books.kill child).killed = books.killed ++ [child] := by
  simp [kill, killed, Entry.killed?]

@[simp]
theorem reaped_kill : (books.kill child).reaped = books.reaped := by
  simp [kill, reaped, Entry.reaped?]

@[simp]
theorem started_reap : (books.reap child).started = books.started := by
  simp [reap, started, Entry.started?]

@[simp]
theorem killed_reap : (books.reap child).killed = books.killed := by
  simp [reap, killed, Entry.killed?]

@[simp]
theorem reaped_reap : (books.reap child).reaped = books.reaped ++ [child] := by
  simp [reap, reaped, Entry.reaped?]

@[simp]
theorem killed_abandon : (books.abandon owned).killed = books.killed ++ owned.toList := by
  cases owned <;> simp [abandon]

@[simp]
theorem reaped_abandon : (books.abandon owned).reaped = books.reaped ++ owned.toList := by
  cases owned <;> simp [abandon]

@[simp]
theorem mem_live_start {other : Pid} :
    other ∈ books.start.live ↔ other = books.nextPid ∨ other ∈ books.live :=
  List.mem_cons

@[simp]
theorem mem_live_reap {other : Pid} :
    other ∈ (books.reap child).live ↔ other ∈ books.live ∧ other ≠ child := by
  simp [reap]

@[simp]
theorem mem_live_abandon {other : Pid} :
    other ∈ (books.abandon owned).live ↔ other ∈ books.live ∧ owned ≠ some other := by
  cases owned with
  | none => simp [abandon]
  | some child => simp [abandon, kill, eq_comm]

end Entries

structure Balanced (books : Books) : Prop where
  /-- Whatever was started is left or was reaped. -/
  accounted : books.started.Perm (books.live ++ books.reaped)
  startedOnce : books.started.Nodup
  /-- A number is given to no second child. -/
  numbered : ∀ child ∈ books.started, child < books.nextPid
  ordered : books.entries.Pairwise fun earlier later =>
    ∀ child, earlier = .reaped child → later ≠ .killed child

namespace Balanced

variable {books : Books}

theorem nodup (balanced : books.Balanced) : (books.live ++ books.reaped).Nodup :=
  balanced.accounted.nodup_iff.mp balanced.startedOnce

theorem reapedOnce (balanced : books.Balanced) : books.reaped.Nodup :=
  (List.nodup_append.mp balanced.nodup).2.1

theorem mem_started_of_live {child : Pid} (balanced : books.Balanced)
    (live : child ∈ books.live) : child ∈ books.started :=
  balanced.accounted.mem_iff.mpr (List.mem_append_left _ live)

theorem nextPid_notMem_live (balanced : books.Balanced) : books.nextPid ∉ books.live :=
  fun live => Nat.lt_irrefl _ (balanced.numbered _ (balanced.mem_started_of_live live))

theorem mem_live_iff {child : Pid} (balanced : books.Balanced) :
    child ∈ books.live ↔ child ∈ books.started ∧ child ∉ books.reaped := by
  rw [balanced.accounted.mem_iff, List.mem_append]
  have apart := List.disjoint_of_nodup_append balanced.nodup
  constructor
  · intro live
    exact ⟨.inl live, fun reaped => apart live reaped⟩
  · rintro ⟨live | reaped, unreaped⟩
    · exact live
    · exact absurd reaped unreaped

theorem start (balanced : books.Balanced) : books.start.Balanced where
  accounted := by
    rw [started_start, reaped_start]
    calc (books.started ++ [books.nextPid]).Perm (books.nextPid :: books.started) :=
          List.perm_append_singleton _ _
      List.Perm _ (books.nextPid :: (books.live ++ books.reaped)) := balanced.accounted.cons _
  startedOnce := by
    rw [started_start]
    refine balanced.startedOnce.append (List.nodup_singleton _) ?_
    intro child started new
    have bound := balanced.numbered child started
    rw [List.mem_singleton.mp new] at bound
    exact Nat.lt_irrefl _ bound
  numbered := by
    intro child started
    rw [started_start, List.mem_append, List.mem_singleton] at started
    rcases started with started | rfl
    · exact Nat.lt_succ_of_lt (balanced.numbered child started)
    · exact Nat.lt_succ_self _
  ordered := by
    refine List.pairwise_append.mpr ⟨balanced.ordered, List.pairwise_singleton _ _, ?_⟩
    rintro earlier - later new child - rfl
    simp at new

theorem kill {child : Pid} (balanced : books.Balanced) (live : child ∈ books.live) :
    (books.kill child).Balanced where
  accounted := by
    rw [started_kill, reaped_kill]
    exact balanced.accounted
  startedOnce := by
    rw [started_kill]
    exact balanced.startedOnce
  numbered := by
    rw [started_kill]
    exact balanced.numbered
  ordered := by
    refine List.pairwise_append.mpr ⟨balanced.ordered, List.pairwise_singleton _ _, ?_⟩
    rintro earlier before later new other rfl rfl
    obtain rfl : other = child := by simpa using new
    -- The child is left, so no entry so far has reaped it.
    have reaped : other ∈ books.reaped := List.mem_filterMap.mpr ⟨_, before, rfl⟩
    exact (balanced.mem_live_iff.mp live).2 reaped

theorem reap {child : Pid} (balanced : books.Balanced) (live : child ∈ books.live) :
    (books.reap child).Balanced where
  accounted := by
    have left : (books.reap child).live = books.live.erase child :=
      ((List.nodup_append.mp balanced.nodup).1.erase_eq_filter child).symm
    rw [started_reap, reaped_reap, left]
    calc books.started.Perm (books.live ++ books.reaped) := balanced.accounted
      List.Perm _ (child :: books.live.erase child ++ books.reaped) :=
          (List.perm_cons_erase live).append_right _
      List.Perm _ (books.live.erase child ++ (books.reaped ++ [child])) := by
          rw [← List.append_assoc]
          exact (List.perm_append_singleton _ _).symm
  startedOnce := by
    rw [started_reap]
    exact balanced.startedOnce
  numbered := by
    rw [started_reap]
    exact balanced.numbered
  ordered := by
    refine List.pairwise_append.mpr ⟨balanced.ordered, List.pairwise_singleton _ _, ?_⟩
    rintro earlier - later new other - rfl
    simp at new

theorem abandon {owned : Option Pid} (balanced : books.Balanced)
    (live : ∀ child, owned = some child → child ∈ books.live) :
    (books.abandon owned).Balanced := by
  cases owned with
  | none => exact balanced
  | some child => exact (balanced.kill (live child rfl)).reap (live child rfl)

end Balanced

end Books

namespace System

variable {Job : Type} (system : System Job)

def books : Books where
  nextPid := system.nextPid
  live := system.children.map Prod.fst
  entries := system.history.filterMap fun (_, call) => call.entry?

/-- The children that the log was told are being killed. -/
def killings : List Pid :=
  (system.history.filterMap fun (_, call) => call.notice?).filterMap fun
    | .killing child => some child
    | _ => none

theorem killings_eq : system.killings = system.books.killed := by
  rw [killings, Books.killed, books, List.filterMap_filterMap, List.filterMap_filterMap]
  congr 1
  funext ⟨_, call⟩
  cases call with
  | spawn words child => cases child <;> rfl
  | setInterrupt action | setQuit action | kill child | reap child => rfl

@[simp]
theorem books_setInterrupt (action : Action) :
    (system.setInterrupt action).books = system.books := by
  simp [books, setInterrupt, record, Call.entry?]

@[simp]
theorem books_setQuit (action : Action) : (system.setQuit action).books = system.books := by
  simp [books, setQuit, record, Call.entry?]

@[simp]
theorem books_refuse (words : List Bytes) :
    (system.record (.spawn words none)).books = system.books := by
  simp [books, record, Call.entry?]

@[simp]
theorem books_start (words : List Bytes) (job : Job) :
    (system.start words job).2.books = system.books.start := by
  simp [books, start, record, Call.entry?, Books.start]

@[simp]
theorem books_kill (child : Pid) : (system.kill child).books = system.books.kill child := by
  simp [books, kill, record, Call.entry?, Books.kill]

@[simp]
theorem books_reap (child : Pid) :
    (system.reap child).2.books = system.books.reap child := by
  simp [books, reap, record, Call.entry?, Books.reap, List.filter_map, Function.comp_def]

theorem reap_of_live {child : Pid} (live : child ∈ system.books.live) :
    ∃ job, (system.reap child).1 = some job := by
  obtain ⟨⟨_, job⟩, present, rfl⟩ := List.mem_map.mp live
  refine Option.isSome_iff_exists.mp (List.lookup_isSome_iff.mpr ⟨_, present, ?_⟩)
  exact beq_self_eq_true _

end System

section Handles

variable {Job α : Type}

@[simp]
theorem Guard.books_acquire (system : System Job) :
    (Guard.acquire system).2.books = system.books := by
  simp [Guard.acquire]

@[simp]
theorem Guard.books_release (guard : Guard) (system : System Job) :
    (guard.release system).books = system.books := by
  simp [Guard.release]

namespace Handle

theorem spawn_cases (resolve : Resolver Job) (words : List Bytes) (system : System Job) :
    (∃ error after, spawn resolve words system = (.error error, after) ∧
      after.books = system.books) ∨
    ∃ after, spawn resolve words system = (.ok ⟨some system.nextPid⟩, after) ∧
      after.books = system.books.start := by
  rcases words with _ | ⟨_ | ⟨byte, program⟩, arguments⟩
  · exact .inl ⟨_, _, rfl, rfl⟩
  · exact .inl ⟨_, _, rfl, rfl⟩
  · rw [spawn]
    · cases resolve ((byte :: program) :: arguments) with
      | error error => exact .inl ⟨_, _, rfl, System.books_refuse system _⟩
      | ok job => exact .inr ⟨_, rfl, System.books_start system _ job⟩
    · simp

theorem wait_of_live {child : Pid} {system : System Job} (live : child ∈ system.books.live) :
    ∃ job after, wait ⟨some child⟩ system = (.ok job, {}, after) ∧
      after.books = system.books.reap child := by
  rw [← Guard.books_acquire system] at live
  obtain ⟨job, reaped⟩ := System.reap_of_live _ live
  refine ⟨job, (Guard.around (System.reap child) system).2, ?_, ?_⟩
  · simp only [wait, Guard.around, reaped]
  · simp [Guard.around]

@[simp]
theorem books_drop (handle : Handle) (system : System Job) :
    (handle.drop system).books = system.books.abandon handle.child := by
  obtain ⟨_ | child⟩ := handle
  · rfl
  · have reaped : (Guard.around (System.reap child) (system.kill child)).2.books =
        (system.books.kill child).reap child := by
      simp [Guard.around]
    simp only [drop, wait, Books.abandon, ← reaped]
    rcases Guard.around (System.reap child) (system.kill child) with ⟨_ | job, after⟩ <;> rfl

end Handle

/-- A program that is run to completion was refused, or was started and reaped. -/
theorem launch_cases (resolve : Resolver Job) (words : List Bytes) (system : System Job) :
    (∃ error after, launch resolve words system = (.error error, after) ∧
      after.books = system.books) ∨
    ∃ job after, launch resolve words system = (.ok job, after) ∧
      after.books = system.books.start.reap system.nextPid := by
  rcases Handle.spawn_cases resolve words (Guard.acquire system).2 with
    ⟨error, refused, spawned, books⟩ | ⟨started, spawned, books⟩
  · refine .inl ⟨error.failure, (Guard.acquire system).1.release refused, ?_, ?_⟩
    · simp only [launch, Guard.around, spawned]
    · rw [Guard.books_release, books, Guard.books_acquire]
  · have live : (Guard.acquire system).2.nextPid ∈ started.books.live := by
      rw [books]
      exact List.mem_cons_self
    obtain ⟨job, reaped, waited, after⟩ := Handle.wait_of_live live
    refine .inr ⟨job, (Guard.acquire system).1.release reaped, ?_, ?_⟩
    · simp only [launch, Guard.around, spawned, waited]
      rfl
    · rw [Guard.books_release, after, books, Guard.books_acquire]
      rfl

end Handles

end TradeLocal.Children

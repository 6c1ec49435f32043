import Mathlib.Data.Set.Function
import Mathlib.Logic.Equiv.Basic
import TradeLocal.Proofs.Children.Slots

/-!
# Ownership of children

Whatever is done with a table of handles, the children that were started and not yet reaped
correspond one to one to the handles that own a child.  Every operation is one of six changes
of owners and books, each of which keeps that correspondence, and so does every run.
-/

namespace TradeLocal.Children

open Function (update)

/-- The books are balanced, and every child that is left has one owner. -/
structure Kept (owner : Int → Option Pid) (books : Books) : Prop where
  balanced : books.Balanced
  live_iff : ∀ child, child ∈ books.live ↔ ∃ slot, owner slot = some child
  unique : ∀ first second child,
    owner first = some child → owner second = some child → first = second

namespace Kept

variable {owner : Int → Option Pid} {books : Books}

theorem live (kept : Kept owner books) {slot : Int} {child : Pid}
    (owned : owner slot = some child) : child ∈ books.live :=
  (kept.live_iff child).mpr ⟨slot, owned⟩

/-- What a slot owns is lost, and the slot owns something new or nothing. -/
theorem replace (kept : Kept owner books) (slot : Int) {value : Option Pid} {after : Books}
    (fresh : ∀ child, value = some child → child ∉ books.live) (balanced : after.Balanced)
    (left : ∀ child, child ∈ after.live ↔
      value = some child ∨ child ∈ books.live ∧ owner slot ≠ some child) :
    Kept (update owner slot value) after where
  balanced := balanced
  live_iff := by
    intro child
    rw [left, kept.live_iff]
    constructor
    · rintro (new | ⟨⟨other, owned⟩, remains⟩)
      · exact ⟨slot, by rw [Function.update_self, new]⟩
      · have different : other ≠ slot := by
          rintro rfl
          exact remains owned
        exact ⟨other, by rw [Function.update_of_ne different, owned]⟩
    · rintro ⟨other, owned⟩
      by_cases same : other = slot
      · subst other
        exact .inl (by rwa [Function.update_self] at owned)
      · rw [Function.update_of_ne same] at owned
        exact .inr ⟨⟨other, owned⟩, fun lost => same (kept.unique other slot child owned lost)⟩
  unique := by
    intro first second child ofFirst ofSecond
    rw [Function.update_apply] at ofFirst ofSecond
    split_ifs at ofFirst ofSecond with isFirst isSecond isSecond
    · rw [isFirst, isSecond]
    · exact absurd (kept.live ofSecond) (fresh child ofFirst)
    · exact absurd (kept.live ofFirst) (fresh child ofSecond)
    · exact kept.unique first second child ofFirst ofSecond

theorem ran (kept : Kept owner books) : Kept owner (books.start.reap books.nextPid) where
  balanced := kept.balanced.start.reap List.mem_cons_self
  live_iff := by
    intro child
    rw [Books.mem_live_reap, Books.mem_live_start, ← kept.live_iff]
    constructor
    · rintro ⟨rfl | live, different⟩
      · exact absurd rfl different
      · exact live
    · intro live
      refine ⟨.inr live, ?_⟩
      rintro rfl
      exact kept.balanced.nextPid_notMem_live live
  unique := kept.unique

theorem spawned (kept : Kept owner books) (slot : Int) :
    Kept (update owner slot (some books.nextPid)) (books.start.abandon (owner slot)) := by
  have unowned : owner slot ≠ some books.nextPid := fun owned =>
    kept.balanced.nextPid_notMem_live (kept.live owned)
  refine kept.replace slot ?_ ?_ ?_
  · rintro child ⟨⟩
    exact kept.balanced.nextPid_notMem_live
  · exact kept.balanced.start.abandon fun child owned =>
      List.mem_cons_of_mem _ (kept.live owned)
  · intro child
    rw [Books.mem_live_abandon, Books.mem_live_start]
    constructor
    · rintro ⟨rfl | live, remains⟩
      · exact .inl rfl
      · exact .inr ⟨live, remains⟩
    · rintro (⟨⟨⟩⟩ | ⟨live, remains⟩)
      · exact ⟨.inl rfl, unowned⟩
      · exact ⟨.inr live, remains⟩

theorem waited (kept : Kept owner books) {slot : Int} {child : Pid}
    (owned : owner slot = some child) : Kept (update owner slot none) (books.reap child) := by
  refine kept.replace slot (by simp) (kept.balanced.reap (kept.live owned)) ?_
  intro other
  simp [owned, eq_comm]

theorem dropped (kept : Kept owner books) (slot : Int) :
    Kept (update owner slot none) (books.abandon (owner slot)) := by
  refine kept.replace slot (by simp) (kept.balanced.abandon fun _ => kept.live) ?_
  simp

theorem rename (kept : Kept owner books) (names : Int ≃ Int) : Kept (owner ∘ names) books where
  balanced := kept.balanced
  live_iff child := (kept.live_iff child).trans names.surjective.exists
  unique _ _ child ofFirst ofSecond :=
    names.injective (kept.unique _ _ child ofFirst ofSecond)

theorem moved (kept : Kept owner books) {source target : Int} (different : source ≠ target) :
    Kept (update (update owner target (owner source)) source none)
      (books.abandon (owner target)) := by
  -- Once the target owns nothing, a move swaps the two slots.
  have swapped : update (update owner target (owner source)) source none =
      update owner target none ∘ Equiv.swap source target := by
    funext other
    by_cases isSource : other = source
    · subst other
      simp
    · by_cases isTarget : other = target
      · subst other
        simp [different, different.symm]
      · simp [isSource, isTarget, Equiv.swap_apply_of_ne_of_ne]
  rw [swapped]
  exact (kept.dropped target).rename _

theorem bijOn (kept : Kept owner books) :
    Set.BijOn owner {slot | (owner slot).isSome}
      (some '' {child | child ∈ books.started ∧ child ∉ books.reaped}) := by
  refine ⟨?_, ?_, ?_⟩
  · intro slot owns
    obtain ⟨child, owned⟩ := Option.isSome_iff_exists.mp owns
    exact ⟨child, kept.balanced.mem_live_iff.mp (kept.live owned), owned.symm⟩
  · intro first owns second _ same
    obtain ⟨child, owned⟩ := Option.isSome_iff_exists.mp owns
    exact kept.unique first second child owned (same ▸ owned)
  · rintro _ ⟨child, unreaped, rfl⟩
    obtain ⟨slot, owned⟩ := (kept.live_iff child).mp (kept.balanced.mem_live_iff.mpr unreaped)
    exact ⟨slot, Option.isSome_iff_exists.mpr ⟨child, owned⟩, owned⟩

end Kept

/-- What an operation changes: the owners and the books after it, the child it waited for and
the child it abandoned. -/
inductive Change (owner : Int → Option Pid) (books : Books) :
    (Int → Option Pid) → Books → Option Pid → Option Pid → Prop where
  | nothing : Change owner books owner books none none
  | ran :
      Change owner books owner (books.start.reap books.nextPid) (some books.nextPid) none
  | spawned (slot : Int) :
      Change owner books (update owner slot (some books.nextPid))
        (books.start.abandon (owner slot)) none (owner slot)
  | waited {slot : Int} {child : Pid} (owned : owner slot = some child) :
      Change owner books (update owner slot none) (books.reap child) (some child) none
  | moved {source target : Int} (different : source ≠ target) :
      Change owner books (update (update owner target (owner source)) source none)
        (books.abandon (owner target)) none (owner target)
  | dropped (slot : Int) :
      Change owner books (update owner slot none) (books.abandon (owner slot)) none (owner slot)

namespace Change

variable {owner ownerAfter : Int → Option Pid} {books after : Books}
  {waited abandoned : Option Pid}

theorem kept (change : Change owner books ownerAfter after waited abandoned)
    (before : Kept owner books) : Kept ownerAfter after := by
  cases change with
  | nothing => exact before
  | ran => exact before.ran
  | spawned slot => exact before.spawned slot
  | waited owned => exact before.waited owned
  | moved different => exact before.moved different
  | dropped slot => exact before.dropped slot

theorem killed (change : Change owner books ownerAfter after waited abandoned) :
    after.killed = books.killed ++ abandoned.toList := by
  cases change <;> simp

theorem reaped (change : Change owner books ownerAfter after waited abandoned) :
    after.reaped = books.reaped ++ (waited.toList ++ abandoned.toList) := by
  cases change <;> simp

end Change

/-- An operation that was performed: the table before it, and what it answered. -/
structure Performed (Job : Type) where
  before : Table Job
  operation : Operation
  reply : Reply Job

namespace Performed

variable {Job : Type}

def waited? (performed : Performed Job) : Option Pid :=
  match performed.operation, performed.reply with
  | .run _, .ran (.ok _) => some performed.before.system.nextPid
  | .wait slot, .waited (.ok _) _ => performed.before.child? slot
  | _, _ => none

/-- The child of the handle that the operation has destroyed or overwritten. -/
def abandoned? (performed : Performed Job) : Option Pid :=
  match performed.operation, performed.reply with
  | .spawn slot _, .spawned (.ok _) => performed.before.child? slot
  | .move source target, _ => if source = target then none else performed.before.child? target
  | .drop slot, _ => performed.before.child? slot
  | _, _ => none

end Performed

namespace Table

variable {Job : Type}

/-- Perform operations in turn.  The system may answer each request to start a program in its
own way. -/
def run (table : Table Job) : List (Resolver Job × Operation) → Table Job
  | [] => table
  | (resolve, operation) :: rest => (table.step resolve operation).2.run rest

def performed (table : Table Job) : List (Resolver Job × Operation) → List (Performed Job)
  | [] => []
  | (resolve, operation) :: rest =>
      let done := table.step resolve operation
      ⟨table, operation, done.1⟩ :: done.2.performed rest

def opening (signals : Signals) (firstPid : Pid) : Table Job where
  system := { signals := signals, nextPid := firstPid }

/-- Handles stand in order, and every child that is left has one that owns it. -/
structure Sound (table : Table Job) : Prop where
  sorted : Sorted table.handles
  kept : Kept table.child? table.system.books

theorem sound_opening (signals : Signals) (firstPid : Pid) :
    (opening signals firstPid : Table Job).Sound where
  sorted := List.Pairwise.nil
  kept :=
    { balanced := ⟨.refl _, List.nodup_nil, by simp [opening, System.books, Books.started], .nil⟩
      live_iff := by simp [opening, System.books, child?, handle?]
      unique := by simp [opening, child?, handle?] }

theorem sorted_step {table : Table Job} (sorted : Sorted table.handles)
    (resolve : Resolver Job) (operation : Operation) :
    Sorted (table.step resolve operation).2.handles := by
  cases operation with
  | run words => exact sorted
  | spawn slot words =>
      rcases Handle.spawn_cases resolve words table.system with
        ⟨error, after, spawned, -⟩ | ⟨after, spawned, -⟩
      · simp only [step, spawned]
        exact sorted
      · simp only [step, spawned]
        exact sorted.insert slot _
  | wait slot => exact sorted.insert slot _
  | inspect slot => exact sorted
  | move source target =>
      by_cases same : source = target
      · simpa [step, move, same] using sorted
      · simp only [step, move, if_neg same]
        exact (sorted.insert target _).insert source _
  | drop slot => exact sorted.filter _

theorem step_wait_of_owned {table : Table Job} (kept : Kept table.child? table.system.books)
    (resolve : Resolver Job) {slot : Int} {child : Pid} (owned : table.child? slot = some child) :
    ∃ job after, table.step resolve (.wait slot) =
        (.waited (.ok job) false, { table with system := after }.put slot {}) ∧
      after.books = table.system.books.reap child := by
  obtain ⟨job, after, waited, books⟩ := Handle.wait_of_live (kept.live owned)
  have handle : (table.handle? slot).getD {} = ⟨some child⟩ := by
    rw [← owned, ← child_getD]
  exact ⟨job, after, by rw [step, handle, waited]; rfl, books⟩

theorem step_wait_of_unowned {table : Table Job} (resolve : Resolver Job) {slot : Int}
    (unowned : table.child? slot = none) :
    table.step resolve (.wait slot) =
      (.waited (.error notWaitable) false, table.put slot {}) := by
  have handle : (table.handle? slot).getD {} = {} := by
    rw [← child_getD] at unowned
    exact congrArg Handle.mk unowned
  rw [step, handle]
  rfl

def Changed (performed : Performed Job) (after : Table Job) : Prop :=
  Change performed.before.child? performed.before.system.books after.child? after.system.books
    performed.waited? performed.abandoned?

section Changes

variable (table : Table Job) (resolve : Resolver Job)

theorem changed_run (words : List Bytes) :
    let done := table.step resolve (.run words)
    Changed ⟨table, .run words, done.1⟩ done.2 := by
  rcases launch_cases resolve words table.system with
    ⟨error, after, launched, books⟩ | ⟨job, after, launched, books⟩
  · rw [step, launched, Changed, books]
    exact .nothing
  · rw [step, launched, Changed, books]
    exact .ran

theorem changed_spawn (slot : Int) (words : List Bytes) :
    let done := table.step resolve (.spawn slot words)
    Changed ⟨table, .spawn slot words, done.1⟩ done.2 := by
  rcases Handle.spawn_cases resolve words table.system with
    ⟨error, after, spawned, books⟩ | ⟨after, spawned, books⟩
  · rw [step, spawned, Changed, books]
    exact .nothing
  · rw [step, spawned, Changed, child?_assign, books_assign, books]
    exact .spawned slot

variable {table} in
theorem changed_wait (kept : Kept table.child? table.system.books) (slot : Int) :
    let done := table.step resolve (.wait slot)
    Changed ⟨table, .wait slot, done.1⟩ done.2 := by
  cases owned : table.child? slot with
  | none =>
      have unchanged : update table.child? slot none = table.child? := by
        rw [← owned, Function.update_eq_self]
      rw [step_wait_of_unowned resolve owned, Changed, child?_put, books_put, unchanged]
      exact .nothing
  | some child =>
      obtain ⟨job, after, waited, books⟩ := step_wait_of_owned kept resolve owned
      rw [waited, Changed, child?_put, books_put, books]
      simp only [Performed.waited?, owned]
      exact .waited owned

theorem changed_move (source target : Int) :
    let done := table.step resolve (.move source target)
    Changed ⟨table, .move source target, done.1⟩ done.2 := by
  by_cases same : source = target
  · have unchanged : table.move source target = table := if_pos same
    rw [step, Changed, unchanged]
    simp only [Performed.waited?, Performed.abandoned?, if_pos same]
    exact .nothing
  · rw [step, Changed, child?_move table same, books_move table same]
    simp only [Performed.waited?, Performed.abandoned?, if_neg same]
    exact .moved same

theorem changed_drop (slot : Int) :
    let done := table.step resolve (.drop slot)
    Changed ⟨table, .drop slot, done.1⟩ done.2 := by
  rw [step, Changed, child?_drop, books_drop]
  exact .dropped slot

variable {table} in
theorem changed_step (kept : Kept table.child? table.system.books) (operation : Operation) :
    let done := table.step resolve operation
    Changed ⟨table, operation, done.1⟩ done.2 := by
  cases operation with
  | run words => exact changed_run table resolve words
  | spawn slot words => exact changed_spawn table resolve slot words
  | wait slot => exact changed_wait resolve kept slot
  | inspect slot => exact Change.nothing
  | move source target => exact changed_move table resolve source target
  | drop slot => exact changed_drop table resolve slot

end Changes

theorem Sound.step {table : Table Job} (sound : table.Sound) (resolve : Resolver Job)
    (operation : Operation) : (table.step resolve operation).2.Sound where
  sorted := sorted_step sound.sorted resolve operation
  kept := (changed_step resolve sound.kept operation).kept sound.kept

def waitedFor (performed : List (Performed Job)) : List Pid :=
  performed.filterMap Performed.waited?

def abandoned (performed : List (Performed Job)) : List Pid :=
  performed.filterMap Performed.abandoned?

theorem waitedFor_cons (first : Performed Job) (rest : List (Performed Job)) :
    waitedFor (first :: rest) = first.waited?.toList ++ waitedFor rest := by
  rw [waitedFor, List.filterMap_cons]
  cases first.waited? <;> rfl

theorem abandoned_cons (first : Performed Job) (rest : List (Performed Job)) :
    abandoned (first :: rest) = first.abandoned?.toList ++ abandoned rest := by
  rw [abandoned, List.filterMap_cons]
  cases first.abandoned? <;> rfl

section Runs

variable {table : Table Job} (sound : table.Sound) (steps : List (Resolver Job × Operation))

include sound

theorem Sound.run : (table.run steps).Sound := by
  induction steps generalizing table with
  | nil => exact sound
  | cons step rest ih => exact ih (sound.step step.1 step.2)

theorem killed_run :
    (table.run steps).system.books.killed =
      table.system.books.killed ++ abandoned (table.performed steps) := by
  induction steps generalizing table with
  | nil => exact (List.append_nil _).symm
  | cons step rest ih =>
      rw [run, ih (sound.step step.1 step.2),
        (changed_step step.1 sound.kept step.2).killed, List.append_assoc, performed,
        abandoned_cons]

theorem reaped_run :
    (table.run steps).system.books.reaped.Perm
      (table.system.books.reaped ++
        (waitedFor (table.performed steps) ++ abandoned (table.performed steps))) := by
  induction steps generalizing table with
  | nil => exact .of_eq (List.append_nil _).symm
  | cons step rest ih =>
      have others := ih (sound.step step.1 step.2)
      -- The books hold what was waited for and what was abandoned as they came.
      rw [(changed_step step.1 sound.kept step.2).reaped, List.append_assoc] at others
      rw [run, performed, waitedFor_cons, abandoned_cons]
      refine others.trans (.append_left _ ?_)
      rw [List.append_assoc, List.append_assoc]
      exact (List.perm_append_comm_assoc _ _ _).append_left _

end Runs

def drops (table : Table Job) (resolve : Resolver Job) : List (Resolver Job × Operation) :=
  table.handles.map fun entry => (resolve, .drop entry.1)

theorem dropAll_eq_run (table : Table Job) (resolve : Resolver Job) :
    table.dropAll = table.run (table.drops resolve) := by
  rw [dropAll, drops]
  generalize table.handles = handles
  induction handles generalizing table with
  | nil => rfl
  | cons entry rest ih => exact ih (table.drop entry.1)

theorem waitedFor_drops (table : Table Job) (resolve : Resolver Job) :
    waitedFor (table.performed (table.drops resolve)) = [] := by
  rw [drops]
  generalize table.handles = handles
  induction handles generalizing table with
  | nil => rfl
  | cons entry rest ih => exact ih (table.drop entry.1)

theorem handles_foldl_drop (slots : List Int) (table : Table Job) :
    (slots.foldl (fun table slot => table.drop slot) table).handles =
      table.handles.filter fun entry => entry.1 ∉ slots := by
  induction slots generalizing table with
  | nil => simp
  | cons slot rest ih =>
      rw [List.foldl_cons, ih, drop, List.filter_filter]
      refine List.filter_congr fun entry _ => ?_
      simp [Bool.and_comm, Bool.beq_eq_decide_eq, bne]

theorem handles_dropAll (table : Table Job) : table.dropAll.handles = [] := by
  rw [dropAll, handles_foldl_drop, List.filter_eq_nil_iff]
  intro entry member
  simpa using ⟨_, member⟩

/-- What holds of a table after operations that have made it from an opening one. -/
structure Accounted (table : Table Job) (performed : List (Performed Job)) : Prop where
  /-- The children that were started and not yet reaped correspond to the handles that can be
  waited for. -/
  owned : Set.BijOn table.child? {slot | table.waitable slot}
    (some '' {child |
      child ∈ table.system.books.started ∧ child ∉ table.system.books.reaped})
  startedOnce : table.system.books.started.Nodup
  reapedOnce : table.system.books.reaped.Nodup
  /-- A child is reaped when it is waited for, or when its handle is destroyed or
  overwritten. -/
  reapedBy : table.system.books.reaped.Perm (waitedFor performed ++ abandoned performed)
  /-- No child is waited for twice, or abandoned twice, or abandoned after a wait. -/
  settledOnce : (waitedFor performed ++ abandoned performed).Nodup
  /-- Only what is abandoned is killed. -/
  killings : table.system.killings = abandoned performed
  killedFirst : table.system.books.entries.Pairwise fun earlier later =>
    ∀ child, earlier = .reaped child → later ≠ .killed child
  waits : ∀ resolve slot, table.waitable slot →
    ∃ job after, table.step resolve (.wait slot) = (.waited (.ok job) false, after)
  /-- A wait through a handle that owns nothing fails and changes nothing. -/
  refusesWait : ∀ resolve slot handle, table.handle? slot = some handle → ¬ handle.waitable →
    ∃ failure, failure.kind = .failedPrecondition ∧
      table.step resolve (.wait slot) = (.waited (.error failure) false, table)
  selfMove : ∀ resolve slot, (table.step resolve (.move slot slot)).2 = table
  /-- Once all handles are destroyed, every child was reaped, and was killed unless it was
  waited for. -/
  closes :
    table.dropAll.handles = [] ∧ table.dropAll.system.children = [] ∧
      table.dropAll.system.books.started.Perm table.dropAll.system.books.reaped ∧
      table.dropAll.system.books.started.Perm
        (waitedFor performed ++ table.dropAll.system.killings)

namespace Sound

variable {table : Table Job}

theorem children_eq_nil (sound : table.Sound) (noHandles : table.handles = []) :
    table.system.children = [] := by
  have noLive : table.system.books.live = [] := by
    refine List.eq_nil_iff_forall_not_mem.mpr fun child live => ?_
    obtain ⟨slot, owned⟩ := (sound.kept.live_iff child).mp live
    simp [child?, handle?, noHandles] at owned
  exact List.map_eq_nil_iff.mp noLive

theorem dropAll (sound : table.Sound) : table.dropAll.Sound := by
  rw [dropAll_eq_run table fun _ => .error .noChildren]
  exact sound.run _

theorem settled_dropAll (sound : table.Sound) :
    ∃ left, table.dropAll.system.books.killed = table.system.books.killed ++ left ∧
      table.dropAll.system.books.reaped.Perm (table.system.books.reaped ++ left) := by
  rw [dropAll_eq_run table fun _ => .error .noChildren]
  refine ⟨_, killed_run sound _, ?_⟩
  have reaped := reaped_run sound (table.drops fun _ => .error .noChildren)
  rwa [waitedFor_drops, List.nil_append] at reaped

theorem started_dropAll (sound : table.Sound) :
    table.dropAll.system.books.started.Perm table.dropAll.system.books.reaped := by
  have accounts := sound.dropAll.kept.balanced.accounted
  have noLive : table.dropAll.system.books.live = [] :=
    List.map_eq_nil_iff.mpr (sound.dropAll.children_eq_nil (handles_dropAll table))
  rwa [noLive, List.nil_append] at accounts

theorem step_wait_of_empty (sound : table.Sound) (resolve : Resolver Job) {slot : Int}
    {handle : Handle} (present : table.handle? slot = some handle)
    (unwaitable : ¬ handle.waitable) :
    table.step resolve (.wait slot) = (.waited (.error notWaitable) false, table) := by
  obtain rfl : handle = {} := congrArg Handle.mk (Option.not_isSome_iff_eq_none.mp unwaitable)
  have unowned : table.child? slot = none := by
    rw [child?, present]
    rfl
  rw [step_wait_of_unowned resolve unowned, put, sound.sorted.insert_of_lookup present]

theorem accounted {performed : List (Performed Job)} (sound : table.Sound)
    (killed : table.system.books.killed = abandoned performed)
    (reaped : table.system.books.reaped.Perm (waitedFor performed ++ abandoned performed)) :
    Accounted table performed where
  owned := by
    simpa only [waitable_eq] using sound.kept.bijOn
  startedOnce := sound.kept.balanced.startedOnce
  reapedOnce := sound.kept.balanced.reapedOnce
  reapedBy := reaped
  settledOnce := reaped.nodup_iff.mp sound.kept.balanced.reapedOnce
  killings := by
    rw [System.killings_eq, killed]
  killedFirst := sound.kept.balanced.ordered
  waits := by
    intro resolve slot owns
    rw [waitable_eq] at owns
    obtain ⟨child, owned⟩ := Option.isSome_iff_exists.mp owns
    obtain ⟨job, after, waited, -⟩ := step_wait_of_owned sound.kept resolve owned
    exact ⟨job, _, waited⟩
  refusesWait := fun resolve _ _ present unwaitable =>
    ⟨notWaitable, rfl, sound.step_wait_of_empty resolve present unwaitable⟩
  selfMove := fun _ _ => if_pos rfl
  closes := by
    obtain ⟨left, killedAll, reapedAll⟩ := sound.settled_dropAll
    refine ⟨handles_dropAll table, sound.dropAll.children_eq_nil (handles_dropAll table),
      sound.started_dropAll, ?_⟩
    rw [System.killings_eq, killedAll, killed, ← List.append_assoc]
    calc table.dropAll.system.books.started.Perm table.dropAll.system.books.reaped :=
          sound.started_dropAll
      List.Perm _ (table.system.books.reaped ++ left) := reapedAll
      List.Perm _ (waitedFor performed ++ abandoned performed ++ left) :=
          reaped.append_right left

end Sound

/-- Whatever is done with any number of handles, the children are accounted for. -/
theorem accounted_run (signals : Signals) (firstPid : Pid)
    (steps : List (Resolver Job × Operation)) :
    Accounted ((opening signals firstPid).run steps)
      ((opening signals firstPid).performed steps) := by
  have sound : (opening signals firstPid : Table Job).Sound := sound_opening signals firstPid
  exact (sound.run steps).accounted (killed_run sound steps) (reaped_run sound steps)

/-- One child is moved and abandoned where it went, one is waited for, and one is left over. -/
theorem accounted_run_moved :
    let resolve : Resolver Unit := fun _ => .ok ()
    let steps : List (Resolver Unit × Operation) :=
      [(resolve, .spawn 0 [ascii "a"]), (resolve, .move 0 1), (resolve, .spawn 1 [ascii "b"]),
        (resolve, .wait 1), (resolve, .spawn 0 [ascii "c"])]
    let table := (opening {} 1).run steps
    let performed := (opening {} 1).performed steps
    Accounted table performed ∧ waitedFor performed = [2] ∧ abandoned performed = [1] ∧
      table.system.killings = [1] ∧ table.system.books.reaped.Perm [2, 1] ∧
      table.child? 0 = some 3 ∧ ¬table.waitable 1 ∧
      table.dropAll.system.books.started.Perm (2 :: table.dropAll.system.killings) := by
  intro resolve steps table performed
  have accounted : Accounted table performed := accounted_run {} 1 steps
  have waited : waitedFor performed = [2] := by decide
  have lost : abandoned performed = [1] := by decide
  refine ⟨accounted, waited, lost, ?_, ?_, by decide, by decide, ?_⟩
  · rw [accounted.killings, lost]
  · simpa [waited, lost] using accounted.reapedBy
  · simpa [waited] using accounted.closes.2.2.2

end Table

end TradeLocal.Children

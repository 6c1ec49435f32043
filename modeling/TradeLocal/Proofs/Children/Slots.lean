import Mathlib.Logic.Function.Basic
import TradeLocal.Children.Table
import TradeLocal.Proofs.Children.Books

/-!
# Slots and their owners

A table seen as a function from slots to the children their handles own.  Each operation on a
table updates that function in a slot or two, and enters what it did into the books.
-/

namespace TradeLocal.Children.Table

variable {Job : Type}

section Handles

variable {slot other : Int} {handle : Handle} {handles : List (Int × Handle)}

theorem lookup_cons_other (different : other ≠ slot) :
    ((slot, handle) :: handles).lookup other = handles.lookup other := by
  rw [List.lookup_cons, beq_false_of_ne different]

@[simp]
theorem lookup_insert_self : (insert slot handle handles).lookup slot = some handle := by
  induction handles with
  | nil => simp [insert]
  | cons entry rest ih =>
      obtain ⟨key, present⟩ := entry
      rw [insert]
      split
      · simp
      · split
        · simp
        · rename_i different
          rw [lookup_cons_other different, ih]

theorem lookup_insert_other (different : other ≠ slot) :
    (insert slot handle handles).lookup other = handles.lookup other := by
  induction handles with
  | nil => exact lookup_cons_other different
  | cons entry rest ih =>
      obtain ⟨key, present⟩ := entry
      rw [insert]
      split
      · exact lookup_cons_other different
      · split
        · subst key
          rw [lookup_cons_other different, lookup_cons_other different]
        · by_cases found : other = key
          · simp [found]
          · rw [lookup_cons_other found, lookup_cons_other found, ih]

@[simp]
theorem lookup_filter_self :
    (handles.filter fun entry => entry.1 != slot).lookup slot = none := by
  refine List.lookup_eq_none_iff.mpr fun entry member => ?_
  rw [bne_comm]
  exact (List.mem_filter.mp member).2

theorem lookup_filter_other (different : other ≠ slot) :
    (handles.filter fun entry => entry.1 != slot).lookup other = handles.lookup other := by
  induction handles with
  | nil => rfl
  | cons entry rest ih =>
      obtain ⟨key, present⟩ := entry
      by_cases same : key = slot
      · subst key
        rw [List.filter_cons_of_neg (by simp), ih, lookup_cons_other different]
      · rw [List.filter_cons_of_pos (by simpa using same)]
        by_cases found : other = key
        · simp [found]
        · rw [lookup_cons_other found, lookup_cons_other found, ih]

/-- Handles stand in the order of their slots, one in a slot. -/
def Sorted (handles : List (Int × Handle)) : Prop :=
  handles.Pairwise fun first second => first.1 < second.1

theorem mem_of_mem_insert {entry : Int × Handle} (member : entry ∈ insert slot handle handles) :
    entry = (slot, handle) ∨ entry ∈ handles := by
  induction handles with
  | nil => exact .inl (List.mem_singleton.mp member)
  | cons first rest ih =>
      obtain ⟨key, present⟩ := first
      rw [insert] at member
      split at member
      · exact List.mem_cons.mp member
      · split at member
        · exact (List.mem_cons.mp member).imp_right (List.mem_cons_of_mem _)
        · rcases List.mem_cons.mp member with rfl | later
          · exact .inr List.mem_cons_self
          · exact (ih later).imp_right (List.mem_cons_of_mem _)

theorem Sorted.insert (sorted : Sorted handles) (slot : Int) (handle : Handle) :
    Sorted (insert slot handle handles) := by
  induction handles with
  | nil => exact List.pairwise_singleton _ _
  | cons first rest ih =>
      obtain ⟨key, present⟩ := first
      obtain ⟨least, restSorted⟩ := List.pairwise_cons.mp sorted
      rw [Table.insert]
      split
      case isTrue before =>
        refine List.pairwise_cons.mpr ⟨?_, sorted⟩
        intro entry member
        rcases List.mem_cons.mp member with rfl | later
        · exact before
        · exact Int.lt_trans before (least entry later)
      case isFalse notBefore =>
        split
        case isTrue same =>
          subst key
          exact List.pairwise_cons.mpr ⟨least, restSorted⟩
        case isFalse different =>
          refine List.pairwise_cons.mpr ⟨?_, ih restSorted⟩
          intro entry member
          rcases mem_of_mem_insert member with rfl | later
          · show key < slot
            omega
          · exact least entry later

theorem Sorted.filter (sorted : Sorted handles) (keep : Int × Handle → Bool) :
    Sorted (handles.filter keep) :=
  List.Pairwise.filter keep sorted

theorem Sorted.insert_of_lookup (sorted : Sorted handles)
    (present : handles.lookup slot = some handle) : Table.insert slot handle handles = handles := by
  induction handles with
  | nil => simp at present
  | cons first rest ih =>
      obtain ⟨key, held⟩ := first
      obtain ⟨least, restSorted⟩ := List.pairwise_cons.mp sorted
      rw [Table.insert]
      by_cases same : slot = key
      · subst key
        obtain rfl : held = handle := by simpa using present
        simp
      · rw [lookup_cons_other same] at present
        obtain ⟨front, back, rfl, -⟩ := List.lookup_eq_some_iff.mp present
        have after : key < slot := least (slot, handle) (by simp)
        rw [if_neg (Int.not_lt.mpr (Int.le_of_lt after)), if_neg same, ih restSorted present]

end Handles

variable (table : Table Job) (slot : Int) (handle : Handle)

@[simp]
theorem handle?_put :
    (table.put slot handle).handle? = Function.update table.handle? slot (some handle) := by
  funext other
  by_cases same : other = slot
  · subst other
    simp [handle?, put]
  · simp [handle?, put, lookup_insert_other same, same]

@[simp]
theorem handle?_assign :
    (table.assign slot handle).handle? = Function.update table.handle? slot (some handle) :=
  handle?_put _ slot handle

@[simp]
theorem handle?_drop : (table.drop slot).handle? = Function.update table.handle? slot none := by
  funext other
  by_cases same : other = slot
  · subst other
    simp [handle?, drop]
  · simp [handle?, drop, lookup_filter_other same, same]

/-- A handle that is stored first in a slot of its own, moved from there, and leaves nothing
behind is as good as stored at once. -/
theorem assign_through {temporary target : Int} (different : temporary ≠ target)
    (unused : table.handle? temporary = none) :
    let through := ((table.put temporary handle).move temporary target).drop temporary
    through.system = (table.assign target handle).system ∧
      through.handle? = (table.assign target handle).handle? := by
  intro through
  have moved : (table.put temporary handle).move temporary target =
      ((table.put temporary handle).assign target handle).put temporary {} := by
    rw [move, if_neg different, handle?_put, Function.update_self, Option.getD_some]
  constructor
  · have owned : (table.put temporary handle).handle? target = table.handle? target := by
      rw [handle?_put, Function.update_of_ne different.symm]
    simp only [through, moved, drop, handle?_put, Function.update_self]
    show (((table.put temporary handle).handle? target).getD {}).drop table.system = _
    rw [owned]
    rfl
  · simp only [through, moved, handle?_drop, handle?_put, handle?_assign]
    funext other
    by_cases same : other = temporary
    · subst other
      simp [different, unused]
    · by_cases isTarget : other = target
      · subst other
        simp [same]
      · simp [same, isTarget]

def child? : Option Pid :=
  (table.handle? slot).bind Handle.child

theorem child?_of_handle? {value : Option Handle} {after : Table Job}
    (updated : after.handle? = Function.update table.handle? slot value) :
    after.child? = Function.update table.child? slot (value.bind Handle.child) := by
  funext other
  rw [child?, updated]
  by_cases same : other = slot
  · subst other
    simp
  · simp [same, child?]

theorem waitable_eq : table.waitable slot = (table.child? slot).isSome := by
  rw [waitable, child?]
  cases table.handle? slot <;> rfl

@[simp]
theorem child_getD : ((table.handle? slot).getD {}).child = table.child? slot := by
  rw [child?]
  cases table.handle? slot <;> rfl

@[simp]
theorem child?_put :
    (table.put slot handle).child? = Function.update table.child? slot handle.child :=
  child?_of_handle? table slot (handle?_put table slot handle)

@[simp]
theorem child?_assign :
    (table.assign slot handle).child? = Function.update table.child? slot handle.child :=
  child?_of_handle? table slot (handle?_assign table slot handle)

@[simp]
theorem child?_drop : (table.drop slot).child? = Function.update table.child? slot none :=
  child?_of_handle? table slot (handle?_drop table slot)

theorem child?_move {source target : Int} (different : source ≠ target) :
    (table.move source target).child? =
      Function.update (Function.update table.child? target (table.child? source)) source none := by
  rw [move, if_neg different]
  simp

@[simp]
theorem books_put : (table.put slot handle).system.books = table.system.books := rfl

@[simp]
theorem books_assign :
    (table.assign slot handle).system.books = table.system.books.abandon (table.child? slot) := by
  simp [assign]

@[simp]
theorem books_drop :
    (table.drop slot).system.books = table.system.books.abandon (table.child? slot) := by
  simp [drop]

theorem books_move {source target : Int} (different : source ≠ target) :
    (table.move source target).system.books =
      table.system.books.abandon (table.child? target) := by
  rw [move, if_neg different]
  simp

end TradeLocal.Children.Table

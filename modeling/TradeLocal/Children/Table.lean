import TradeLocal.Children.Handle

/-!
# Tables of handles

Any number of handles in numbered slots, and the operations on them: starting a child into
a slot, waiting, moving a handle from slot to slot, dropping one.
-/

namespace TradeLocal.Children

/-- A system and the handles that are alive, in the order of their slots. -/
structure Table (Job : Type) where
  system : System Job := {}
  handles : List (Int × Handle) := []

inductive Operation where
  /-- Run a program to completion, through no slot. -/
  | run (words : List Bytes)
  | spawn (slot : Int) (words : List Bytes)
  | wait (slot : Int)
  /-- Ask whether a slot owns a child. -/
  | inspect (slot : Int)
  | move (source target : Int)
  | drop (slot : Int)
  deriving DecidableEq, Repr

inductive Reply (Job : Type) where
  | ran (result : Except Failure Job)
  | spawned (result : Except SpawnError Unit)
  | waited (result : Except Failure Job) (waitable : Bool)
  | inspected (waitable : Bool)
  | moved (source target : Bool)
  | dropped

def Reply.finished? {Job : Type} : Reply Job → Option Job
  | ran (.ok job) | waited (.ok job) _ => some job
  | _ => none

namespace Table

variable {Job : Type}

def handle? (table : Table Job) (slot : Int) : Option Handle :=
  table.handles.lookup slot

def waitable (table : Table Job) (slot : Int) : Bool :=
  (table.handle? slot).any Handle.waitable

def insert (slot : Int) (handle : Handle) : List (Int × Handle) → List (Int × Handle)
  | [] => [(slot, handle)]
  | (other, present) :: rest =>
      if slot < other then (slot, handle) :: (other, present) :: rest
      else if slot = other then (slot, handle) :: rest
      else (other, present) :: insert slot handle rest

def put (slot : Int) (handle : Handle) (table : Table Job) : Table Job :=
  { table with handles := insert slot handle table.handles }

/-- Store a handle in a slot.  The handle that was there is dropped first. -/
def assign (slot : Int) (handle : Handle) (table : Table Job) : Table Job :=
  { table with system := ((table.handle? slot).getD {}).drop table.system }.put slot handle

/-- Move a handle to another slot; the first slot owns nothing afterwards.  A move to the
same slot changes nothing. -/
def move (source target : Int) (table : Table Job) : Table Job :=
  if source = target then table
  else
    let handle := (table.handle? source).getD {}
    (table.assign target handle).put source {}

def drop (slot : Int) (table : Table Job) : Table Job where
  system := ((table.handle? slot).getD {}).drop table.system
  handles := table.handles.filter fun entry => entry.1 != slot

def step (resolve : Resolver Job) (table : Table Job) : Operation → Reply Job × Table Job
  | .run words =>
      let done := launch resolve words table.system
      (.ran done.1, { table with system := done.2 })
  | .spawn slot words =>
      match Handle.spawn resolve words table.system with
      | (.error error, after) => (.spawned (.error error), { table with system := after })
      | (.ok handle, after) =>
          -- The new child runs before the one that the slot owns is killed.
          (.spawned (.ok ()), { table with system := after }.assign slot handle)
  | .wait slot =>
      let waited := ((table.handle? slot).getD {}).wait table.system
      (.waited waited.1 waited.2.1.waitable,
        { table with system := waited.2.2 }.put slot waited.2.1)
  | .inspect slot => (.inspected (table.waitable slot), table)
  | .move source target =>
      let moved := table.move source target
      (.moved (moved.waitable source) (moved.waitable target), moved)
  | .drop slot => (.dropped, table.drop slot)

def dropAll (table : Table Job) : Table Job :=
  (table.handles.map Prod.fst).foldl (fun table slot => table.drop slot) table

end Table

end TradeLocal.Children

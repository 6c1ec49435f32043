import TradeLocal.Host.Path
import TradeLocal.WaitStatus

/-!
# Machines and processes

A machine holds what all processes share: the files, what is open, the pipes, and what has
been written to the outside.  A process sees what is open through its own numbers, its
descriptors.  What a process does is `Work` on both, which keeps all it has changed also
when the process is stopped.

Processes run one after the other.  A machine has a clock, which only sleeping moves.
-/

namespace TradeLocal.Host

inductive Object where
  | node (number : Nat)
  | pipe (number : Nat)
  /-- The standard output that is seen from outside. -/
  | out
  /-- The standard error that is seen from outside. -/
  | err
  deriving DecidableEq, Repr

/-- An open file, with the place in it at which reading and writing go on. -/
structure OpenFile where
  object : Object
  reads : Bool
  writes : Bool
  appends : Bool := false
  offset : Nat := 0
  deriving DecidableEq, Repr

structure Pipe where
  /-- The pieces to be read next, the oldest first. -/
  ready : List Bytes := []
  /-- The pieces after those, the latest first. -/
  later : List Bytes := []
  /-- How much has been written in all. -/
  volume : Nat := 0
  /-- How often something has been written. -/
  writes : Nat := 0

namespace Pipe

/-- How much may be written before the writer is stopped as one that never ends. -/
def volumeLimit : Nat := 8388608

def writeLimit : Nat := 100000

def isFull (pipe : Pipe) : Bool :=
  volumeLimit < pipe.volume || writeLimit < pipe.writes

def push (pipe : Pipe) (text : Bytes) : Pipe :=
  { pipe with
    later := text :: pipe.later
    volume := pipe.volume + text.length
    writes := pipe.writes + 1 }

def pop (pipe : Pipe) : Bytes × Pipe :=
  match pipe.ready with
  | piece :: ready => (piece, { pipe with ready })
  | [] =>
      match pipe.later.reverse with
      | [] => ([], pipe)
      | piece :: ready => (piece, { pipe with ready, later := [] })

def unpop (pipe : Pipe) (text : Bytes) : Pipe :=
  if text.isEmpty then pipe else { pipe with ready := text :: pipe.ready }

end Pipe

structure Machine where
  files : Files
  opened : Array OpenFile := #[]
  pipes : Array Pipe := #[]
  /-- What has been written to standard output, the latest piece first. -/
  out : List Bytes := []
  /-- What has been written to standard error, the latest piece first. -/
  err : List Bytes := []
  nextProcess : Nat := 3
  /-- The time in nanoseconds since the start. -/
  clock : Nat := 0
  /-- The time up to which a process may sleep. -/
  deadline : Option Nat := none
  /-- Signals that were sent to other processes, with their receivers. -/
  sent : List (Nat × Nat) := []

structure Process where
  number : Nat := 2
  /-- The processes above it, the nearest first. -/
  ancestors : List Nat := [1]
  here : Location
  /-- Descriptors with the numbers of open files. -/
  descriptors : List (Nat × Nat) := []
  /-- The permissions that new files do not get. -/
  mask : Nat := 0o022
  /-- The signals that do nothing to the process. -/
  ignored : List Nat := []
  /-- What it will write to standard output when it ends, the latest first. -/
  unwritten : List Bytes := []

structure Workplace where
  machine : Machine
  process : Process

inductive Stop where
  | ended (ending : WaitStatus.Ending)
  /-- It sleeps past the time it was given. -/
  | asleep
  /-- It has taken more steps than it may. -/
  | exhausted
  deriving DecidableEq, Repr

abbrev Work := ExceptT Stop (StateM Workplace)

def brokenPipeSignal : Nat := 13

namespace Work

def machine : Work Machine :=
  return (← get).machine

def process : Work Process :=
  return (← get).process

def files : Work Files :=
  return (← get).machine.files

def here : Work Location :=
  return (← get).process.here

def changeMachine (change : Machine → Machine) : Work Unit :=
  modify fun workplace => { workplace with machine := change workplace.machine }

def changeProcess (change : Process → Process) : Work Unit :=
  modify fun workplace => { workplace with process := change workplace.process }

def changeFiles (change : Files → Files) : Work Unit :=
  changeMachine fun machine => { machine with files := change machine.files }

def exit {α : Type} (code : Nat) : Work α :=
  throw (.ended (.exited code))

def opened? (descriptor : Nat) : Work (Option (Nat × OpenFile)) := do
  let workplace ← get
  return (workplace.process.descriptors.lookup descriptor).bind fun number =>
    (workplace.machine.opened[number]?).map (number, ·)

def setDescriptor (descriptor number : Nat) : Work Unit :=
  changeProcess fun process =>
    { process with
      descriptors := (descriptor, number) :: process.descriptors.filter (·.1 != descriptor) }

def closeDescriptor (descriptor : Nat) : Work Unit :=
  changeProcess fun process =>
    { process with descriptors := process.descriptors.filter (·.1 != descriptor) }

def addOpened (new : OpenFile) : Work Nat := do
  let number := (← machine).opened.size
  changeMachine fun machine => { machine with opened := machine.opened.push new }
  return number

def changeOpened (number : Nat) (change : OpenFile → OpenFile) : Work Unit :=
  changeMachine fun machine => { machine with opened := machine.opened.modify number change }

def makePipe : Work (Nat × Nat) := do
  let pipe := (← machine).pipes.size
  changeMachine fun machine => { machine with pipes := machine.pipes.push {} }
  let reading ← addOpened { object := .pipe pipe, reads := true, writes := false }
  let writing ← addOpened { object := .pipe pipe, reads := false, writes := true }
  return (reading, writing)

structure Request where
  reads : Bool := false
  writes : Bool := false
  appends : Bool := false
  /-- Make the file if there is none. -/
  creates : Bool := false
  /-- Refuse a file that is there. -/
  isNew : Bool := false
  truncates : Bool := false
  deriving DecidableEq, Repr

def Request.reading : Request := { reads := true }

def Request.writing : Request := { writes := true, creates := true, truncates := true }

def Request.appending : Request := { writes := true, appends := true, creates := true }

def openNode (request : Request) (number : Nat) (node : Node) :
    Work (Except SystemError Nat) := do
  let new : OpenFile :=
    { object := .node number, reads := request.reads, writes := request.writes
      appends := request.appends }
  match node with
  | .directory _ _ =>
      if request.writes || request.creates then return .error .isDirectory
      else return .ok (← addOpened new)
  | .device .terminal => return .error .noDevice
  | .device (.descriptor descriptor) =>
      match ← opened? descriptor with
      | none => return .error .notFound
      | some (_, file) => do
          match file.object with
          | .node number =>
              if request.truncates then
                changeFiles fun files =>
                  match files.node? number with
                  | some (.file _ mode) => files.replace number (.file [] mode)
                  | _ => files
          | _ => pure ()
          return .ok (← addOpened { new with object := file.object })
  | .file _ mode => do
      if request.truncates then
        changeFiles fun files => files.replace number (.file [] mode)
      return .ok (← addOpened new)
  | _ => return .ok (← addOpened new)

def openFile (request : Request) (path : Bytes) : Work (Except SystemError Nat) := do
  if request.creates then
    match locatePlace (← files) (← here) path linkLimit with
    | .error error => return .error error
    | .ok (.present found) =>
        if request.isNew then return .error .alreadyExists
        else openNode request found.number found.node
    | .ok (.absent entry) => do
        let (number, files) := (← files).add (.file [] (0o666 &&& (0o777 - (← process).mask)))
        changeFiles fun _ => files.enter entry.directory entry.name number
        return .ok (← addOpened
          { object := .node number, reads := request.reads, writes := request.writes
            appends := request.appends })
  else
    match find (← files) (← here) path with
    | .error error => return .error error
    | .ok found => openNode request found.number found.node

def insertAt (offset : Nat) (new present : Bytes) : Bytes :=
  if offset == present.length then present ++ new
  else
    present.take offset ++ List.replicate (offset - present.length) 0 ++ new ++
      present.drop (offset + new.length)

def writeOpened (number : Nat) (file : OpenFile) (text : Bytes) :
    Work (Except SystemError Unit) := do
  if !file.writes then return .error .badDescriptor
  match file.object with
  | .out => changeMachine fun machine => { machine with out := text :: machine.out }
  | .err => changeMachine fun machine => { machine with err := text :: machine.err }
  | .pipe pipe => do
      if (← machine).pipes[pipe]?.any Pipe.isFull then
        if (← process).ignored.contains brokenPipeSignal then return .error .brokenPipe
        else throw (.ended (.signaled brokenPipeSignal))
      changeMachine fun machine =>
        { machine with pipes := machine.pipes.modify pipe (·.push text) }
  | .node node => do
      match (← files).node? node with
      | some (.device .full) => return .error .noSpace
      | some (.file present mode) => do
          let offset := if file.appends then present.length else file.offset
          changeFiles fun files => files.replace node (.file (insertAt offset text present) mode)
          changeOpened number fun file => { file with offset := offset + text.length }
      | _ => pure ()
  return .ok ()

def write (descriptor : Nat) (text : Bytes) : Work (Except SystemError Unit) := do
  match ← opened? descriptor with
  | none => return .error .badDescriptor
  | some (number, file) => writeOpened number file text

/-- How much a device without end yields at once. -/
def blockLength : Nat := 131072

/-- Read at most `limit` bytes from an open file; nothing at its end. -/
def readOpened (limit : Nat) (number : Nat) (file : OpenFile) :
    Work (Except SystemError Bytes) := do
  if !file.reads then return .error .badDescriptor
  match file.object with
  | .out | .err => return .ok []
  | .pipe pipe =>
      match (← machine).pipes[pipe]? with
      | none => return .ok []
      | some present => do
          let (piece, rest) := present.pop
          let rest := rest.unpop (piece.drop limit)
          changeMachine fun machine =>
            { machine with pipes := machine.pipes.setIfInBounds pipe rest }
          return .ok (piece.take limit)
  | .node node =>
      match (← files).node? node with
      | some (.directory _ _) => return .error .isDirectory
      | some (.device .zero) | some (.device .full) =>
          return .ok (List.replicate (min limit blockLength) 0)
      | some (.file text _) => do
          let taken := (text.drop file.offset).take limit
          changeOpened number fun file => { file with offset := file.offset + taken.length }
          return .ok taken
      | _ => return .ok []

def read (limit : Nat) (descriptor : Nat) : Work (Except SystemError Bytes) := do
  match ← opened? descriptor with
  | none => return .error .badDescriptor
  | some (number, file) => readOpened limit number file

/-- The pieces an open file yields until its end, the latest first.  Not much more than
`room` bytes are read. -/
def pieces (number : Nat) : Nat → Nat → List Bytes → Work (Except SystemError (List Bytes))
  | 0, _, read => return .ok read
  | fuel + 1, room, read => do
      match (← machine).opened[number]? with
      | none => return .ok read
      | some file =>
          match ← readOpened Pipe.volumeLimit number file with
          | .error error => return .error error
          | .ok [] => return .ok read
          | .ok piece =>
              if room < piece.length then return .ok (piece :: read)
              else pieces number fuel (room - piece.length) (piece :: read)

def pieceLimit : Nat := 200000

def readAllOpened (number : Nat) : Work (Except SystemError Bytes) := do
  return (← pieces number pieceLimit (2 * Pipe.volumeLimit) []).map (·.reverse.flatten)

def readAll (descriptor : Nat) : Work (Except SystemError Bytes) := do
  match ← opened? descriptor with
  | none => return .error .badDescriptor
  | some (number, _) => readAllOpened number

def readFile (path : Bytes) : Work (Except SystemError Bytes) := do
  match ← openFile .reading path with
  | .error error => return .error error
  | .ok number => readAllOpened number

/-- Put a text that was read back in front of what is read next. -/
def unread (descriptor : Nat) (text : Bytes) : Work Unit := do
  match ← opened? descriptor with
  | none => pure ()
  | some (number, file) =>
      match file.object with
      | .pipe pipe =>
          changeMachine fun machine =>
            { machine with pipes := machine.pipes.modify pipe (·.unpop text) }
      | .node _ =>
          changeOpened number fun file => { file with offset := file.offset - text.length }
      | _ => pure ()

def sleep (duration : Nat) : Work Unit := do
  let now := (← machine).clock + duration
  if ((← machine).deadline).any (· < now) then throw .asleep
  changeMachine fun machine => { machine with clock := now }

/-- Do something as a process of its own, of which only changes to the machine remain. -/
def asProcess {α : Type} (work : Work α) : Work α := do
  let before ← process
  let number := (← machine).nextProcess
  changeMachine fun machine => { machine with nextProcess := number + 1 }
  changeProcess fun process =>
    { process with number, ancestors := before.number :: before.ancestors, unwritten := [] }
  let result ← ExceptT.mk (return .ok (← work.run))
  changeProcess fun _ => before
  match result with
  | .ok value => return value
  | .error stop => throw stop

def ending (work : Work Nat) : Work WaitStatus.Ending := do
  match ← ExceptT.mk (return .ok (← work.run)) with
  | .ok code => return .exited (code % 256)
  | .error (.ended ending) => return ending
  | .error stop => throw stop

end Work

end TradeLocal.Host

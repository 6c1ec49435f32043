import TradeLocal.Shell.Builtin.Control

/-!
# Jobs

The builtins that deal with commands in the background and with signals.
-/

namespace TradeLocal.Shell

open TradeLocal.Host TradeLocal.Numeral

namespace Script

def isForgettable (child : Child) : Bool :=
  child.isWaited && child.isNoticed

/-- Free the place of the first job that may be forgotten, or find a place that is free. -/
def claimSlot : Script Nat := do
  let children := (← context).children
  match children with
  | [] => return 1
  | _ => do
      let isFree (slot : Nat) : Bool :=
        match children.find? (·.slot == slot) with
        | none => true
        | some child => isForgettable child
      let slot :=
        ((List.range (children.length + 1)).map (· + 1)).find? isFree |>.getD 1
      changeContext fun context =>
        { context with children := children.filter (·.slot != slot) }
      return slot

def addChild (process stages : Nat) : Script Unit := do
  let slot ← claimSlot
  changeContext fun context =>
    { context with
      children := { slot, process, stages } :: context.children
      background? := some process }

def failJob {α : Type} (name : Bytes) : Script α :=
  fail (ascii "No such job: " ++ name)

/-- The job that a word with a percent sign names; without one the latest. -/
def jobNamed (word? : Option Bytes) (isControlled : Bool) : Script Child := do
  let children := (← context).children
  let shown := word?.getD (ascii "(null)")
  let found ←
    match word? with
    | none | some [Byte.percent] | some [Byte.percent, Byte.percent]
    | some [Byte.percent, Byte.plus] =>
        match children with
        | [] => fail (ascii "No current job")
        | child :: _ => pure child
    | some [Byte.percent, Byte.hyphen] =>
        match children with
        | _ :: child :: _ => pure child
        | _ => fail (ascii "No previous job")
    | some (Byte.percent :: digits) =>
        match (Bytes.toNat? digits).bind fun slot => children.find? (·.slot == slot) with
        | some child => pure child
        | none => failJob shown
    | some word => failJob word
  if isControlled then fail (ascii "job " ++ shown ++ ascii " not created under job control")
  else return found

def stateColumn : Nat := 33

def showJob (detail : Option Bool) (child : Child) : Script Unit := do
  let children := (← context).children
  let ending? := (← get).finished.lookup child.process
  let mark :=
    if children.head? == some child then Byte.plus
    else if (children[1]?) == some child then Byte.hyphen
    else Byte.space
  let state :=
    match ending? with
    | none => ascii "Running"
    | some (.exited 0) => ascii "Done"
    | some (.exited code) => ascii "Done(" ++ Bytes.ofNat code ++ ascii ")"
    | some (.signaled signal) => Signal.text signal
  let text := Byte.openBracket :: Bytes.ofNat child.slot ++ ascii "] " ++ [mark, Byte.space] ++
    (if detail == some false then Bytes.ofNat child.process ++ [Byte.space] else []) ++ state
  if detail == some true then out (Bytes.ofNat child.process ++ [Byte.newline])
  else
    out (text ++ List.replicate (max 1 (stateColumn - text.length)) Byte.space ++
      (List.replicate (child.stages - 1) (ascii " | ")).flatten ++ [Byte.newline])
  if ending?.isSome then
    changeContext fun context =>
      { context with children := context.children.filter (· != child) }

def jobs (nested : Nested) (words : List Bytes) : Script Nat := do
  let (read, words) ← options "lp" words
  settleNow nested
  notice
  let detail := (read.getLast?.map Prod.fst).map (· == Byte.ofChar 'p')
  if words.isEmpty then
    for child in (← context).children do showJob detail child
  else
    for word in words do showJob detail (← jobNamed (some word) false)
  return 0

/-- Refuse to let a job go on, which has never been under control. -/
def continueJobs (words : List Bytes) : Script Nat := do
  let words ← withoutOptions words
  let _ ← jobNamed words.head? true
  return 0

/-- The exit code of a wait that a signal has ended for which there is a command. -/
def interruption? : Script (Option Nat) :=
  return (← context).arrived.head?.map (128 + ·)

def waitForJob (nested : Nested) (child : Child) : Script Nat := do
  waitUntilEnded nested child.process
  if let some code ← interruption? then return code
  notice
  changeContext fun context =>
    { context with
      children := context.children.map fun other =>
        if other.process == child.process then { other with isWaited := true } else other }
  match (← get).finished.lookup child.process with
  | none => return notFoundStatus
  | some ending => do
      unless child.isNoticed do mention ending
      return ending.shellCode

def waitForAll (nested : Nested) : Script Nat := do
  for child in (← context).children do
    waitUntilEnded nested child.process
    if let some code ← interruption? then return code
  notice
  changeContext fun context =>
    { context with
      children := context.children.map fun child => { child with isWaited := true } }
  return 0

def wait (nested : Nested) (words : List Bytes) : Script Nat := do
  let words ← withoutOptions words
  if words.isEmpty then waitForAll nested
  else
    words.foldlM
      (fun _ word => do
        if word.head? == some Byte.percent then
          waitForJob nested (← jobNamed (some word) false)
        else
          let process ← number word
          match (← context).children.find? (·.process == process) with
          | none => return notFoundStatus
          | some child => waitForJob nested child)
      notFoundStatus

/-- Send a signal to a process.  Signal 0 only asks whether there is one. -/
def sendSignal (nested : Nested) (signal process : Nat) : Script Bool := do
  let state ← get
  let own := state.workplace.process
  if process == own.number || process == 0 then
    if signal != 0 then receiveSignal signal
    return true
  else if own.ancestors.contains process then
    if signal != 0 then
      work (Work.changeMachine fun machine =>
        { machine with sent := (process, signal) :: machine.sent })
    return true
  else
    match state.deferred.find? (·.process.number == process) with
    | none =>
        return state.context.children.any fun child =>
          child.process == process && !child.isNoticed
    | some deferred => do
        if signal != 0 then killDeferred nested signal deferred
        return true

def killUsage : Bytes :=
  ascii "Usage: kill [-s sigspec | -signum | -sigspec] [pid | job]... or\nkill -l [exitstatus]"

def listSignals (words : List Bytes) : Script Nat := do
  match words with
  | [] => do
      out (ascii "0\n")
      for signal in (List.range (Signal.last + 1)).tail do
        out (signalName signal ++ [Byte.newline])
      return 0
  | word :: _ => do
      let code ← number word
      let signal := if 128 < code then code - 128 else code
      if signal == 0 || Signal.last < signal then
        fail (ascii "invalid signal number or exit status: " ++ word)
      else
        out (signalName signal ++ [Byte.newline])
        return 0

def kill (nested : Nested) (words : List Bytes) : Script Nat := do
  let (signal?, lists, targets) ←
    match words with
    | (Byte.hyphen :: name) :: rest =>
        match signalOf? false name with
        | some signal => pure (some signal, false, rest)
        | none => do
            let (read, rest) ← options "ls:" words
            let signal? ← read.foldlM
              (fun found (letter, argument) => do
                if letter != Byte.ofChar 's' then return found
                else
                  match signalOf? false argument with
                  | some signal => return some signal
                  | none => fail (ascii "invalid signal number or name: " ++ argument))
              none
            pure (signal?, read.any (·.1 == Byte.ofChar 'l'), rest)
    | _ => pure (none, false, words)
  if words.isEmpty || (lists && signal?.isSome) || (!lists && targets.isEmpty) then
    fail killUsage
  else if lists then listSignals targets
  else
    let signal := signal?.getD Signal.terminate
    targets.foldlM
      (fun status word => do
        let isSent ←
          match word with
          | Byte.percent :: _ => do
              let _ ← jobNamed (some word) false
              pure false
          | Byte.hyphen :: digits => do
              let _ ← number digits
              pure false
          | _ => do sendSignal nested signal (← number word)
        if isSent then return status
        else
          complain (SystemError.noProcess.text ++ [Byte.newline])
          return 1)
      0

end Script

end TradeLocal.Shell

import TradeLocal.Bytes

/-!
# Wait statuses

The 32-bit word in which the system reports how a child process ended.  The low seven bits
are 0 for a child that exited, with its code in the next byte but one, and otherwise the
signal that ended it; all seven set mark a child that has not ended.
-/

namespace TradeLocal

/-- The reported word, as a signed number. -/
structure WaitStatus where
  raw : Int32
  deriving DecidableEq, Repr

namespace WaitStatus

def lowBits (status : WaitStatus) : Nat :=
  (status.raw.toInt % 128).toNat

def secondByte (status : WaitStatus) : Nat :=
  -- The quotient is rounded down, so that a negative word gives the byte that its bits hold.
  (status.raw.toInt / 256 % 256).toNat

inductive Ending where
  | exited (code : Nat)
  | signaled (signal : Nat)
  deriving DecidableEq, Repr

def exited (status : WaitStatus) : Bool :=
  status.lowBits == 0

def signaled (status : WaitStatus) : Bool :=
  status.lowBits != 0 && status.lowBits != 127

def ending? (status : WaitStatus) : Option Ending :=
  if status.exited then some (.exited status.secondByte)
  else if status.signaled then some (.signaled status.lowBits)
  else none

def exitCode? (status : WaitStatus) : Option Nat :=
  if status.exited then some status.secondByte else none

def signal? (status : WaitStatus) : Option Nat :=
  if status.signaled then some status.lowBits else none

/-- What a shell reports of an ending: the exit code, or 128 more than the signal. -/
def Ending.shellCode : Ending → Nat
  | exited code => code
  | signaled signal => 128 + signal

def Ending.text : Ending → Bytes
  | exited code => ascii "exit(" ++ Bytes.ofNat code ++ ascii ")"
  | signaled signal => ascii "signal(" ++ Bytes.ofNat signal ++ ascii ")"

def shellCode? (status : WaitStatus) : Option Nat :=
  status.ending?.map Ending.shellCode

def text (status : WaitStatus) : Bytes :=
  match status.ending? with
  | some ending => ending.text
  | none => ascii "status(" ++ Bytes.ofInt status.raw.toInt ++ ascii ")"

/-- The status of a child that exited with `code`, of which the low eight bits count. -/
def ofExitCode (code : Int32) : WaitStatus :=
  ⟨Int32.ofInt (code.toInt % 256 * 256)⟩

/-- The status of a child ended by `signal`, of which the low seven bits count. -/
def ofSignal (signal : Int32) : WaitStatus :=
  ⟨Int32.ofInt (signal.toInt % 128)⟩

end WaitStatus

end TradeLocal

import TradeLocal.WaitStatus

/-!
# Signals

The signals of the system: their numbers and names, and the words for a process that one of
them has ended.
-/

namespace TradeLocal.Host.Signal

inductive Effect where
  | ends
  | nothing
  | stops
  deriving DecidableEq, Repr

def table : List (Nat × Bytes × Bytes × Effect) :=
  [(1, ascii "HUP", ascii "Hangup", .ends), (2, ascii "INT", ascii "Interrupt", .ends),
    (3, ascii "QUIT", ascii "Quit", .ends), (4, ascii "ILL", ascii "Illegal instruction", .ends),
    (5, ascii "TRAP", ascii "Trace/breakpoint trap", .ends),
    (6, ascii "ABRT", ascii "Aborted", .ends), (7, ascii "BUS", ascii "Bus error", .ends),
    (8, ascii "FPE", ascii "Floating point exception", .ends),
    (9, ascii "KILL", ascii "Killed", .ends),
    (10, ascii "USR1", ascii "User defined signal 1", .ends),
    (11, ascii "SEGV", ascii "Segmentation fault", .ends),
    (12, ascii "USR2", ascii "User defined signal 2", .ends),
    (13, ascii "PIPE", ascii "Broken pipe", .ends), (14, ascii "ALRM", ascii "Alarm clock", .ends),
    (15, ascii "TERM", ascii "Terminated", .ends),
    (16, ascii "STKFLT", ascii "Stack fault", .ends),
    (17, ascii "CHLD", ascii "Child exited", .nothing),
    (18, ascii "CONT", ascii "Continued", .nothing),
    (19, ascii "STOP", ascii "Stopped (signal)", .stops),
    (20, ascii "TSTP", ascii "Stopped", .stops),
    (21, ascii "TTIN", ascii "Stopped (tty input)", .stops),
    (22, ascii "TTOU", ascii "Stopped (tty output)", .stops),
    (23, ascii "URG", ascii "Urgent I/O condition", .nothing),
    (24, ascii "XCPU", ascii "CPU time limit exceeded", .ends),
    (25, ascii "XFSZ", ascii "File size limit exceeded", .ends),
    (26, ascii "VTALRM", ascii "Virtual timer expired", .ends),
    (27, ascii "PROF", ascii "Profiling timer expired", .ends),
    (28, ascii "WINCH", ascii "Window changed", .nothing),
    (29, ascii "IO", ascii "I/O possible", .ends), (30, ascii "PWR", ascii "Power failure", .ends),
    (31, ascii "SYS", ascii "Bad system call", .ends)]

def last : Nat := 64

def firstFree : Nat := 34

def interrupt : Nat := 2
def quit : Nat := 3
def kill : Nat := 9

def overflow : Nat := 11

def pipe : Nat := 13
def terminate : Nat := 15

def freeName (number : Nat) : Bytes :=
  if number = firstFree then ascii "RTMIN"
  else if number = last then ascii "RTMAX"
  else if number < 50 then ascii "RTMIN+" ++ Bytes.ofNat (number - firstFree)
  else ascii "RTMAX-" ++ Bytes.ofNat (last - number)

def name (number : Nat) : Bytes :=
  match table.lookup number with
  | some (name, _, _) => name
  | none =>
      if firstFree ≤ number && number ≤ last then freeName number else Bytes.ofNat number

def text (number : Nat) : Bytes :=
  match table.lookup number with
  | some (_, text, _) => text
  | none =>
      if firstFree ≤ number && number ≤ last then
        ascii "Real-time signal " ++ Bytes.ofNat (number - firstFree)
      else ascii "Unknown signal " ++ Bytes.ofNat number

def effect (number : Nat) : Effect :=
  match table.lookup number with
  | some (_, _, effect) => effect
  | none => .ends

def numbers : List Nat :=
  (List.range (last + 1)).filter fun number => number != 0 && number != 32 && number != 33

def ofName? (word : Bytes) : Option Nat :=
  numbers.find? fun number => name number == word.map Byte.toUpper

end TradeLocal.Host.Signal

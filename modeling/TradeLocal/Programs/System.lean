import TradeLocal.Host.Property
import TradeLocal.Host.User
import TradeLocal.Numeral.Floating
import TradeLocal.Programs.Options

/-!
# Programs about the system

Programs that do nothing but wait, or that say something about the system and its users.
-/

namespace TradeLocal.Programs

open TradeLocal.Host TradeLocal.Numeral

def timeUnits : List (UInt8 × Nat) :=
  [('s', 1), ('m', 60), ('h', 3600), ('d', 86400)].map fun (letter, seconds) =>
    (Byte.ofChar letter, seconds)

def longestTime : Nat := 9223372036854775807

/-- A time in nanoseconds, rounded up. -/
def nanoseconds (seconds : Floating) (unit : Nat) : Nat :=
  match seconds with
  | .finite _ mantissa exponent =>
      let (numerator, denominator) := fractionOfPower 2 exponent
      let total := mantissa * numerator * unit * 1000000000
      min (longestTime * 1000000000) ((total + denominator - 1) / denominator)
  | _ => longestTime * 1000000000

def time? (word : Bytes) : Option Nat :=
  match Floating.read? .double word with
  | none => none
  | some ⟨value, _, rest⟩ =>
      match value, rest with
      | .undefined _, _ => none
      | _, [] => if value.isLess (.ofNat 0) then none else some (nanoseconds value 1)
      | _, [letter] =>
          if value.isLess (.ofNat 0) then none
          else (timeUnits.lookup letter).map (nanoseconds value)
      | _, _ => none

def sleep (call : Call) : Work Nat := do
  if call.arguments.isEmpty then call.missOperand
  let read ← call.parse []
  for word in read.operands do
    if (time? word).isNone then
      call.complain (ascii "invalid time interval " ++ quoted word)
  if read.operands.any fun word => (time? word).isNone then call.referToHelp
  Work.sleep ((read.operands.filterMap time?).foldl (· + ·) 0)
  return 0

def printenv (call : Call) : Work Nat := do
  let read ← call.parseFront [.of "0" "null" .nothing]
  let ending := if read.has "0" then [0] else [Byte.newline]
  let entries := call.environment.entries
  if read.operands.isEmpty then
    Call.put (entries.flatMap (· ++ ending))
    return 0
  else
    let values := read.operands.map fun name =>
      if name.contains Byte.equals then [] else entries.filterMap (Environment.valueFor? name)
    Call.put (values.flatten.flatMap (· ++ ending))
    return if values.any List.isEmpty then 1 else 0

def workingDirectory (call : Call) : Work Nat := do
  let read ← call.parse [.of "L" "logical" .nothing, .of "P" "physical" .nothing]
  unless read.operands.isEmpty do call.complain (ascii "ignoring non-option arguments")
  let physical := pathOf (← Work.here)
  let known := (call.environment.get? (ascii "PWD")).getD []
  let isKnown := read.lastOf? ["L", "P"] == some (ascii "L") && isAbsolute known &&
    !(components known).any (fun name => name = ascii "." || name = ascii "..") &&
    isSameFile (← Work.files) (← Work.here) known (ascii ".")
  Call.put ((if isKnown then known else physical) ++ [Byte.newline])
  return 0

def whichUsage : Bytes := ascii "Usage: /usr/bin/which [-as] args\n"

def whichTrouble : Nat := 2

def which (call : Call) : Work Nat := do
  let isOption (word : Bytes) : Bool := word.head? == some Byte.hyphen && word.length != 1
  let options := call.arguments.takeWhile fun word => isOption word && word != ascii "--"
  let rest := call.arguments.drop options.length
  let operands := if rest.head? = some (ascii "--") then rest.tail else rest
  let letters := options.flatMap List.tail
  match letters.find? fun letter => !(ascii "as").contains letter with
  | some letter => do
      Call.tell (ascii "Illegal option -" ++ [letter, Byte.newline])
      unless (letters.takeWhile (· != letter)).contains (Byte.ofChar 's') do
        Call.put whichUsage
      return whichTrouble
  | none => do
      let files ← Work.files
      let here ← Work.here
      let isProgram (path : Bytes) : Bool :=
        hasProperty files here (Byte.ofChar 'f') path &&
          hasProperty files here (Byte.ofChar 'x') path
      let path := (call.environment.get? (ascii "PATH")).getD []
      let found (name : Bytes) : List Bytes :=
        if name.contains Byte.slash then [name].filter isProgram
        else
          let paths := (Bytes.splitOn Byte.colon path).map fun directory =>
            (if directory.isEmpty then ascii "." else directory) ++ Byte.slash :: name
          let programs := paths.filter isProgram
          if letters.contains (Byte.ofChar 'a') then programs else programs.take 1
      let results := operands.map found
      unless letters.contains (Byte.ofChar 's') do
        Call.put (unlines results.flatten)
      return if operands.isEmpty || results.any List.isEmpty then 1 else 0

def userName (call : Call) : Work Nat := do
  let read ← call.parse []
  match read.operands with
  | [] => do
      Call.put (User.root.name ++ [Byte.newline])
      return 0
  | word :: _ => call.refuseExtra word

def userOf? (word : Bytes) : Option User :=
  (User.ofName? word).orElse fun _ =>
    (Bytes.toNat? (if word.head? == some Byte.plus then word.tail else word)).bind User.ofNumber?

def userIdentity (call : Call) : Work Nat := do
  let read ← call.parse
    [.of "a" "" .nothing, .of "Z" "context" .nothing, .of "g" "group" .nothing,
      .of "G" "groups" .nothing, .of "n" "name" .nothing, .of "r" "real" .nothing,
      .of "u" "user" .nothing, .of "z" "zero" .nothing]
    fun _ given => do
      if given.key == ascii "Z" then
        call.abandon (ascii "--context (-Z) works only on an SELinux-enabled kernel")
  let choices := ["u", "g", "G"].filter read.has
  if 1 < choices.length then
    call.abandon (ascii "cannot print \"only\" of more than one choice")
  if choices.isEmpty && (read.has "n" || read.has "r") then
    call.abandon (ascii "cannot print only names or real IDs in default format")
  if choices.isEmpty && read.has "z" then
    call.abandon (ascii "option --zero not permitted in default format")
  let ending := if read.has "z" then [0] else [Byte.newline]
  let pair (label : String) (number : Nat) (name : Bytes) : Bytes :=
    ascii label ++ Byte.equals :: Bytes.ofNat number ++ ascii "(" ++ name ++ ascii ")"
  let shown (user : User) : Bytes :=
    match choices, read.has "n" with
    | [], _ => Bytes.join Byte.space [pair "uid" user.number user.name,
        pair "gid" user.groupNumber user.groupName, pair "groups" user.groupNumber user.groupName]
    | "u" :: _, true => user.name
    | "u" :: _, false => Bytes.ofNat user.number
    | _, true => user.groupName
    | _, false => Bytes.ofNat user.groupNumber
  let words := if read.operands.isEmpty then [User.root.name] else read.operands
  for word in words do
    match userOf? word with
    | some user => Call.put (shown user ++ ending)
    | none => call.complain (quoted word ++ ascii ": no such user")
  return if words.all fun word => (userOf? word).isSome then 0 else 1

/-- What the system says of itself, in the order in which it is written. -/
def systemParts : List (String × String × Bytes) :=
  [("s", "kernel-name", ascii "Linux"), ("n", "nodename", ascii "localhost"),
    ("r", "kernel-release", ascii "6.8.0"), ("v", "kernel-version", ascii "#1 SMP"),
    ("m", "machine", ascii "x86_64"), ("p", "processor", ascii "x86_64"),
    ("i", "hardware-platform", ascii "x86_64"), ("o", "operating-system", ascii "GNU/Linux")]

def systemName (call : Call) : Work Nat := do
  let read ← call.parse
    (OptionForm.of "a" "all" .nothing ::
      systemParts.map fun (letter, word, _) => .of letter word .nothing)
  match read.operands with
  | word :: _ => call.refuseExtra word
  | [] => do
      let parts := systemParts.filter fun (letter, _, _) =>
        read.has letter || read.has "a" || (read.options.isEmpty && letter == "s")
      Call.put (Bytes.join Byte.space (parts.map fun (_, _, text) => text) ++ [Byte.newline])
      return 0

def terminalTrouble : Nat := 2

def terminalName (call : Call) : Work Nat := do
  let call := { call with trouble := terminalTrouble }
  let read ← call.parse [.of "s" "silent" .nothing, .of "s" "quiet" .nothing]
  match read.operands with
  | word :: _ => call.refuseExtra word
  | [] => do
      unless read.has "s" do Call.put (ascii "not a tty\n")
      return 1

end TradeLocal.Programs

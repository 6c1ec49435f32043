import TradeLocal.Environment

/-!
# Modes

The permission bits of files, as they are given and shown.  They are given in octal digits or as
changes: for whom, how, and which.
-/

namespace TradeLocal.Programs

def octalMode? (word : Bytes) : Option Nat :=
  if word.isEmpty || !word.all fun digit => 48 ≤ digit && digit ≤ 55 then none
  else
    let mode := word.foldl (fun value digit => value * 8 + (digit.toNat - 48)) 0
    if mode ≤ 0o7777 then some mode else none

structure ModeChange where
  /-- The bits of those concerned; none named stands for all that the mask leaves. -/
  who : Option Nat
  operator : UInt8
  /-- The permissions for one of three, or those that another one has. -/
  bits : Nat
  copied : Option UInt8
  executesDirectories : Bool
  setsIdentity : Bool
  isSticky : Bool

def whoBits (letter : UInt8) : Nat :=
  if letter == Byte.ofChar 'u' then 0o4700
  else if letter == Byte.ofChar 'g' then 0o2070
  else if letter == Byte.ofChar 'o' then 0o1007
  else 0o7777

def readChanges (who : Option Nat) : Nat → Bytes → Option (List ModeChange)
  | 0, _ => none
  | _, [] => some []
  | fuel + 1, operator :: rest =>
      if !(ascii "+-=").contains operator then none
      else
        let make (letters : Bytes) (copied : Option UInt8) : ModeChange :=
          let has (letter : Char) : Bool := letters.contains (Byte.ofChar letter)
          { who, operator, copied
            bits := (if has 'r' then 0o444 else 0) ||| (if has 'w' then 0o222 else 0) |||
              (if has 'x' then 0o111 else 0)
            executesDirectories := has 'X', setsIdentity := has 's', isSticky := has 't' }
        match rest with
        | letter :: behind =>
            if (ascii "ugo").contains letter then
              (readChanges who fuel behind).map (make [] (some letter) :: ·)
            else
              let letters := rest.takeWhile (ascii "rwxXst").contains
              (readChanges who fuel (rest.drop letters.length)).map (make letters none :: ·)
        | [] => some [make [] none]

def modeChanges? (word : Bytes) : Option (List ModeChange) :=
  ((Bytes.splitOn (Byte.ofChar ',') word).mapM fun (clause : Bytes) =>
    let letters := clause.takeWhile (ascii "ugoa").contains
    let who := if letters.isEmpty then none
      else some (letters.foldl (fun bits letter => bits ||| whoBits letter) 0)
    let rest := clause.drop letters.length
    if rest.isEmpty then none else readChanges who (rest.length + 1) rest).map List.flatten

def ModeChange.apply (mask : Nat) (isDirectory : Bool) (mode : Nat) (change : ModeChange) : Nat :=
  let who := change.who.getD (0o7777 - mask)
  let copied :=
    match change.copied with
    | none => 0
    | some letter =>
        let three := if letter == Byte.ofChar 'u' then mode / 64 % 8
          else if letter == Byte.ofChar 'g' then mode / 8 % 8 else mode % 8
        three * 64 + three * 8 + three
  let executes := change.executesDirectories && (isDirectory || mode &&& 0o111 != 0)
  let bits := change.bits ||| copied ||| (if executes then 0o111 else 0) |||
    (if change.setsIdentity then 0o6000 else 0) ||| (if change.isSticky then 0o1000 else 0)
  let bits := bits &&& who
  if change.operator == Byte.plus then mode ||| bits
  else if change.operator == Byte.hyphen then mode &&& (0o7777 - bits)
  else
    let kept := if isDirectory then who &&& 0o1777 else who
    (mode &&& (0o7777 - kept)) ||| bits

def modeText (mode : Nat) : Bytes :=
  let three (shift : Nat) (special : Bool) (letter : Char) : Bytes :=
    let bits := mode / shift % 8
    let execute := bits % 2 == 1
    [if bits / 4 % 2 == 1 then Byte.ofChar 'r' else Byte.hyphen,
      if bits / 2 % 2 == 1 then Byte.ofChar 'w' else Byte.hyphen,
      if special then (if execute then Byte.ofChar letter else Byte.toUpper (Byte.ofChar letter))
      else if execute then Byte.ofChar 'x' else Byte.hyphen]
  three 64 (mode / 2048 % 2 == 1) 's' ++ three 8 (mode / 1024 % 2 == 1) 's' ++
    three 1 (mode / 512 % 2 == 1) 't'

def modeDigits (mode : Nat) : Bytes :=
  [mode / 512, mode / 64, mode / 8, mode].map fun value => (48 + value % 8).toUInt8

/-- What a word makes of permissions, given the mask and whether they are of a directory. -/
def newMode? (word : Bytes) : Option (Nat → Bool → Nat → Nat) :=
  match octalMode? word with
  | some mode => some fun _ isDirectory before =>
      if isDirectory && word.length < 5 then mode ||| (before &&& 0o6000) else mode
  | none => (modeChanges? word).map fun changes mask isDirectory before =>
      changes.foldl (ModeChange.apply mask isDirectory) before

end TradeLocal.Programs

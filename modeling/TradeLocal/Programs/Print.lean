import TradeLocal.Numeral.Directive
import TradeLocal.Programs.Options

/-!
# Programs that print their arguments

`echo`, `printf`, `yes`, and the parts of paths.
-/

namespace TradeLocal.Programs

open TradeLocal.Host TradeLocal.Numeral

def escapeLetters : List (UInt8 × UInt8) :=
  [('"', 34), ('\\', 92), ('a', 7), ('b', 8), ('e', 27), ('f', 12), ('n', 10), ('r', 13),
    ('t', 9), ('v', 11)].map fun (letter, byte) => (Byte.ofChar letter, byte)

def readCode (base limit : Nat) (text : Bytes) : Option (Nat × Bytes) :=
  match (text.take limit).takeWhile (isDigitOf base) with
  | [] => none
  | digits => some (ofDigits base digits, text.drop digits.length)

inductive Escape where
  | bytes (text rest : Bytes)
  /-- The end of all output. -/
  | stop
  | missingDigits
  | badCharacter (letter : UInt8) (code : Nat)

def characterText (code : Nat) : Bytes :=
  if code < 128 then [code.toUInt8]
  else
    let digits := (inBase 16 code).map Byte.toUpper
    if code < 65536 then ascii "\\u" ++ zeroPadded 4 digits
    else ascii "\\U" ++ zeroPadded 8 digits

/-- Read the escape sequence behind a backslash.  With `skipsZero` a zero in front of octal
digits does not count as one of them. -/
def readEscape (skipsZero : Bool) (text : Bytes) : Escape :=
  match text with
  | [] => .bytes [Byte.backslash] []
  | letter :: rest =>
      if letter == Byte.ofChar 'x' then
        match readCode 16 2 rest with
        | some (code, rest) => .bytes [code.toUInt8] rest
        | none => .missingDigits
      else if isDigitOf 8 letter then
        let digits := if skipsZero && letter == 48 then rest else text
        match readCode 8 3 digits with
        | some (code, rest) => .bytes [code.toUInt8] rest
        | none => .bytes [0] rest
      else if letter == Byte.ofChar 'c' then .stop
      else if letter == Byte.ofChar 'u' || letter == Byte.ofChar 'U' then
        let length := if letter == Byte.ofChar 'u' then 4 else 8
        if ((rest.take length).takeWhile (isDigitOf 16)).length < length then .missingDigits
        else
          let code := ofDigits 16 (rest.take length)
          let isBad := (code ≤ 0x9f && code != 0x24 && code != 0x40 && code != 0x60) ||
            (0xd800 ≤ code && code ≤ 0xdfff)
          if isBad then .badCharacter letter code
          else .bytes (characterText code) (rest.drop length)
      else
        match escapeLetters.lookup letter with
        | some byte => .bytes [byte] rest
        | none => .bytes [Byte.backslash, letter] rest

def isEchoOption (word : Bytes) : Bool :=
  match word with
  | Byte.hyphen :: letter :: letters => (letter :: letters).all (ascii "neE").contains
  | _ => false

/-- A text with its escape sequences resolved, in reverse; says also whether all output ends. -/
def echoEscaped : Nat → Bytes → Bytes → Bytes × Bool
  | 0, done, _ => (done, false)
  | _, done, [] => (done, false)
  | fuel + 1, done, byte :: rest =>
      if byte != Byte.backslash then echoEscaped fuel (byte :: done) rest
      else
        match rest with
        | 120 :: behind =>
            match readCode 16 2 behind with
            | some (code, rest) => echoEscaped fuel (code.toUInt8 :: done) rest
            | none => echoEscaped fuel (Byte.backslash :: done) rest
        | letter :: behind =>
            if letter == Byte.doubleQuote || letter == Byte.ofChar 'u' ||
                letter == Byte.ofChar 'U' then
              echoEscaped fuel (Byte.backslash :: done) rest
            else
              match readEscape true (letter :: behind) with
              | .bytes text rest => echoEscaped fuel (text.reverse ++ done) rest
              | _ => (done, true)
        | [] => (Byte.backslash :: done, false)

def echo (call : Call) : Work Nat := do
  let options := call.arguments.takeWhile isEchoOption
  let letters := options.flatten.filter (ascii "neE").contains
  let text := Bytes.join Byte.space (call.arguments.drop options.length)
  let newline := if letters.contains (Byte.ofChar 'n') then [] else [Byte.newline]
  let last := letters.reverse.find? fun letter => letter != Byte.ofChar 'n'
  if last == some (Byte.ofChar 'e') then
    let (done, stops) := echoEscaped (text.length + 1) [] text
    Call.put (done.reverse ++ if stops then [] else newline)
  else Call.put (text ++ newline)
  return 0

structure Printing where
  arguments : List Bytes
  /-- Whether some argument was not a number. -/
  isFaulty : Bool := false

namespace Printing

def take (printing : Printing) : Bytes × Printing :=
  (printing.arguments.headD [], { printing with arguments := printing.arguments.tail })

def check (call : Call) (printing : Printing) (word rest : Bytes) (isOutOfRange : Bool) :
    Work Printing := do
  let complain (text : String) : Work Printing := do
    call.complain (quoted word ++ ascii text)
    return { printing with isFaulty := true }
  if isOutOfRange then complain ": Numerical result out of range"
  else if rest.isEmpty then return printing
  else if rest.length == word.length then complain ": expected a numeric value"
  else complain ": value not completely converted"

def quotedByte? (call : Call) (word : Bytes) : Work (Option UInt8) := do
  match word with
  | Byte.singleQuote :: byte :: rest | Byte.doubleQuote :: byte :: rest => do
      unless rest.isEmpty do
        call.complain (ascii "warning: " ++ rest ++
          ascii ": character(s) following character constant have been ignored")
      return some byte
  | _ => return none

/-- The next argument as an integer between bounds; `tooSmall` stands for one below. -/
def takeInteger (call : Call) (printing : Printing) (least greatest tooSmall : Int) :
    Work (Int × Printing) := do
  let (word, printing) := printing.take
  match ← quotedByte? call word with
  | some byte => return (Int.ofNat byte.toNat, printing)
  | none =>
      let (value, rest) := (readInteger? none word).getD (0, word)
      let clamped := if value < least then tooSmall else min greatest value
      return (clamped, ← printing.check call word rest (clamped != value))

def takeFloating (call : Call) (printing : Printing) : Work (Floating × Printing) := do
  let (word, printing) := printing.take
  match ← quotedByte? call word with
  | some byte => return (.ofNat byte.toNat, printing)
  | none =>
      match Floating.read? .extended word with
      | none => return (.ofNat 0, ← printing.check call word word false)
      | some ⟨value, isOutOfRange, rest⟩ =>
          return (value, ← printing.check call word rest isOutOfRange)

def wordCount : Int := 18446744073709551616

def convert (call : Call) (printing : Printing) (directive : Directive) : Work Printing := do
  let isOneOf (letters : String) : Bool := (ascii letters).contains directive.letter
  if isOneOf "s" then
    let (word, printing) := printing.take
    Call.put (directive.writeText word)
    return printing
  else if isOneOf "c" then
    let (word, printing) := printing.take
    Call.put (directive.pad [word.headD 0])
    return printing
  else if isOneOf "di" then
    let (value, printing) ←
      printing.takeInteger call leastInteger greatestInteger leastInteger
    Call.put (directive.writeInteger value)
    return printing
  else if isOneOf "ouxX" then
    let (value, printing) ←
      printing.takeInteger call (1 - wordCount) (wordCount - 1) (wordCount - 1)
    Call.put (directive.writeNatural (value % wordCount).toNat)
    return printing
  else
    let (value, printing) ← printing.takeFloating call
    Call.put (directive.writeFloating .extended value)
    return printing

def failEscape (call : Call) : Escape → Work Unit
  | .missingDigits => call.abandon (ascii "missing hexadecimal number in escape")
  | .badCharacter letter code =>
      call.abandon (ascii "invalid universal character name \\" ++ letter ::
        zeroPadded (if letter == Byte.ofChar 'u' then 4 else 8) (inBase 16 code))
  | .stop => Work.exit 0
  | .bytes _ _ => pure ()

def writeEscaped (call : Call) : Nat → Bytes → Work Unit
  | 0, _ => pure ()
  | _, [] => pure ()
  | fuel + 1, byte :: rest => do
      if byte != Byte.backslash then
        Call.put [byte]
        writeEscaped call fuel rest
      else
        match readEscape true rest with
        | .bytes text rest => do
            Call.put text
            writeEscaped call fuel rest
        | escape => failEscape call escape

def takeAmount (call : Call) (printing : Printing) (isWidth : Bool) (text : Bytes) :
    Work (Int × Bytes × Printing) := do
  match text with
  | 42 :: rest =>
      if printing.arguments.isEmpty then return (0, rest, printing)
      else
        let word := printing.take.1
        let (value, printing) ←
          printing.takeInteger call leastInteger greatestInteger leastInteger
        if value < -2147483648 || 2147483647 < value then
          call.abandon (ascii (if isWidth then "invalid field width: "
            else "invalid precision: ") ++ quoted word)
        return (value, rest, printing)
  | _ =>
      let digits := text.takeWhile Byte.isDigit
      return (Int.ofNat (ofDigits 10 digits), text.drop digits.length, printing)

/-- The letters that a directive may end with, given its flags and whether it has a
precision. -/
def letters (flags : Bytes) (hasPrecision : Bool) : Bytes :=
  (ascii "aAcdeEfFgGiosuxX").filter fun letter =>
    !(flags.contains Byte.hash && (ascii "cdisu").contains letter) &&
      !(flags.contains 48 && (ascii "cs").contains letter) &&
      !(hasPrecision && letter == Byte.ofChar 'c')

/-- Write in the directive behind a percent sign, and say what is behind it. -/
def writeDirective (call : Call) (printing : Printing) (text : Bytes) :
    Work (Printing × Bytes) := do
  match text with
  | 37 :: rest => do
      Call.put [Byte.percent]
      return (printing, rest)
  | 98 :: rest => do
      let (word, printing) := printing.take
      writeEscaped call (word.length + 1) word
      return (printing, rest)
  | 113 :: rest => do
      unless printing.arguments.isEmpty do Call.put (shownName printing.take.1)
      return (printing.take.2, rest)
  | _ => do
      let flags := text.takeWhile (ascii "-+ #0'I").contains
      let (width, rest, printing) ← printing.takeAmount call true (text.drop flags.length)
      let (precision, rest, printing) ←
        match rest with
        | 46 :: rest => do
            let (value, rest, printing) ← printing.takeAmount call false rest
            pure (some value, rest, printing)
        | _ => pure (none, rest, printing)
      let rest := rest.dropWhile (ascii "lLhjtz").contains
      let letter := rest.headD 0
      let spelled := Byte.percent :: text.take (text.length - rest.length + 1)
      if !(letters flags precision.isSome).contains letter then
        call.abandon (spelled ++ ascii ": invalid conversion specification")
      let directive := flags.foldl Directive.addFlag { letter }
      let printing ← printing.convert call
        { directive with
          isLeft := directive.isLeft || width < 0
          width := width.natAbs
          precision := precision.bind Int.toNat? }
      return (printing, rest.tail)

def pass (call : Call) : Nat → Printing → Bytes → Work Printing
  | 0, printing, _ => return printing
  | _, printing, [] => return printing
  | fuel + 1, printing, byte :: rest => do
      if byte == Byte.backslash then
        match readEscape false rest with
        | .bytes text rest => do
            Call.put text
            pass call fuel printing rest
        | escape => do
            failEscape call escape
            return printing
      else if byte == Byte.percent then
        let (printing, rest) ← printing.writeDirective call rest
        pass call fuel printing rest
      else
        Call.put [byte]
        pass call fuel printing rest

/-- Write in a format as long as it takes arguments and there are some. -/
def passes (call : Call) (format : Bytes) : Nat → Printing → Work Printing
  | 0, printing => return printing
  | fuel + 1, printing => do
      let after ← pass call (format.length + 1) printing format
      if after.arguments.isEmpty || after.arguments.length == printing.arguments.length then
        return after
      else passes call format fuel after

end Printing

def printf (call : Call) : Work Nat := do
  let words :=
    match call.arguments with
    | first :: rest => if first = ascii "--" then rest else first :: rest
    | [] => []
  match words with
  | [] => call.missOperand
  | format :: arguments => do
      let printing ←
        Printing.passes call format (arguments.length + 1) { arguments }
      match printing.arguments with
      | [] => pure ()
      | word :: _ =>
          call.complain (ascii "warning: ignoring excess arguments, starting with " ++
            quoted word)
      return if printing.isFaulty then 1 else 0

def repeatedLength : Nat := 4096

def repeatLine (call : Call) : Work Nat := do
  let read ← call.parse []
  let line :=
    (if read.operands.isEmpty then ascii "y" else Bytes.join Byte.space read.operands) ++
      [Byte.newline]
  let block := (List.replicate (max 1 (repeatedLength / line.length)) line).flatten
  (List.range Pipe.volumeLimit).forM fun _ => call.putNow block
  throw .exhausted

def lastName (path : Bytes) : Bytes :=
  match dropSlashes path with
  | [] => path.take 1
  | names => (names.reverse.takeWhile (· != Byte.slash)).reverse

/-- A name without an ending, unless it is nothing else. -/
def withoutEnding (ending name : Bytes) : Bytes :=
  if ending.length < name.length && name.drop (name.length - ending.length) == ending then
    name.take (name.length - ending.length)
  else name

def baseName (call : Call) : Work Nat := do
  let read ← call.parseFront
    [.of "a" "multiple" .nothing, .of "s" "suffix" .argument, .of "z" "zero" .nothing]
  let ending := if read.has "z" then [0] else [Byte.newline]
  let write (suffix path : Bytes) : Work Unit :=
    let name := lastName path
    Call.put ((if name == [Byte.slash] then name else withoutEnding suffix name) ++ ending)
  match read.operands with
  | [] => call.missOperand
  | path :: rest => do
      if read.has "a" || read.has "s" then
        read.operands.forM (write ((read.last? "s").getD []))
      else
        match rest with
        | [] => write [] path
        | [suffix] => write suffix path
        | _ :: extra :: _ => call.refuseExtra extra
      return 0

def directoryPart (path : Bytes) : Bytes :=
  let names := dropSlashes path
  let front := names.take (names.length - (lastName names).length)
  if names.isEmpty then (if path.isEmpty then ascii "." else [Byte.slash])
  else if front.isEmpty then ascii "."
  else
    match dropSlashes front with
    | [] => [Byte.slash]
    | directory => directory

def directoryName (call : Call) : Work Nat := do
  let read ← call.parse [.of "z" "zero" .nothing]
  if read.operands.isEmpty then call.missOperand
  for path in read.operands do
    Call.put (directoryPart path ++ if read.has "z" then [0] else [Byte.newline])
  return 0

end TradeLocal.Programs

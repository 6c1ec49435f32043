import TradeLocal.Numeral.Directive
import TradeLocal.Shell.State

/-!
# Output of `echo` and `printf`

Escape sequences, and formats whose directives take one argument after the other.
-/

namespace TradeLocal.Shell

open TradeLocal.Host TradeLocal.Numeral

def isOctal (byte : UInt8) : Bool :=
  48 ≤ byte && byte ≤ 55

def escapeLetters : List (UInt8 × UInt8) :=
  [('\\', 92), ('a', 7), ('b', 8), ('e', 27), ('f', 12), ('n', 10), ('r', 13), ('t', 9),
    ('v', 11)].map fun (letter, byte) => (Byte.ofChar letter, byte)

def readOctal (text : Bytes) : UInt8 × Bytes :=
  let digits := (text.take 3).takeWhile isOctal
  (digits.foldl (fun value digit => value * 8 + (digit - 48)) 0, text.drop digits.length)

/-- What the text behind a backslash stands for, and the rest of it.  A backslash without a
meaning stands for itself. -/
def readEscape (text : Bytes) : UInt8 × Bytes :=
  match text with
  | [] => (Byte.backslash, [])
  | letter :: rest =>
      if isOctal letter then readOctal text
      else
        match escapeLetters.lookup letter with
        | some byte => (byte, rest)
        | none => (Byte.backslash, text)

/-- A text without escape sequences, in reverse behind what comes before.  The text ends where
`\c` stands, which is told. -/
def resolveEscapes : Nat → Bytes → Bytes → Bytes × Bool
  | 0, done, _ => (done, false)
  | _, done, [] => (done, false)
  | fuel + 1, done, byte :: rest =>
      if byte != Byte.backslash then resolveEscapes fuel (byte :: done) rest
      else
        match rest with
        | 99 :: _ => (done, true)
        | _ =>
            let digits :=
              match rest with
              | 48 :: digit :: digits => if isOctal digit then digit :: digits else rest
              | _ => rest
            let (value, rest) := readEscape digits
            resolveEscapes fuel (value :: done) rest

def escaped (text : Bytes) : Bytes × Bool :=
  let (done, stops) := resolveEscapes (text.length + 1) [] text
  (done.reverse, stops)

def echoText (words : List Bytes) : Bytes :=
  match words with
  | first :: rest =>
      if first = ascii "-n" then (escaped (Bytes.join Byte.space rest)).1 else full words
  | [] => full words
where
  full (words : List Bytes) : Bytes :=
    let (text, stops) := escaped (Bytes.join Byte.space words)
    if stops then text else text ++ [Byte.newline]

inductive Amount where
  | absent
  | given (value : Nat)
  /-- The next argument. -/
  | argument
  deriving DecidableEq, Repr

inductive FormatPiece where
  | byte (byte : UInt8)
  | directive (directive : Directive) (width precision : Amount) (text : Bytes)
  /-- A directive without a letter. -/
  | incomplete
  deriving Repr

def readAmount (text : Bytes) : Amount × Bytes :=
  match text with
  | 42 :: rest => (.argument, rest)
  | _ =>
      let digits := text.takeWhile Byte.isDigit
      (.given (ofDigits 10 digits), text.drop digits.length)

def readDirective (text : Bytes) : FormatPiece × Bytes :=
  let flags := text.takeWhile (ascii "#-+ 0").contains
  let (width, rest) := readAmount (text.drop flags.length)
  let (precision, rest) :=
    match rest with
    | 46 :: rest => readAmount rest
    | _ => (.absent, rest)
  match rest with
  | [] => (.incomplete, [])
  | letter :: rest =>
      (.directive (flags.foldl Directive.addFlag { letter }) width precision
        (Byte.percent :: text.take (text.length - rest.length)), rest)

def formatPieces : Nat → Bytes → List FormatPiece
  | 0, _ => []
  | _, [] => []
  | fuel + 1, byte :: rest =>
      if byte == Byte.backslash then
        let (value, rest) := readEscape rest
        .byte value :: formatPieces fuel rest
      else if byte != Byte.percent then .byte byte :: formatPieces fuel rest
      else
        match rest with
        | Byte.percent :: rest => .byte Byte.percent :: formatPieces fuel rest
        | _ =>
            let (piece, rest) := readDirective rest
            piece :: formatPieces fuel rest

structure Printing where
  arguments : List Bytes
  /-- Whether some argument was not a number. -/
  isFaulty : Bool := false

namespace Printing

open Script

def take (printing : Printing) : Option Bytes × Printing :=
  (printing.arguments.head?, { printing with arguments := printing.arguments.tail })

def check (printing : Printing) (word rest : Bytes) (isOutOfRange : Bool) : Script Printing := do
  let faulty := { printing with isFaulty := true }
  if !rest.isEmpty then
    complain (word ++ ascii
      (if rest.length == word.length then ": expected numeric value"
        else ": not completely converted"))
    return faulty
  else if isOutOfRange then
    complain (word ++ ascii ": Numerical result out of range")
    return faulty
  else return printing

/-- The next argument as an integer between bounds.  In place of one that is too small stands
`tooSmall`. -/
def takeInteger (printing : Printing) (least greatest tooSmall : Int) :
    Script (Int × Printing) := do
  match printing.take with
  | (none, printing) => return (0, printing)
  | (some word, printing) =>
      match word with
      | Byte.singleQuote :: rest | Byte.doubleQuote :: rest =>
          return (Int.ofNat (rest.headD 0).toNat, printing)
      | _ => do
          let (value, rest) := (readInteger? none word).getD (0, word)
          let clamped := if value < least then tooSmall else min greatest value
          return (clamped, ← printing.check word rest (clamped != value))

def takeFloating (printing : Printing) : Script (Floating × Printing) := do
  match printing.take with
  | (none, printing) => return (.ofNat 0, printing)
  | (some word, printing) =>
      match word with
      | Byte.singleQuote :: rest | Byte.doubleQuote :: rest =>
          return (.ofNat (rest.headD 0).toNat, printing)
      | _ => do
          match Floating.read? .double word with
          | none => return (.ofNat 0, ← printing.check word word false)
          | some ⟨value, isOutOfRange, rest⟩ =>
              return (value, ← printing.check word rest isOutOfRange)

def wordCount : Int := 18446744073709551616

def takeAmount (printing : Printing) (amount : Amount) : Script (Option Int × Printing) := do
  match amount with
  | .absent => return (none, printing)
  | .given value => return (some (Int.ofNat value), printing)
  | .argument => do
      let (value, printing) ← printing.takeInteger leastInteger greatestInteger leastInteger
      return (some (Int32.ofInt value).toInt, printing)

/-- Write in a directive.  Says whether all output ends. -/
def convert (printing : Printing) (directive : Directive) (text : Bytes) :
    Script (Printing × Bool) := do
  let letter := directive.letter
  let isOneOf (letters : String) : Bool := (ascii letters).contains letter
  if isOneOf "s" then do
    let (word, printing) := printing.take
    out (directive.writeText (word.getD []))
    return (printing, false)
  else if isOneOf "b" then do
    let (word, printing) := printing.take
    let (text, stops) := escaped (word.getD [])
    out (directive.writeText text)
    return (printing, stops)
  else if isOneOf "c" then do
    let (word, printing) := printing.take
    out (directive.pad [((word.getD []).headD 0)])
    return (printing, false)
  else if isOneOf "di" then do
    let (value, printing) ← printing.takeInteger leastInteger greatestInteger leastInteger
    out (directive.writeInteger value)
    return (printing, false)
  else if isOneOf "ouxX" then do
    let (value, printing) ← printing.takeInteger (1 - wordCount) (wordCount - 1) (wordCount - 1)
    out (directive.writeNatural (value % wordCount).toNat)
    return (printing, false)
  else if isOneOf "aAeEfFgG" then do
    let (value, printing) ← printing.takeFloating
    out (directive.writeFloating .double value)
    return (printing, false)
  else fail (text ++ ascii ": invalid directive")

def pass : List FormatPiece → Printing → Script (Printing × Bool)
  | [], printing => return (printing, false)
  | .byte byte :: rest, printing => do
      out [byte]
      pass rest printing
  | .incomplete :: _, _ => fail (ascii "missing format character")
  | .directive directive width precision text :: rest, printing => do
      let (width, printing) ← printing.takeAmount width
      let (precision, printing) ← printing.takeAmount precision
      let width := width.getD 0
      let (printing, stops) ←
        printing.convert
          { directive with
            isLeft := directive.isLeft || width < 0
            width := width.natAbs
            precision := precision.bind Int.toNat? } text
      if stops then return (printing, true) else pass rest printing

/-- Write in a format as long as it takes arguments and there are some. -/
def passes (pieces : List FormatPiece) : Nat → Printing → Script Printing
  | 0, printing => return printing
  | fuel + 1, printing => do
      let (after, stops) ← pass pieces printing
      if stops || after.arguments.isEmpty || after.arguments.length == printing.arguments.length
      then return after
      else passes pieces fuel after

end Printing

namespace Script

def printf (words : List Bytes) : Script Nat := do
  match words with
  | [] => fail (ascii "usage: printf format [arg ...]")
  | format :: arguments => do
      let pieces := formatPieces (format.length + 1) format
      let printing ← Printing.passes pieces (arguments.length + 1) { arguments }
      return if printing.isFaulty then 1 else 0

end Script

end TradeLocal.Shell

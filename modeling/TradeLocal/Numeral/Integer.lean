import TradeLocal.Bytes

/-!
# Numbers in texts

Integers as they are written in scripts and arguments: blanks in front, a sign, and digits of
a base.  In front of the digits `0x` stands for base sixteen and `0` for base eight, where no
base is prescribed.
-/

namespace TradeLocal.Numeral

def digitValue? (byte : UInt8) : Option Nat :=
  if Byte.isDigit byte then some (byte.toNat - 48)
  else if Byte.isLetter byte then some ((Byte.toLower byte).toNat - 87)
  else none

def isDigitOf (base : Nat) (byte : UInt8) : Bool :=
  (digitValue? byte).any (· < base)

def ofDigits (base : Nat) (digits : Bytes) : Nat :=
  digits.foldl (fun value digit => value * base + (digitValue? digit).getD 0) 0

/-- Read a natural number from the start of a text; `none` stands for a base that the number
itself shows.  There is no number without a digit. -/
def readNatural? (base? : Option Nat) (text : Bytes) : Option (Nat × Bytes) :=
  let digitsOf (base : Nat) (text : Bytes) : Option (Nat × Bytes) :=
    match text.takeWhile (isDigitOf base) with
    | [] => none
    | digits => some (ofDigits base digits, text.drop digits.length)
  match base? with
  | some base => digitsOf base text
  | none =>
      match text with
      | 48 :: mark :: rest =>
          if Byte.toLower mark == 120 then
            match digitsOf 16 rest with
            | some read => some read
            | none => some (0, mark :: rest)
          else digitsOf 8 text
      | 48 :: rest => some (0, rest)
      | _ => digitsOf 10 text

def readInteger? (base? : Option Nat) (text : Bytes) : Option (Int × Bytes) :=
  match text.dropWhile Byte.isSpace with
  | Byte.hyphen :: rest =>
      (readNatural? base? rest).map fun (value, rest) => (-Int.ofNat value, rest)
  | Byte.plus :: rest => (readNatural? base? rest).map fun (value, rest) => (Int.ofNat value, rest)
  | rest => (readNatural? base? rest).map fun (value, rest) => (Int.ofNat value, rest)

def leastInteger : Int := -9223372036854775808
def greatestInteger : Int := 9223372036854775807

def clampInteger (value : Int) : Int :=
  max leastInteger (min greatestInteger value)

def isKnownInteger (value : Int) : Bool :=
  leastInteger ≤ value && value ≤ greatestInteger

/-- The integer that a whole text stands for, with blanks around it.  Where no base is
prescribed, a text without digits stands for zero. -/
def integer? (base? : Option Nat) (text : Bytes) : Option Int :=
  match readInteger? base? text with
  | some (value, rest) =>
      if rest.all Byte.isSpace && isKnownInteger value then some value else none
  | none => if base?.isNone && text.all Byte.isSpace then some 0 else none

def inBase (base number : Nat) : Bytes :=
  (Nat.toDigits base number).map fun digit => digit.toNat.toUInt8

end TradeLocal.Numeral

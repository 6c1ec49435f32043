import TradeLocal.Numeral.Integer

/-!
# Floating-point numbers

Numbers of a binary format, which is given by the length of its mantissas and the range of its
exponents.  They are read from decimal and hexadecimal texts, and a number that the format does
not have is replaced by the nearest one, of two equally near ones by the one with an even
mantissa.
-/

namespace TradeLocal.Numeral

structure BinaryFormat where
  /-- How many bits a mantissa has. -/
  bits : Nat
  /-- The exponent of the least mantissas. -/
  least : Int
  /-- The power of two from which on numbers are too large. -/
  greatest : Int
  deriving DecidableEq, Repr

def BinaryFormat.double : BinaryFormat := ⟨53, -1074, 1024⟩

def BinaryFormat.extended : BinaryFormat := ⟨64, -16445, 16384⟩

inductive Floating where
  /-- A mantissa times a power of two. -/
  | finite (isNegative : Bool) (mantissa : Nat) (exponent : Int)
  | infinite (isNegative : Bool)
  | undefined (isNegative : Bool)
  deriving DecidableEq, Repr

/-- The quotient rounded to the nearest integer, a half to the even one. -/
def roundedQuotient (numerator denominator : Nat) : Nat :=
  let quotient := numerator / denominator
  let rest := 2 * (numerator % denominator)
  if denominator < rest || (rest == denominator && quotient % 2 == 1) then quotient + 1
  else quotient

def fractionOfPower (base : Nat) (exponent : Int) : Nat × Nat :=
  if 0 ≤ exponent then (Nat.pow base exponent.toNat, 1) else (1, Nat.pow base (-exponent).toNat)

structure Reading where
  value : Floating
  /-- Whether the number is outside the range of its format. -/
  isOutOfRange : Bool := false
  rest : Bytes

namespace Floating

def isNegative : Floating → Bool
  | finite isNegative _ _ | infinite isNegative | undefined isNegative => isNegative

def ofNat (number : Nat) : Floating :=
  finite false number 0

/-- The nearest number of a format to a fraction, and whether the fraction is out of range. -/
def ofFraction (format : BinaryFormat) (isNegative : Bool) (numerator denominator : Nat) :
    Floating × Bool :=
  if numerator == 0 then (finite isNegative 0 0, false)
  else
    let magnitude : Int := Int.ofNat numerator.log2 - Int.ofNat denominator.log2
    let exponent := max format.least (magnitude - Int.ofNat format.bits)
    let scaled (exponent : Int) : Nat × Nat :=
      if 0 ≤ exponent then (numerator, denominator * Nat.pow 2 exponent.toNat)
      else (numerator * Nat.pow 2 (-exponent).toNat, denominator)
    let isLong (exponent : Int) : Bool :=
      let (numerator, denominator) := scaled exponent
      Nat.pow 2 format.bits ≤ numerator / denominator
    let exponent := if isLong exponent then exponent + 1 else exponent
    let (top, bottom) := scaled exponent
    let mantissa := roundedQuotient top bottom
    let isTooLarge := format.greatest ≤ Int.ofNat mantissa.log2 + exponent && mantissa != 0
    let isTiny := mantissa < Nat.pow 2 (format.bits - 1) && top % bottom != 0
    if isTooLarge then (infinite isNegative, true)
    else (finite isNegative mantissa exponent, isTiny)

/-- Digits with a point among them: all digits, and how many are behind the point. -/
def readDigits (base : Nat) (text : Bytes) : Option (Bytes × Nat × Bytes) :=
  let whole := text.takeWhile (isDigitOf base)
  let rest := text.drop whole.length
  match rest with
  | 46 :: behind =>
      let part := behind.takeWhile (isDigitOf base)
      if whole.isEmpty && part.isEmpty then none
      else some (whole ++ part, part.length, behind.drop part.length)
  | _ => if whole.isEmpty then none else some (whole, 0, rest)

def readExponent (letter : UInt8) (text : Bytes) : Int × Bytes :=
  match text with
  | first :: rest =>
      if Byte.toLower first == letter then
        let (isNegative, digits) :=
          match rest with
          | Byte.hyphen :: digits => (true, digits)
          | Byte.plus :: digits => (false, digits)
          | digits => (false, digits)
        match readNatural? (some 10) digits with
        | some (value, rest) => (if isNegative then -Int.ofNat value else Int.ofNat value, rest)
        | none => (0, text)
      else (0, text)
  | [] => (0, text)

/-- The exponents beyond which no number of any format is left. -/
def exponentLimit : Int := 30000

def ofScientific (format : BinaryFormat) (isNegative : Bool) (base power : Nat) (digits : Bytes)
    (exponent : Int) : Floating × Bool :=
  let mantissa := ofDigits base digits
  if mantissa == 0 then (finite isNegative 0 0, false)
  else if exponentLimit < exponent then (infinite isNegative, true)
  else if exponent < -exponentLimit - 4 * Int.ofNat digits.length then
    (finite isNegative 0 0, true)
  else
    let (top, bottom) := fractionOfPower power exponent
    ofFraction format isNegative (mantissa * top) bottom

def dropWord? (word : String) (text : Bytes) : Option Bytes :=
  let word := ascii word
  if (text.take word.length).map Byte.toLower == word then some (text.drop word.length) else none

def dropPayload (text : Bytes) : Bytes :=
  match text with
  | Byte.openParenthesis :: rest =>
      match rest.dropWhile Byte.isName with
      | Byte.closeParenthesis :: rest => rest
      | _ => text
  | _ => text

def readMagnitude? (format : BinaryFormat) (isNegative : Bool) (text : Bytes) :
    Option Reading :=
  let decimal : Option Reading :=
    (readDigits 10 text).map fun (digits, places, rest) =>
      let (exponent, rest) := readExponent 101 rest
      let (value, isOutOfRange) :=
        ofScientific format isNegative 10 10 digits (exponent - Int.ofNat places)
      { value, isOutOfRange, rest }
  match text with
  | 48 :: mark :: behind =>
      if Byte.toLower mark == 120 then
        match readDigits 16 behind with
        | none => decimal
        | some (digits, places, rest) =>
            let (exponent, rest) := readExponent 112 rest
            let (value, isOutOfRange) :=
              ofScientific format isNegative 16 2 digits (exponent - 4 * Int.ofNat places)
            some { value, isOutOfRange, rest }
      else decimal
  | _ => decimal

def read? (format : BinaryFormat) (text : Bytes) : Option Reading :=
  let text := text.dropWhile Byte.isSpace
  let (isNegative, text) :=
    match text with
    | Byte.hyphen :: rest => (true, rest)
    | Byte.plus :: rest => (false, rest)
    | rest => (false, rest)
  match dropWord? "infinity" text <|> dropWord? "inf" text with
  | some rest => some { value := infinite isNegative, rest }
  | none =>
      match dropWord? "nan" text with
      | some rest => some { value := undefined isNegative, rest := dropPayload rest }
      | none => readMagnitude? format isNegative text

/-- The finite number as a mantissa with a sign at a common exponent. -/
def alignedTo (exponent : Int) : Floating → Int
  | finite isNegative mantissa own =>
      let magnitude := Int.ofNat (mantissa * Nat.pow 2 (own - exponent).toNat)
      if isNegative then -magnitude else magnitude
  | _ => 0

def exponent : Floating → Int
  | finite _ _ exponent => exponent
  | _ => 0

def isLess (left right : Floating) : Bool :=
  match left, right with
  | undefined _, _ | _, undefined _ => false
  | infinite isNegative, infinite other => isNegative && !other
  | infinite isNegative, _ => isNegative
  | _, infinite isNegative => !isNegative
  | left, right =>
      let common := min left.exponent right.exponent
      left.alignedTo common < right.alignedTo common

def ofAligned (format : BinaryFormat) (value exponent : Int) : Floating :=
  let (top, bottom) := fractionOfPower 2 exponent
  (ofFraction format (value < 0) (value.natAbs * top) bottom).1

def sum (format : BinaryFormat) (left right : Floating) : Floating :=
  match left, right with
  | undefined isNegative, _ | _, undefined isNegative => undefined isNegative
  | infinite isNegative, infinite other =>
      if isNegative == other then infinite isNegative else undefined true
  | infinite isNegative, _ | _, infinite isNegative => infinite isNegative
  | left, right =>
      let common := min left.exponent right.exponent
      ofAligned format (left.alignedTo common + right.alignedTo common) common

def product (format : BinaryFormat) (left right : Floating) : Floating :=
  match left, right with
  | undefined isNegative, _ | _, undefined isNegative => undefined isNegative
  | infinite _, finite _ 0 _ | finite _ 0 _, infinite _ => undefined true
  | infinite isNegative, other | other, infinite isNegative =>
      infinite (isNegative != other.isNegative)
  | left, right =>
      ofAligned format (left.alignedTo left.exponent * right.alignedTo right.exponent)
        (left.exponent + right.exponent)

end Floating

end TradeLocal.Numeral

import TradeLocal.Numeral.Floating

/-!
# Directives

How a value is written in a field: with which sign, to how many digits, how it is padded.  The
digits of floating-point numbers are exact, and the last one is rounded to the nearest, a half
to the even one.
-/

namespace TradeLocal.Numeral

structure Directive where
  /-- The letter that says what kind of value is written, and in which style. -/
  letter : UInt8
  /-- Pad on the right. -/
  isLeft : Bool := false
  /-- Write a sign also in front of what is not negative. -/
  showsPlus : Bool := false
  /-- Write a blank in place of a plus. -/
  showsBlank : Bool := false
  /-- Show the base, or keep the point and the zeros behind it. -/
  isAlternate : Bool := false
  /-- Pad with zeros. -/
  padsZeros : Bool := false
  width : Nat := 0
  precision : Option Nat := none
  deriving DecidableEq, Repr

def Directive.addFlag (directive : Directive) (flag : UInt8) : Directive :=
  if flag == Byte.hyphen then { directive with isLeft := true }
  else if flag == Byte.plus then { directive with showsPlus := true }
  else if flag == Byte.space then { directive with showsBlank := true }
  else if flag == Byte.hash then { directive with isAlternate := true }
  else if flag == 48 then { directive with padsZeros := true }
  else directive

def zeroPadded (length : Nat) (digits : Bytes) : Bytes :=
  List.replicate (length - digits.length) 48 ++ digits

namespace Directive

def isUpper (directive : Directive) : Bool :=
  Byte.isUpper directive.letter

def pad (directive : Directive) (text : Bytes) : Bytes :=
  let filling := List.replicate (directive.width - text.length) Byte.space
  if directive.isLeft then text ++ filling else filling ++ text

/-- Pad a number; zeros stand between what is in front and the digits. -/
def padNumber (directive : Directive) (mayPadZeros : Bool) (front digits : Bytes) : Bytes :=
  if mayPadZeros && directive.padsZeros && !directive.isLeft then
    front ++ zeroPadded (directive.width - front.length) digits
  else directive.pad (front ++ digits)

/-- Write a text, cut to the precision. -/
def writeText (directive : Directive) (text : Bytes) : Bytes :=
  directive.pad ((directive.precision.map text.take).getD text)

def sign (directive : Directive) (isNegative : Bool) : Bytes :=
  if isNegative then [Byte.hyphen]
  else if directive.showsPlus then [Byte.plus]
  else if directive.showsBlank then [Byte.space]
  else []

/-- The digits of an integer: none for a zero to no digits. -/
def integerDigits (directive : Directive) (base value : Nat) : Bytes :=
  match directive.precision with
  | none => inBase base value
  | some 0 => if value == 0 then [] else inBase base value
  | some precision => zeroPadded precision (inBase base value)

def writeInteger (directive : Directive) (value : Int) : Bytes :=
  directive.padNumber directive.precision.isNone (directive.sign (value < 0))
    (directive.integerDigits 10 value.natAbs)

def writeNatural (directive : Directive) (value : Nat) : Bytes :=
  let letter := Byte.toLower directive.letter
  let mayPadZeros := directive.precision.isNone
  if letter == Byte.ofChar 'x' then
    let digits := directive.integerDigits 16 value
    let digits := if directive.isUpper then digits.map Byte.toUpper else digits
    let front := if directive.isAlternate && value != 0 then [48, directive.letter] else []
    directive.padNumber mayPadZeros front digits
  else if letter == Byte.ofChar 'o' then
    let digits := directive.integerDigits 8 value
    let digits :=
      if directive.isAlternate && digits.head? != some 48 then 48 :: digits else digits
    directive.padNumber mayPadZeros [] digits
  else directive.padNumber mayPadZeros [] (directive.integerDigits 10 value)

/-- A point behind the first part of a number, if something follows or it is wanted. -/
def joinParts (directive : Directive) (whole part : Bytes) : Bytes :=
  if part.isEmpty && !directive.isAlternate then whole else whole ++ 46 :: part

def withPoint (directive : Directive) (places : Nat) (digits : Bytes) : Bytes :=
  let digits := zeroPadded (places + 1) digits
  directive.joinParts (digits.take (digits.length - places))
    (digits.drop (digits.length - places))

def fixedDigits (directive : Directive) (mantissa : Nat) (exponent : Int) (places : Nat) :
    Bytes :=
  let (top, bottom) := fractionOfPower 2 exponent
  let digits := roundedQuotient (mantissa * top * Nat.pow 10 places) bottom
  directive.withPoint places (Bytes.ofNat digits)

def scientificParts (mantissa : Nat) (exponent : Int) (places : Nat) : Int × Nat :=
  let (top, bottom) := fractionOfPower 2 exponent
  let top := mantissa * top
  let scaled (power : Int) : Nat :=
    let (up, down) := fractionOfPower 10 (Int.ofNat places - power)
    roundedQuotient (top * up) (bottom * down)
  let isBelow (power : Int) : Bool :=
    let (up, down) := fractionOfPower 10 power
    top * down < up * bottom
  let guess : Int :=
    ((Int.ofNat top.log2 - Int.ofNat bottom.log2 - 1) * 30103).fdiv 100000
  let power := if isBelow (guess + 1) then guess else guess + 1
  let power := if isBelow power then power - 1 else power
  let power := if isBelow (power + 1) then power else power + 1
  let digits := scaled power
  if Nat.pow 10 (places + 1) ≤ digits then (power + 1, scaled (power + 1)) else (power, digits)

def exponentText (letter : UInt8) (leastLength : Nat) (exponent : Int) : Bytes :=
  letter :: (if exponent < 0 then Byte.hyphen else Byte.plus) ::
    zeroPadded leastLength (Bytes.ofNat exponent.natAbs)

def scientificDigits (directive : Directive) (mantissa : Nat) (exponent : Int) (places : Nat) :
    Bytes :=
  let (power, digits) :=
    if mantissa == 0 then (0, 0) else scientificParts mantissa exponent places
  directive.withPoint places (Bytes.ofNat digits) ++
    exponentText (if directive.isUpper then 69 else 101) 2 power

def withoutZeros (text : Bytes) : Bytes :=
  let whole := text.takeWhile fun byte => byte != 46 && Byte.toLower byte != 101
  match text.drop whole.length with
  | 46 :: behind =>
      let part := behind.takeWhile Byte.isDigit
      let kept := (part.reverse.dropWhile (· == 48)).reverse
      whole ++ (if kept.isEmpty then [] else 46 :: kept) ++ behind.drop part.length
  | _ => text

def generalDigits (directive : Directive) (mantissa : Nat) (exponent : Int) : Bytes :=
  let precision := max 1 (directive.precision.getD 6)
  let power :=
    if mantissa == 0 then 0 else (scientificParts mantissa exponent (precision - 1)).1
  let text :=
    if -4 ≤ power && power < Int.ofNat precision then
      directive.fixedDigits mantissa exponent (Int.ofNat precision - 1 - power).toNat
    else directive.scientificDigits mantissa exponent (precision - 1)
  if directive.isAlternate then text else withoutZeros text

/-- The digits of a number in base sixteen.  The first digit holds the bits that remain when
all others hold four. -/
def hexadecimalDigits (directive : Directive) (format : BinaryFormat) (mantissa : Nat)
    (exponent : Int) : Bytes :=
  let places := (format.bits - 1) / 4
  let shift := format.bits - 1 - mantissa.log2
  let room := (exponent - format.least).toNat
  let (mantissa, exponent) :=
    if mantissa == 0 then (0, -4 * Int.ofNat places)
    else (mantissa * Nat.pow 2 (min shift room), exponent - Int.ofNat (min shift room))
  let (digits, shown) :=
    match directive.precision with
    | some precision =>
        if precision < places then
          (roundedQuotient mantissa (Nat.pow 16 (places - precision)), precision)
        else (mantissa * Nat.pow 16 (precision - places), precision)
    | none =>
        let zeros := ((zeroPadded (places + 1) (inBase 16 mantissa)).reverse.takeWhile
          (· == 48)).length
        let dropped := min zeros places
        (mantissa / Nat.pow 16 dropped, places - dropped)
  let text := directive.withPoint shown (inBase 16 digits) ++
    exponentText 112 1 (exponent + 4 * Int.ofNat places)
  if directive.isUpper then text.map Byte.toUpper else text

def writeFloating (directive : Directive) (format : BinaryFormat) (value : Floating) : Bytes :=
  let sign := directive.sign value.isNegative
  let word (text : String) : Bytes :=
    let text := ascii text
    directive.pad (sign ++ if directive.isUpper then text.map Byte.toUpper else text)
  match value with
  | .infinite _ => word "inf"
  | .undefined _ => word "nan"
  | .finite _ mantissa exponent =>
      let letter := Byte.toLower directive.letter
      let places := directive.precision.getD 6
      if letter == Byte.ofChar 'e' then
        directive.padNumber true sign (directive.scientificDigits mantissa exponent places)
      else if letter == Byte.ofChar 'g' then
        directive.padNumber true sign (directive.generalDigits mantissa exponent)
      else if letter == Byte.ofChar 'a' then
        directive.padNumber true (sign ++ [48, if directive.isUpper then 88 else 120])
          (directive.hexadecimalDigits format mantissa exponent)
      else directive.padNumber true sign (directive.fixedDigits mantissa exponent places)

end Directive

end TradeLocal.Numeral

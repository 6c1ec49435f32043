/-!
# Byte strings

Arguments, environment values, paths and file contents are strings of bytes with no
promised encoding.  This module holds the byte classes the library reads them with, and
the few operations on byte strings that several modules share.  All classes are ASCII.
-/

namespace TradeLocal

/-- Text as the system passes it: any bytes, in any encoding or none. -/
abbrev Bytes := List UInt8

def ascii (text : String) : Bytes :=
  text.toList.map fun character => character.toNat.toUInt8

namespace Byte

def ofChar (character : Char) : UInt8 :=
  character.toNat.toUInt8

@[match_pattern] abbrev newline : UInt8 := 10
@[match_pattern] abbrev space : UInt8 := 32
@[match_pattern] abbrev doubleQuote : UInt8 := 34
@[match_pattern] abbrev hash : UInt8 := 35
@[match_pattern] abbrev dollar : UInt8 := 36
@[match_pattern] abbrev percent : UInt8 := 37
@[match_pattern] abbrev ampersand : UInt8 := 38
@[match_pattern] abbrev singleQuote : UInt8 := 39
@[match_pattern] abbrev openParenthesis : UInt8 := 40
@[match_pattern] abbrev closeParenthesis : UInt8 := 41
@[match_pattern] abbrev plus : UInt8 := 43
@[match_pattern] abbrev hyphen : UInt8 := 45
@[match_pattern] abbrev slash : UInt8 := 47
@[match_pattern] abbrev colon : UInt8 := 58
@[match_pattern] abbrev semicolon : UInt8 := 59
@[match_pattern] abbrev less : UInt8 := 60
@[match_pattern] abbrev equals : UInt8 := 61
@[match_pattern] abbrev greater : UInt8 := 62
@[match_pattern] abbrev question : UInt8 := 63
@[match_pattern] abbrev atSign : UInt8 := 64
@[match_pattern] abbrev openBracket : UInt8 := 91
@[match_pattern] abbrev backslash : UInt8 := 92
@[match_pattern] abbrev underscore : UInt8 := 95
@[match_pattern] abbrev backtick : UInt8 := 96
@[match_pattern] abbrev openBrace : UInt8 := 123
@[match_pattern] abbrev bar : UInt8 := 124
@[match_pattern] abbrev closeBrace : UInt8 := 125

/-- Space or tab: what separates the words of a line. -/
def isBlank (byte : UInt8) : Bool :=
  byte == 32 || byte == 9

/-- ASCII whitespace: space, tab, newline, vertical tab, form feed, carriage return. -/
def isSpace (byte : UInt8) : Bool :=
  byte == 32 || (9 ≤ byte && byte ≤ 13)

def isDigit (byte : UInt8) : Bool :=
  48 ≤ byte && byte ≤ 57

def isUpper (byte : UInt8) : Bool :=
  65 ≤ byte && byte ≤ 90

def isLetter (byte : UInt8) : Bool :=
  isUpper byte || (97 ≤ byte && byte ≤ 122)

def toLower (byte : UInt8) : UInt8 :=
  if isUpper byte then byte + 32 else byte

def toUpper (byte : UInt8) : UInt8 :=
  if 97 ≤ byte && byte ≤ 122 then byte - 32 else byte

def isName (byte : UInt8) : Bool :=
  isLetter byte || isDigit byte || byte == underscore

def isNameStart (byte : UInt8) : Bool :=
  isLetter byte || byte == underscore

theorem isName_of_isNameStart {byte : UInt8} (start : isNameStart byte = true) :
    isName byte = true := by
  simp only [isNameStart, Bool.or_eq_true] at start
  rcases start with letter | under
  · simp [isName, letter]
  · simp [isName, under]

theorem isName_of_isDigit {byte : UInt8} (digit : isDigit byte = true) : isName byte = true := by
  simp [isName, digit]

theorem isNameStart_eq_false_of_isDigit {byte : UInt8} (digit : isDigit byte = true) :
    isNameStart byte = false := by
  simp only [isDigit, isNameStart, isLetter, isUpper, underscore] at *
  grind

theorem isSpace_of_isBlank {byte : UInt8} (blank : isBlank byte = true) :
    isSpace byte = true := by
  simp only [isBlank, Bool.or_eq_true, beq_iff_eq] at blank
  rcases blank with rfl | rfl <;> rfl

end Byte

namespace Bytes

def trimLeft (text : Bytes) : Bytes :=
  text.dropWhile Byte.isSpace

def trimRight (text : Bytes) : Bytes :=
  (text.reverse.dropWhile Byte.isSpace).reverse

def trim (text : Bytes) : Bytes :=
  trimRight (trimLeft text)

/-- The pieces of `text` between occurrences of `separator`.  There is always one piece
more than there are separators. -/
def splitOn (separator : UInt8) : Bytes → List Bytes
  | [] => [[]]
  | byte :: rest =>
      if byte = separator then [] :: splitOn separator rest
      else (splitOn separator rest).modifyHead (byte :: ·)

def join (separator : UInt8) (pieces : List Bytes) : Bytes :=
  List.intercalate [separator] pieces

/-- The text up to its first NUL, as an interface that takes NUL-terminated strings
sees it. -/
def cutAtNul (text : Bytes) : Bytes :=
  text.takeWhile (· != 0)

def ofNat (number : Nat) : Bytes :=
  (Nat.toDigits 10 number).map fun digit => digit.toNat.toUInt8

def ofInt : Int → Bytes
  | .ofNat number => ofNat number
  | .negSucc number => Byte.hyphen :: ofNat (number + 1)

def toNat? (text : Bytes) : Option Nat :=
  if text.isEmpty || !text.all Byte.isDigit then none
  else some (text.foldl (fun value digit => value * 10 + (digit.toNat - 48)) 0)

def isVariableName : Bytes → Bool
  | [] => false
  | first :: rest => Byte.isNameStart first && rest.all Byte.isName

@[simp]
theorem splitOn_nil (separator : UInt8) : splitOn separator [] = [[]] := rfl

theorem splitOn_ne_nil (separator : UInt8) (text : Bytes) : splitOn separator text ≠ [] := by
  induction text with
  | nil => simp [splitOn]
  | cons byte rest ih =>
      simp only [splitOn]
      split
      · simp
      · cases pieces : splitOn separator rest with
        | nil => exact absurd pieces ih
        | cons piece others => simp

@[simp]
theorem cutAtNul_nil : cutAtNul [] = [] := rfl

end Bytes

end TradeLocal

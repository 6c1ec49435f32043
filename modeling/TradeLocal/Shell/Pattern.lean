import TradeLocal.Bytes

/-!
# Patterns

The patterns that match file names and the branches of `case`.  A pattern is a text in which
`*`, `?` and brackets have a meaning, unless a backslash stands before them.
-/

namespace TradeLocal.Shell

def byteClasses : List (Bytes × (UInt8 → Bool)) :=
  let isPrinted (byte : UInt8) : Bool := 32 ≤ byte && byte ≤ 126
  let isWordLike (byte : UInt8) : Bool := Byte.isLetter byte || Byte.isDigit byte
  [(ascii ":alnum:]", isWordLike), (ascii ":alpha:]", Byte.isLetter),
    (ascii ":blank:]", Byte.isBlank), (ascii ":cntrl:]", fun byte => byte < 32 || byte == 127),
    (ascii ":digit:]", Byte.isDigit), (ascii ":graph:]", fun byte => 33 ≤ byte && byte ≤ 126),
    (ascii ":lower:]", fun byte => Byte.isLetter byte && !Byte.isUpper byte),
    (ascii ":print:]", isPrinted),
    (ascii ":punct:]", fun byte => 33 ≤ byte && byte ≤ 126 && !isWordLike byte),
    (ascii ":space:]", Byte.isSpace), (ascii ":upper:]", Byte.isUpper),
    (ascii ":xdigit:]", fun byte =>
      Byte.isDigit byte || (65 ≤ byte && byte ≤ 70) || (97 ≤ byte && byte ≤ 102))]

/-- Whether a byte lies in a range.  The bytes of a range are ordered as signed numbers. -/
def isWithin (low high byte : UInt8) : Bool :=
  low.toInt8 ≤ byte.toInt8 && byte.toInt8 ≤ high.toInt8

/-- Whether a byte is in a bracket, and the pattern behind the bracket.  There is none if the
bracket is not closed. -/
def bracketMatch (byte : UInt8) : Nat → Bool → Bool → Bytes → Option (Bool × Bytes)
  | 0, _, _, _ => none
  | _, _, _, [] => none
  | fuel + 1, isFirst, found, first :: rest =>
      if first == 93 && !isFirst then some (found, rest)
      else
        match byteClasses.find? fun (name, _) => first == 91 && name.isPrefixOf rest with
        | some (name, contains) =>
            bracketMatch byte fuel false (found || contains byte) (rest.drop name.length)
        | none =>
            match (if first == Byte.backslash then rest else first :: rest) with
            | [] => none
            | low :: after =>
                match rangeEnd? after with
                | some (high, after) =>
                    bracketMatch byte fuel false (found || isWithin low high byte) after
                | none => bracketMatch byte fuel false (found || low == byte) after
where
  /-- The last byte of a range whose first byte has been read. -/
  rangeEnd? : Bytes → Option (UInt8 × Bytes)
    | Byte.hyphen :: high :: after =>
        if high == 93 then none
        else if high == Byte.backslash then
          match after with
          | [] => none
          | high :: after => some (high, after)
        else some (high, after)
    | _ => none

def anySuffix (test : Bytes → Bool) : Bytes → Bool
  | [] => test []
  | byte :: rest => test (byte :: rest) || anySuffix test rest

def matchWithin : Nat → Bytes → Bytes → Bool
  | 0, _, _ => false
  | _, [], text => text.isEmpty
  | fuel + 1, first :: rest, text =>
      let exactly (expected : UInt8) (rest : Bytes) : Bool :=
        match text with
        | [] => false
        | byte :: text => byte == expected && matchWithin fuel rest text
      if first == 42 then rest.all (· == 42) || anySuffix (matchWithin fuel rest) text
      else if first == Byte.question then
        match text with
        | [] => false
        | _ :: text => matchWithin fuel rest text
      else if first == Byte.backslash then
        match rest with
        | [] => exactly first rest
        | quoted :: rest => exactly quoted rest
      else if first == 91 then
        match text with
        | [] => false
        | byte :: text =>
            let (isNegated, inside) :=
              match rest with
              | 33 :: inside => (true, inside)
              | _ => (false, rest)
            match bracketMatch byte (inside.length + 1) true false inside with
            | some (found, rest) => found != isNegated && matchWithin fuel rest text
            | none => byte == first && matchWithin fuel rest text
      else exactly first rest

def matchPattern (pattern text : Bytes) : Bool :=
  matchWithin (pattern.length + 1) pattern text

/-- Whether a pattern matches a text as a whole, up to the first NUL in it. -/
def matchFirst (pattern text : Bytes) : Bool :=
  matchPattern pattern (Bytes.cutAtNul text)

/-- How much of the start of a text a pattern matches.  A NUL keeps parts of the text apart: what
is matched lies in the first of them, and at its longest it may take the others with it. -/
def matchedStart? (pattern : Bytes) (longest : Bool) (text : Bytes) : Option Nat :=
  if longest then lastMatch text.length
  else
    let lengths := List.range ((Bytes.cutAtNul text).length + 1)
    lengths.find? fun length => matchFirst pattern (text.take length)
where
  /-- The longest start that matches, of those no longer than a length. -/
  lastMatch : Nat → Option Nat
    | 0 => if matchPattern pattern [] then some 0 else none
    | length + 1 =>
        if matchFirst pattern (text.take (length + 1)) then some (length + 1)
        else lastMatch length

/-- How much of the end of a text a pattern matches.  A NUL keeps parts of the text apart: what
is matched lies in one of them, at its longest in the first, and takes with it the parts behind. -/
def matchedEnd? (pattern : Bytes) (longest : Bool) (text : Bytes) : Option Nat :=
  let matchesAt (index : Nat) : Bool := matchFirst pattern (text.drop index)
  let found :=
    if longest then (List.range ((Bytes.cutAtNul text).length + 1)).find? matchesAt
    else (List.range (text.length + 1)).reverse.find? matchesAt
  found.map (text.length - ·)

end TradeLocal.Shell

import TradeLocal.Regex.Match
import TradeLocal.Shell.Pattern

/-!
# Reading regular expressions

The two ways of writing regular expressions.  In the basic way parentheses, braces, and the
operators for choice are written with a backslash in front; in the extended way without.
-/

namespace TradeLocal.Regex

inductive Mistake where
  | openGroup
  | closedGroup
  | openBracket
  | openBraces
  | badBraces
  | badRange
  | badClass
  | badReference
  | trailingBackslash
  | badRepetition
  | nakedClass
  | loneBracket
  deriving DecidableEq, Repr

def Mistake.text : Mistake → Bytes
  | openGroup => ascii "Unmatched ( or \\("
  | closedGroup => ascii "Unmatched ) or \\)"
  | openBracket => ascii "Unmatched [, [^, [:, [., or [="
  | openBraces => ascii "Unmatched \\\x7b"
  | badBraces => ascii "Invalid content of \\\x7b\\\x7d"
  | badRange => ascii "Invalid range end"
  | badClass => ascii "Invalid character class name"
  | badReference => ascii "Invalid back reference"
  | trailingBackslash => ascii "Trailing backslash"
  | badRepetition => ascii "Invalid preceding regular expression"
  | loneBracket => ascii "Invalid regular expression"
  | nakedClass => ascii "character class syntax is [[:space:]], not [:space:]"

structure Style where
  isExtended : Bool
  ignoresCase : Bool := false
  /-- Whether a dot stands for a newline, too. -/
  dotIsAny : Bool := true
  /-- Whether a closing parenthesis without an opening one stands for itself. -/
  takesLoneClosing : Bool := false

structure Reader where
  rest : Bytes
  /-- How many groups have been opened. -/
  opened : Nat := 0
  /-- The groups that have been closed. -/
  closed : List Nat := []
  /-- The operators that have nothing in front to repeat, the latest first. -/
  idle : List UInt8 := []

abbrev Parsing := ExceptT Mistake (StateM Reader)

namespace Parsing

def rest : Parsing Bytes :=
  return (← get).rest

def setRest (rest : Bytes) : Parsing Unit :=
  modify fun reader => { reader with rest }

def single (style : Style) (byte : UInt8) : Regex :=
  .member fun other =>
    if style.ignoresCase then Byte.toLower other == Byte.toLower byte else other == byte

/-- The text of a class in a bracket, which ends with a mark and a closing bracket. -/
def classText? (mark : UInt8) (text : Bytes) : Option (Bytes × Bytes) :=
  let name := text.takeWhile (· != mark)
  match text.drop name.length with
  | _ :: 93 :: behind => some (name, behind)
  | _ => none

def members : Nat → Bool → List (UInt8 → Bool) → Parsing (List (UInt8 → Bool))
  | 0, _, _ => throw .openBracket
  | fuel + 1, isFirst, found => do
      match ← rest with
      | [] => throw .openBracket
      | 93 :: behind =>
          if isFirst then range fuel found 93 behind
          else
            setRest behind
            return found
      | 91 :: mark :: behind =>
          if mark == Byte.colon then
            match classText? mark behind with
            | none => throw .openBracket
            | some (name, behind) =>
                match Shell.byteClasses.lookup (Byte.colon :: name ++ ascii ":]") with
                | none => throw .badClass
                | some accepts => do
                    setRest behind
                    members fuel false (accepts :: found)
          else if mark == Byte.equals || mark == Byte.ofChar '.' then
            match classText? mark behind with
            | some ([byte], behind) => range fuel found byte behind
            | _ => throw .openBracket
          else range fuel found 91 (mark :: behind)
      | byte :: behind => range fuel found byte behind
where
  /-- A byte, or a range that begins with it. -/
  range (fuel : Nat) (found : List (UInt8 → Bool)) (low : UInt8) (behind : Bytes) :
      Parsing (List (UInt8 → Bool)) := do
    match behind with
    | Byte.hyphen :: high :: after =>
        if high == 93 then
          setRest behind
          members fuel false ((· == low) :: found)
        else if high < low then throw .badRange
        else
          setRest after
          members fuel false ((fun byte => low ≤ byte && byte ≤ high) :: found)
    | behind => do
        setRest behind
        members fuel false ((· == low) :: found)

def bracket (style : Style) : Parsing Regex := do
  let text ← rest
  if text.isEmpty then throw .loneBracket
  let isNegated := text.head? == some 94
  if isNegated then setRest text.tail
  let inside ← rest
  if !isNegated && inside.head? == some Byte.colon then
    match classText? Byte.colon inside.tail with
    | some _ => throw .nakedClass
    | none => pure ()
  let found ← members (inside.length + 2) true []
  let accepts (byte : UInt8) : Bool :=
    let contains (byte : UInt8) : Bool := found.any (· byte)
    let isIn :=
      if style.ignoresCase then contains (Byte.toLower byte) || contains (Byte.toUpper byte)
      else contains byte
    isIn != isNegated
  return .member accepts

/-- The bounds in braces, and what is behind; nothing if it is not of that form. -/
def bounds? (close : Bytes) (text : Bytes) : Option (Nat × Option Nat × Bytes) :=
  let low := text.takeWhile Byte.isDigit
  let behind := text.drop low.length
  let value (digits : Bytes) : Nat := (Bytes.toNat? digits).getD 0
  let closed (least : Nat) (greatest : Option Nat) (text : Bytes) :
      Option (Nat × Option Nat × Bytes) :=
    if close.isPrefixOf text then some (least, greatest, text.drop close.length) else none
  match behind with
  | 44 :: after =>
      let high := after.takeWhile Byte.isDigit
      closed (value low) (if high.isEmpty then none else some (value high))
        (after.drop high.length)
  | behind => if low.isEmpty then none else closed (value low) (some (value low)) behind

def repetitionLimit : Nat := 32767

def repeated (style : Style) : Nat → Regex → Parsing Regex
  | 0, regex => return regex
  | fuel + 1, regex => do
      let braces (open_ close : Bytes) (text : Bytes) : Parsing Regex := do
        match bounds? close (text.drop open_.length) with
        | some (least, greatest, behind) =>
            if greatest.any (· < least) || repetitionLimit < max least (greatest.getD 0) then
              throw .badBraces
            else
              setRest behind
              repeated style fuel (.repetition least greatest regex)
        | none =>
            if style.isExtended then return regex
            else
              let inside := text.drop open_.length
              let content := inside.dropWhile fun byte =>
                Byte.isDigit byte || byte == Byte.ofChar ','
              if content.isEmpty then throw .openBraces else throw .badBraces
      let text ← rest
      let again (least : Nat) (greatest : Option Nat) (behind : Bytes) : Parsing Regex := do
        setRest behind
        repeated style fuel (.repetition least greatest regex)
      match text, style.isExtended with
      | 42 :: behind, _ => again 0 none behind
      | 43 :: behind, true => again 1 none behind
      | 63 :: behind, true => again 0 (some 1) behind
      | 123 :: _, true => braces [123] [125] text
      | 92 :: 43 :: behind, false => again 1 none behind
      | 92 :: 63 :: behind, false => again 0 (some 1) behind
      | 92 :: 123 :: _, false => braces [92, 123] [92, 125] text
      | _, _ => return regex

def escaped? (letter : UInt8) : Option Regex :=
  let isBlank (byte : UInt8) : Bool := Byte.isSpace byte
  ([('<', .boundary .wordStart), ('>', .boundary .wordEnd), ('b', .boundary .wordEdge),
    ('B', .boundary .noWordEdge), ('w', .member Byte.isName),
    ('W', .member fun byte => !Byte.isName byte), ('s', .member isBlank),
    ('S', .member fun byte => !isBlank byte), (Char.ofNat 96, .boundary .textStart),
    (Char.ofNat 39, .boundary .textEnd)].map
    fun ((letter : Char), (regex : Regex)) => (Byte.ofChar letter, regex)).lookup letter

/-- Pass over an operator that has nothing to repeat. -/
def pass (rest : Bytes) (operator : UInt8) : Parsing Unit :=
  modify fun reader => { reader with rest, idle := operator :: reader.idle }

/-- Whether a text goes on with the end of an expression: a choice, or the end of a group. -/
def isAtEnd (style : Style) (isInside : Bool) : Bytes → Bool
  | [] => true
  | 124 :: _ => style.isExtended
  | 41 :: _ => style.isExtended && (isInside || !style.takesLoneClosing)
  | 92 :: 124 :: _ => !style.isExtended
  | 92 :: 41 :: _ => !style.isExtended
  | _ => false

mutual

/-- Read the choices of an expression; `depth` is how many groups it is in. -/
def choices (style : Style) : Nat → Nat → Parsing Regex
  | 0, _ => return .empty
  | fuel + 1, depth => do
      let first ← pieces style fuel depth true .empty
      match ← rest, style.isExtended with
      | 124 :: behind, true | 92 :: 124 :: behind, false => do
          setRest behind
          return .choice first (← choices style fuel depth)
      | _, _ => return first

def pieces (style : Style) : Nat → Nat → Bool → Regex → Parsing Regex
  | 0, _, _, done => return done
  | fuel + 1, depth, isFirst, done => do
      let text ← rest
      if isAtEnd style (0 < depth) text then return done
      else
        match text with
        | 42 :: behind | 43 :: behind | 63 :: behind =>
            if isFirst && style.isExtended then
              pass behind (text.headD 0)
              pieces style fuel depth true done
            else single style (text.headD 0) |> finish style fuel depth done behind
        | 123 :: behind =>
            match bounds? [125] behind with
            | some (_, _, after) =>
                if isFirst && style.isExtended then
                  pass after 123
                  pieces style fuel depth true done
                else single style 123 |> finish style fuel depth done behind
            | none => single style 123 |> finish style fuel depth done behind
        | 94 :: behind =>
            if isFirst || style.isExtended then do
              setRest behind
              let anchor : Regex := .boundary .lineStart
              pieces style fuel depth true (.sequence done anchor)
            else single style 94 |> finish style fuel depth done behind
        | 36 :: behind =>
            if style.isExtended || isAtEnd style true behind then do
              setRest behind
              pieces style fuel depth false (.sequence done (.boundary .lineEnd))
            else single style 36 |> finish style fuel depth done behind
        | 46 :: behind =>
            .member (fun byte => style.dotIsAny || byte != Byte.newline) |>
              finish style fuel depth done behind
        | 91 :: behind => do
            setRest behind
            let regex ← bracket style
            let behind ← rest
            finish style fuel depth done behind regex
        | 40 :: behind =>
            if style.isExtended then enclosed style fuel depth done behind
            else single style 40 |> finish style fuel depth done behind
        | 92 :: 40 :: behind =>
            if style.isExtended then single style 40 |> finish style fuel depth done behind
            else enclosed style fuel depth done behind
        | [92] => throw .trailingBackslash
        | 92 :: letter :: behind =>
            if 49 ≤ letter && letter ≤ 57 then
              let number := letter.toNat - 48
              if (← get).closed.contains number then
                .back number |> finish style fuel depth done behind
              else throw .badReference
            else
              match escaped? letter with
              | some regex => finish style fuel depth done behind regex
              | none => single style letter |> finish style fuel depth done behind
        | byte :: behind => single style byte |> finish style fuel depth done behind
        | [] => return done

def finish (style : Style) : Nat → Nat → Regex → Bytes → Regex → Parsing Regex
  | 0, _, done, _, _ => return done
  | fuel + 1, depth, done, behind, regex => do
      setRest behind
      let regex ← repeated style (behind.length + 1) regex
      pieces style fuel depth false (.sequence done regex)

def enclosed (style : Style) : Nat → Nat → Regex → Bytes → Parsing Regex
  | 0, _, done, _ => return done
  | fuel + 1, depth, done, behind => do
      let number := (← get).opened + 1
      modify fun reader => { reader with rest := behind, opened := number }
      let body ← choices style fuel (depth + 1)
      let text ← rest
      let after ←
        match text, style.isExtended with
        | 41 :: after, true | 92 :: 41 :: after, false => pure after
        | _, _ => throw .openGroup
      modify fun reader => { reader with closed := number :: reader.closed }
      finish style fuel depth done after (.group number body)

end

end Parsing

structure Compiled where
  regex : Regex
  /-- How many groups it has. -/
  groups : Nat
  /-- The operators that have nothing in front to repeat. -/
  idle : List UInt8

def compile (style : Style) (text : Bytes) : Except Mistake Compiled :=
  let (result, reader) :=
    ((Parsing.choices style (8 * text.length + 8) 0).run.run { rest := text })
  match result with
  | .error mistake => .error mistake
  | .ok regex =>
      if reader.rest.isEmpty then .ok ⟨regex, reader.opened, reader.idle.reverse⟩
      else .error .closedGroup

end TradeLocal.Regex

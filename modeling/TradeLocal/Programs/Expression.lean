import TradeLocal.Numeral.Integer
import TradeLocal.Programs.Message
import TradeLocal.Regex.Reading

/-!
# Expressions

`expr` evaluates an expression whose operators and operands are words: choices, comparisons,
arithmetic and matches, in rising order of how closely they bind.
-/

namespace TradeLocal.Programs

open TradeLocal.Host TradeLocal.Numeral

inductive ExpressionError where
  | missingArgument (after : Bytes)
  | unexpectedArgument (word : Bytes)
  | unexpectedClosing
  | closingMissing (after : Bytes)
  | closingExpectedNot (word : Bytes)
  | notInteger
  | divisionByZero
  | badPattern (mistake : Regex.Mistake)
  deriving DecidableEq, Repr

def ExpressionError.text : ExpressionError → Bytes
  | missingArgument after => ascii "syntax error: missing argument after " ++ quoted after
  | unexpectedArgument word => ascii "syntax error: unexpected argument " ++ quoted word
  | unexpectedClosing => ascii "syntax error: unexpected ')'"
  | closingMissing after => ascii "syntax error: expecting ')' after " ++ quoted after
  | closingExpectedNot word => ascii "syntax error: expecting ')' instead of " ++ quoted word
  | notInteger => ascii "non-integer argument"
  | divisionByZero => ascii "division by zero"
  | badPattern mistake => mistake.text

structure Remaining where
  words : List Bytes
  last : Bytes := []

abbrev Evaluating := ExceptT ExpressionError (StateM Remaining)

namespace Evaluating

def next? : Evaluating (Option Bytes) := do
  match (← get).words with
  | [] => return none
  | word :: words => do
      set { words, last := word : Remaining }
      return some word

def operator? (operators : List String) : Evaluating (Option Bytes) := do
  match (← get).words with
  | word :: _ =>
      if operators.any fun operator => ascii operator == word then next? else return none
  | [] => return none

def integer? (word : Bytes) : Option Int :=
  let digits := match word with
    | Byte.hyphen :: digits => digits
    | digits => digits
  if digits.isEmpty || !digits.all Byte.isDigit then none
  else
    let value := Int.ofNat (ofDigits 10 digits)
    some (if word.head? == some Byte.hyphen then -value else value)

def integer (word : Bytes) : Evaluating Int :=
  match integer? word with
  | some value => return value
  | none => throw .notInteger

/-- Whether a value counts as nothing: empty, or zero in some spelling. -/
def isNothing (word : Bytes) : Bool :=
  let digits := match word with
    | Byte.hyphen :: digits => if digits.isEmpty then word else digits
    | digits => digits
  word.isEmpty || digits.all (· == 48)

/-- What a pattern matches at the start of a text: its first group, or how much it is. -/
def matched (text pattern : Bytes) : Evaluating Bytes := do
  match Regex.compile { isExtended := false } pattern with
  | .error mistake => throw (.badPattern mistake)
  | .ok compiled =>
      match compiled.regex.matchStart? { text } with
      | some place =>
          if compiled.groups == 0 then return Bytes.ofNat place.position
          else return (place.groupText? text 1).getD []
      | none => return if compiled.groups == 0 then ascii "0" else []

def truth (isTrue : Bool) : Bytes :=
  ascii (if isTrue then "1" else "0")

def compare (operator left right : Bytes) : Bytes :=
  let isLess : Bool := match integer? left, integer? right with
    | some left, some right => left < right
    | _, _ => left < right
  let isEqual : Bool := match integer? left, integer? right with
    | some left, some right => left == right
    | _, _ => left == right
  truth <|
    if operator = ascii "<" then isLess
    else if operator = ascii "<=" then isLess || isEqual
    else if operator = ascii "=" || operator = ascii "==" then isEqual
    else if operator = ascii "!=" then !isEqual
    else if operator = ascii ">=" then !isLess
    else !isLess && !isEqual

def part (text position length : Bytes) : Bytes :=
  match integer? position, integer? length with
  | some position, some length =>
      if position < 1 || length < 1 then []
      else (text.drop (position.toNat - 1)).take length.toNat
  | _, _ => []

def combine (operator left right : Bytes) : Evaluating Bytes := do
  let left ← integer left
  let right ← integer right
  if operator = ascii "+" then return Bytes.ofInt (left + right)
  else if operator = ascii "-" then return Bytes.ofInt (left - right)
  else if operator = ascii "*" then return Bytes.ofInt (left * right)
  else if right == 0 then throw .divisionByZero
  else if operator = ascii "/" then return Bytes.ofInt (left.tdiv right)
  else return Bytes.ofInt (left.tmod right)

mutual

/-- The value of operands with operators between them, which bind as closely as `level`. -/
def value : Nat → Nat → Bool → Evaluating Bytes
  | 0, _, _ => return []
  | fuel + 1, level, evaluates => do
      match level with
      | 6 => primary fuel evaluates
      | level => do
          let first ← value fuel (level + 1) evaluates
          further fuel level evaluates first

def further : Nat → Nat → Bool → Bytes → Evaluating Bytes
  | 0, _, _, left => return left
  | fuel + 1, level, evaluates, left => do
      let operators :=
        match level with
        | 0 => ["|"]
        | 1 => ["&"]
        | 2 => ["<", "<=", "=", "==", "!=", ">=", ">"]
        | 3 => ["+", "-"]
        | 4 => ["*", "/", "%"]
        | _ => [":"]
      match ← operator? operators with
      | none => return left
      | some operator => do
          let needsRight :=
            match level with
            | 0 => isNothing left
            | 1 => !isNothing left
            | _ => true
          let right ← value fuel (level + 1) (evaluates && needsRight)
          let result ←
            if !evaluates then pure left
            else
              match level with
              | 0 =>
                  pure (if !isNothing left then left
                    else if !isNothing right then right else ascii "0")
              | 1 => pure (if isNothing left || isNothing right then ascii "0" else left)
              | 2 => pure (compare operator left right)
              | 5 => matched left right
              | _ => combine operator left right
          further fuel level evaluates result

def primary : Nat → Bool → Evaluating Bytes
  | 0, _ => return []
  | fuel + 1, evaluates => do
      let before := (← get).last
      match ← next? with
      | none => throw (.missingArgument before)
      | some word =>
          if word = ascii "(" then do
            let inside ← value fuel 0 evaluates
            let last := (← get).last
            match ← next? with
            | none => throw (.closingMissing last)
            | some closing =>
                if closing = ascii ")" then return inside else throw (.closingExpectedNot closing)
          else if word = ascii ")" then throw .unexpectedClosing
          else if word = ascii "+" then do
            match ← next? with
            | none => throw (.missingArgument word)
            | some quoted => return quoted
          else if word = ascii "length" then do
            return Bytes.ofNat (← value fuel 6 evaluates).length
          else if word = ascii "match" then do
            let text ← value fuel 6 evaluates
            let pattern ← value fuel 6 evaluates
            if evaluates then matched text pattern else return text
          else if word = ascii "index" then do
            let text ← value fuel 6 evaluates
            let letters ← value fuel 6 evaluates
            return Bytes.ofNat ((text.findIdx? letters.contains).elim 0 (· + 1))
          else if word = ascii "substr" then do
            let text ← value fuel 6 evaluates
            let position ← value fuel 6 evaluates
            return part text position (← value fuel 6 evaluates)
          else return word

end

def whole (words : List Bytes) : Evaluating Bytes := do
  let result ← value (16 * words.length + 16) 0 true
  match (← get).words with
  | [] => return result
  | word :: _ => throw (.unexpectedArgument word)

end Evaluating

def expressionTrouble : Nat := 2

def expression (call : Call) : Work Nat := do
  let call := { call with trouble := expressionTrouble }
  let words :=
    match call.arguments with
    | first :: rest => if first = ascii "--" then rest else first :: rest
    | [] => []
  if words.isEmpty then call.missOperand
  else
    match ((Evaluating.whole words).run.run { words }).1 with
    | .error error => call.abandon error.text
    | .ok value => do
        Call.put (value ++ [Byte.newline])
        return if Evaluating.isNothing value then 1 else 0

end TradeLocal.Programs

import TradeLocal.Host.Property
import TradeLocal.Numeral.Integer
import TradeLocal.Programs.Message

/-!
# Testing conditions

`test` and its other name, a bracket.  Up to four words are read by their number; more are
read as an expression of connectives.
-/

namespace TradeLocal.Programs

open TradeLocal.Host TradeLocal.Numeral

inductive ConditionError where
  /-- More words are wanted after the last. -/
  | argumentMissing
  | unaryExpected (word : Bytes)
  | binaryExpected (word : Bytes)
  | invalidInteger (word : Bytes)
  | lengthRefused (operator : Bytes)
  | closingExpected
  | closingExpectedNot (word : Bytes)
  | extraArgument (word : Bytes)
  | bracketMissing
  deriving DecidableEq, Repr

def ConditionError.text (last : Bytes) : ConditionError → Bytes
  | argumentMissing => ascii "missing argument after " ++ quoted last
  | unaryExpected word => quoted word ++ ascii ": unary operator expected"
  | binaryExpected word => quoted word ++ ascii ": binary operator expected"
  | invalidInteger word => ascii "invalid integer " ++ quoted word
  | lengthRefused operator => operator ++ ascii " does not accept -l"
  | closingExpected => ascii "')' expected"
  | closingExpectedNot word => ascii "')' expected, found " ++ quoted word
  | extraArgument word => ascii "extra argument " ++ quoted word
  | bracketMissing => ascii "missing ']'"

/-- What is known of the truth of the words read so far, and the words behind. -/
abbrev Tested := Except ConditionError (Bool × List Bytes)

def numberComparisons : List (Bytes × (Int → Int → Bool)) :=
  [(ascii "-eq", (· == ·)), (ascii "-ne", (· != ·)), (ascii "-lt", (· < ·)),
    (ascii "-le", (· ≤ ·)), (ascii "-gt", (· > ·)), (ascii "-ge", (· ≥ ·))]

def textComparisons : List (Bytes × (Bytes → Bytes → Bool)) :=
  [(ascii "=", (· == ·)), (ascii "==", (· == ·)), (ascii "!=", (· != ·))]

def fileComparisons : List Bytes :=
  [ascii "-nt", ascii "-ot", ascii "-ef"]

def isBinary (word : Bytes) : Bool :=
  (numberComparisons.lookup word).isSome || (textComparisons.lookup word).isSome ||
    fileComparisons.contains word

def isUnary (word : Bytes) : Bool :=
  word.length == 2 && word.head? == some Byte.hyphen

structure Scene where
  files : Files
  here : Location

namespace Scene

def integer (word : Bytes) : Except ConditionError Int :=
  match readInteger? (some 10) word with
  | some (value, rest) =>
      if rest.all Byte.isSpace then .ok value else .error (.invalidInteger word)
  | none => .error (.invalidInteger word)

def unary (scene : Scene) : List Bytes → Tested
  | [] | [_] => .error .argumentMissing
  | operator :: operand :: rest => do
      let letter := operator.getLastD 0
      if letter == Byte.ofChar 'n' then return (!operand.isEmpty, rest)
      else if letter == Byte.ofChar 'z' then return (operand.isEmpty, rest)
      else if letter == Byte.ofChar 't' then
        let _ ← integer operand
        return (false, rest)
      else if (ascii "efdscbpLhugkrwxNOGS").contains letter then
        return (hasProperty scene.files scene.here letter operand, rest)
      else throw (.unaryExpected operator)

/-- An operand of a comparison; `-l` in front of it stands for its length. -/
def operand (words : List Bytes) : Bytes × Bool × List Bytes :=
  match words with
  | first :: word :: rest =>
      if first = ascii "-l" then (word, true, rest) else (first, false, word :: rest)
  | [word] => (word, false, [])
  | [] => ([], false, [])

def number (word : Bytes) (isLength : Bool) : Except ConditionError Int :=
  if isLength then .ok (Int.ofNat word.length) else integer word

/-- The truth of a comparison.  With `isLength` a length is compared. -/
def binary (scene : Scene) (isLength : Bool) (words : List Bytes) : Tested := do
  let (left, words) :=
    match if isLength then words.tail else words with
    | left :: words => (left, words)
    | [] => ([], [])
  let operator := words.headD []
  let (right, isRightLength, rest) :=
    if 2 < words.length then operand words.tail else ((words.tail).headD [], false, words.drop 2)
  match numberComparisons.lookup operator with
  | some holds => do
      let left ← number left isLength
      return (holds left (← number right isRightLength), rest)
  | none =>
      if fileComparisons.contains operator && (isLength || isRightLength) then
        throw (.lengthRefused operator)
      else
        match textComparisons.lookup operator with
        | some holds => return (holds left right, rest)
        | none =>
            let hasLeft := (find scene.files scene.here left).isOk
            let hasRight := (find scene.files scene.here right).isOk
            if operator = ascii "-nt" then return (hasLeft && !hasRight, rest)
            else if operator = ascii "-ot" then return (hasRight && !hasLeft, rest)
            else return (isSameFile scene.files scene.here left right, rest)

def one : List Bytes → Tested
  | [] => .error .argumentMissing
  | word :: rest => .ok (!word.isEmpty, rest)

def negate (tested : Tested) : Tested :=
  tested.map fun (truth, rest) => (!truth, rest)

def two (scene : Scene) (words : List Bytes) : Tested :=
  match words with
  | [] => .error .argumentMissing
  | first :: rest =>
      if first = ascii "!" then negate (one rest)
      else if isUnary first then scene.unary words
      else .error .argumentMissing

/-- How many words between parentheses are told from more. -/
def parenthesisLimit : Nat := 4

/-- How many words stand before the closing parenthesis; all if there are many. -/
def enclosed (words : List Bytes) : Nat :=
  let inside := 1 + (words.tail.takeWhile (· != ascii ")")).length
  if parenthesisLimit ≤ inside then words.length else inside

mutual

def disjunction (scene : Scene) : Nat → List Bytes → Tested
  | 0, words => .ok (false, words)
  | fuel + 1, words => do
      let (left, rest) ← conjunction scene fuel words
      match rest with
      | word :: behind =>
          if word = ascii "-o" then do
            let (right, rest) ← disjunction scene fuel behind
            return (left || right, rest)
          else return (left, rest)
      | [] => return (left, [])

def conjunction (scene : Scene) : Nat → List Bytes → Tested
  | 0, words => .ok (false, words)
  | fuel + 1, words => do
      let (left, rest) ← term scene fuel words
      match rest with
      | word :: behind =>
          if word = ascii "-a" then do
            let (right, rest) ← conjunction scene fuel behind
            return (left && right, rest)
          else return (left, rest)
      | [] => return (left, [])

def term (scene : Scene) : Nat → List Bytes → Tested
  | 0, words => .ok (false, words)
  | _, [] => .error .argumentMissing
  | fuel + 1, word :: rest =>
      if word = ascii "!" then negate (term scene fuel rest)
      else if word = ascii "(" then
        if rest.isEmpty then .error .argumentMissing
        else do
          let (truth, rest) ← counted scene fuel (enclosed rest) rest
          match rest with
          | [] => throw .closingExpected
          | closing :: rest =>
              if closing = ascii ")" then return (truth, rest)
              else throw (.closingExpectedNot closing)
      else if 3 ≤ rest.length && word = ascii "-l" && isBinary (rest.tail.headD []) then
        scene.binary true (word :: rest)
      else if 2 ≤ rest.length && isBinary (rest.headD []) then scene.binary false (word :: rest)
      else if isUnary word then scene.unary (word :: rest)
      else .ok (!word.isEmpty, rest)

def three (scene : Scene) : Nat → List Bytes → Tested
  | 0, words => .ok (false, words)
  | fuel + 1, words =>
      match words with
      | first :: second :: rest =>
          if isBinary second then scene.binary false words
          else if first = ascii "!" then negate (scene.two (second :: rest))
          else if first = ascii "(" && rest.headD [] = ascii ")" then do
            let (truth, rest) ← one (second :: rest)
            return (truth, rest.tail)
          else if second = ascii "-a" || second = ascii "-o" then disjunction scene fuel words
          else .error (.binaryExpected second)
      | _ => .error .argumentMissing

def counted (scene : Scene) : Nat → Nat → List Bytes → Tested
  | 0, _, words => .ok (false, words)
  | fuel + 1, count, words =>
      match count with
      | 1 => one words
      | 2 => scene.two words
      | 3 => three scene fuel words
      | 4 =>
          if words.headD [] = ascii "!" then negate (three scene fuel words.tail)
          else if words.headD [] = ascii "(" && (words.drop 3).headD [] = ascii ")" then do
            let (truth, rest) ← scene.two words.tail
            return (truth, rest.tail)
          else disjunction scene fuel words
      | _ => disjunction scene fuel words

end

def truth (scene : Scene) (words : List Bytes) : Except ConditionError Bool := do
  if words.isEmpty then return false
  else
    let (truth, rest) ← counted scene (8 * words.length + 8) words.length words
    match rest with
    | [] => return truth
    | word :: _ => throw (.extraArgument word)

end Scene

def conditionTrouble : Nat := 2

/-- Test a condition; `isBracket` says that a closing bracket must be its last word. -/
def test (call : Call) (isBracket : Bool) : Work Nat := do
  let words := call.arguments
  let isClosed := words.getLast? == some (ascii "]")
  let last := if isBracket then words.dropLast.getLastD call.name else words.getLastD call.name
  let scene : Scene := ⟨← Work.files, ← Work.here⟩
  let result :=
    if isBracket && !isClosed then .error .bracketMissing
    else scene.truth (if isBracket then words.dropLast else words)
  match result with
  | .ok truth => return if truth then 0 else 1
  | .error error => do
      call.complain (error.text last)
      return conditionTrouble

end TradeLocal.Programs

import TradeLocal.Host.Property
import TradeLocal.Numeral.Integer

/-!
# Conditions

The expressions of `test`: properties of texts, numbers and files.  Whether a word is an
operator depends on the words behind it.
-/

namespace TradeLocal.Shell

open TradeLocal.Host TradeLocal.Numeral

inductive Comparison where
  | equal
  | different
  | before
  | behind
  | numeric (holds : Int → Int → Bool)
  /-- One file has been changed after the other. -/
  | newer
  /-- Both are the same file. -/
  | same

def Comparison.table : List (Bytes × Comparison) :=
  [(ascii "=", equal), (ascii "!=", different), (ascii "<", before), (ascii ">", behind),
    (ascii "-eq", numeric (· == ·)), (ascii "-ne", numeric (· != ·)),
    (ascii "-ge", numeric (· ≥ ·)), (ascii "-gt", numeric (· > ·)),
    (ascii "-le", numeric (· ≤ ·)), (ascii "-lt", numeric (· < ·)), (ascii "-nt", newer),
    (ascii "-ot", newer), (ascii "-ef", same)]

inductive Operator where
  | property (letter : UInt8)
  | comparison (comparison : Comparison)
  | negation
  | conjunction
  | disjunction
  | opening
  | closing

namespace Operator

def properties : Bytes := ascii "rwxefdcbpugkstznhOGLS"

/-- The operator that a word is, looking at nothing else. -/
def ofWord? (word : Bytes) : Option Operator :=
  match Comparison.table.lookup word with
  | some found => some (.comparison found)
  | none =>
      if word = ascii "!" then some negation
      else if word = ascii "-a" then some conjunction
      else if word = ascii "-o" then some disjunction
      else if word = ascii "(" then some opening
      else if word = ascii ")" then some closing
      else
        match word with
        | [Byte.hyphen, letter] =>
            if properties.contains letter then some (property letter) else none
        | _ => none

def isComparison : Operator → Bool
  | .comparison _ => true
  | _ => false

/-- Whether the word in front of others is an operand although it could be an operator with
one operand. -/
def isOperand : List Bytes → Bool
  | [] => true
  | [_] => false
  | next :: _ => (ofWord? next).any isComparison

/-- The operator at the start of words; no operator is an operand or the end. -/
def at? : List Bytes → Option Operator
  | [] => none
  | word :: rest =>
      match ofWord? word with
      | some (property letter) => if isOperand rest then none else some (property letter)
      | some opening => if rest.isEmpty then none else some opening
      | found => found

end Operator

inductive ConditionError where
  | unexpectedOperator (word : Bytes)
  | argumentExpected (operator : Bytes)
  | closingExpected
  | illegalNumber (word : Bytes)
  | missingBracket
  deriving DecidableEq, Repr

def ConditionError.text : ConditionError → Bytes
  | unexpectedOperator word =>
      if word.isEmpty then ascii "unexpected operator" else word ++ ascii ": unexpected operator"
  | argumentExpected operator => operator ++ ascii ": argument expected"
  | closingExpected => ascii "closing paren expected"
  | illegalNumber word => ascii "Illegal number: " ++ word
  | missingBracket => ascii "missing ]"

structure Scene where
  files : Files
  here : Location

namespace Scene

def integer (word : Bytes) : Except ConditionError Int :=
  match integer? (some 10) word with
  | some value => .ok value
  | none => .error (.illegalNumber word)

def property (scene : Scene) (letter : UInt8) (operand : Bytes) : Except ConditionError Bool :=
  if letter == Byte.ofChar 'n' then .ok (!operand.isEmpty)
  else if letter == Byte.ofChar 'z' then .ok operand.isEmpty
  else if letter == Byte.ofChar 't' then (integer operand).map fun _ => false
  else .ok (hasProperty scene.files scene.here letter operand)

def comparison (scene : Scene) (left : Bytes) (comparison : Comparison) (right : Bytes) :
    Except ConditionError Bool :=
  match comparison with
  | .equal => .ok (left == right)
  | .different => .ok (left != right)
  | .before => .ok (left < right)
  | .behind => .ok (right < left)
  | .numeric holds => do
      let left ← integer left
      return holds left (← integer right)
  | .newer => .ok false
  | .same => .ok (isSameFile scene.files scene.here left right)

mutual

def disjunction (scene : Scene) : Nat → List Bytes → Except ConditionError (Bool × List Bytes)
  | 0, words => .ok (false, words)
  | fuel + 1, words => do
      let (left, last) ← conjunction scene fuel words
      match Operator.at? last.tail with
      | some .disjunction => do
          let (right, last) ← disjunction scene fuel last.tail.tail
          return (left || right, last)
      | _ => return (left, last)

def conjunction (scene : Scene) : Nat → List Bytes → Except ConditionError (Bool × List Bytes)
  | 0, words => .ok (false, words)
  | fuel + 1, words => do
      let (left, last) ← negation scene fuel words
      match Operator.at? last.tail with
      | some .conjunction => do
          let (right, last) ← conjunction scene fuel last.tail.tail
          return (left && right, last)
      | _ => return (left, last)

def negation (scene : Scene) : Nat → List Bytes → Except ConditionError (Bool × List Bytes)
  | 0, words => .ok (false, words)
  | fuel + 1, words => do
      match Operator.at? words with
      | some .negation =>
          if words.tail.isEmpty then return (true, words)
          else do
            let (truth, last) ← negation scene fuel words.tail
            return (!truth, last)
      | _ => primary scene fuel words

def primary (scene : Scene) : Nat → List Bytes → Except ConditionError (Bool × List Bytes)
  | 0, words => .ok (false, words)
  | _, [] => .ok (false, [])
  | fuel + 1, word :: rest =>
      match Operator.at? (word :: rest) with
      | some .opening =>
          match Operator.at? rest with
          | some .closing => .ok (false, rest)
          | _ => do
              let (truth, last) ← disjunction scene fuel rest
              match Operator.at? last.tail with
              | some .closing => return (truth, last.tail)
              | _ => throw .closingExpected
      | some (.property letter) =>
          match rest with
          | [] => .error (.argumentExpected word)
          | operand :: _ => (scene.property letter operand).map (·, rest)
      | _ => compared scene word rest

def compared (scene : Scene) (word : Bytes) (rest : List Bytes) :
    Except ConditionError (Bool × List Bytes) :=
  match rest with
  | operator :: behind =>
      match Operator.at? rest with
      | some (.comparison found) =>
          match behind with
          | [] => .error (.argumentExpected operator)
          | operand :: _ => (scene.comparison word found operand).map (·, behind)
      | _ => .ok (!word.isEmpty, word :: rest)
  | [] => .ok (!word.isEmpty, [word])

end

/-- The truth of an expression that is read in full.  `isOperand` says that the first word is
an operand in any case. -/
def expression (scene : Scene) (isOperand : Bool) (words : List Bytes) :
    Except ConditionError Bool := do
  let fuel := 4 * words.length + 4
  let (truth, last) ←
    match isOperand, words with
    | true, word :: rest => do
        let (left, last) ← compared scene word rest
        pure (left, last)
    | _, _ => disjunction scene fuel words
  match last with
  | word :: _ :: _ => throw (.unexpectedOperator word)
  | _ => return truth

/-- The truth of a condition.  How three or four words are read depends on the first and the
last of them. -/
def truth (scene : Scene) : Nat → Bool → List Bytes → Except ConditionError Bool
  | 0, _, _ => .ok false
  | fuel + 1, isNegated, words =>
      let decide (isOperand : Bool) (words : List Bytes) : Except ConditionError Bool :=
        (scene.expression isOperand words).map (· != isNegated)
      let surrounded : Except ConditionError Bool :=
        match words with
        | first :: rest =>
            if first = ascii "(" && words.getLast? = some (ascii ")") then
              decide false rest.dropLast
            else if first = ascii "!" then truth scene fuel true rest
            else decide false words
        | [] => decide false words
      match words with
      | [] => .ok isNegated
      | [_, operator, _] =>
          if (Operator.ofWord? operator).any Operator.isComparison then decide true words
          else surrounded
      | [_, _, _, _] => surrounded
      | _ => decide false words

end Scene

def condition (files : Files) (here : Location) (name : Bytes) (words : List Bytes) :
    Except ConditionError Bool :=
  let scene : Scene := ⟨files, here⟩
  if name.head? == some 91 then
    if (words.getLastD name).head? == some 93 then scene.truth 8 false words.dropLast
    else .error .missingBracket
  else scene.truth 8 false words

end TradeLocal.Shell

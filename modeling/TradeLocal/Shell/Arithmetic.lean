import TradeLocal.Numeral.Integer

/-!
# Arithmetic

The integer expressions of scripts, on words of 64 bits.  An expression is evaluated while it
is read, so whatever is wrong with it first decides the error.  The values of variables are
numbers themselves, and expressions may assign to them.
-/

namespace TradeLocal.Shell

open TradeLocal.Numeral

inductive ArithmeticError where
  | expectingPrimary
  | expectingParenthesis
  | expectingColon
  | expectingEnd
  | divisionByZero
  | illegalNumber (text : Bytes)
  /-- The quotient is too large for a word, which stops the process. -/
  | overflow
  deriving DecidableEq, Repr

namespace Arithmetic

inductive Symbol where
  | number (value : Int64)
  | name (name : Bytes)
  | operator (text : Bytes)
  | unknown
  deriving DecidableEq, Repr

/-- The operators, the longer ones first. -/
def operators : List Bytes :=
  ["<<=", ">>=", "&&", "||", "==", "!=", "<=", ">=", "<<", ">>", "+=", "-=", "*=", "/=", "%=",
    "&=", "^=", "|=", "(", ")", "!", "~", "+", "-", "*", "/", "%", "<", ">", "=", "&", "^", "|",
    "?", ":"].map ascii

def symbols : Nat → Bytes → List Symbol
  | 0, _ => []
  | fuel + 1, text =>
      match text.dropWhile fun byte => Byte.isBlank byte || byte == Byte.newline with
      | [] => []
      | first :: rest =>
          let text := first :: rest
          if Byte.isDigit first then
            match readNatural? none text with
            | none => [.unknown]
            | some (value, rest) =>
                .number (Int64.ofInt (clampInteger (Int.ofNat value))) :: symbols fuel rest
          else if Byte.isNameStart first then
            .name (text.takeWhile Byte.isName) :: symbols fuel (text.dropWhile Byte.isName)
          else
            match operators.find? (·.isPrefixOf text) with
            | some operator => .operator operator :: symbols fuel (text.drop operator.length)
            | none => [.unknown]

/-- What evaluation changes: the variables that were assigned, the latest first. -/
abbrev Assigned := List (Bytes × Int64)

abbrev Evaluation := ExceptT ArithmeticError (StateM Assigned)

/-- The precedences of the operators with two operands; the lowest number binds most. -/
def precedence? (operator : Bytes) : Option Nat :=
  let levels : List (List String) :=
    [["*", "/", "%"], ["+", "-"], ["<<", ">>"], ["<", "<=", ">", ">="], ["==", "!="], ["&"],
      ["^"], ["|"]]
  levels.findIdx? fun level => (level.map ascii).contains operator

def precedenceLimit : Nat := 8

def ofTruth (truth : Bool) : Int64 :=
  if truth then 1 else 0

def apply (operator : Bytes) (left right : Int64) : Evaluation Int64 :=
  if operator = ascii "*" then return left * right
  else if operator = ascii "/" || operator = ascii "%" then
    if right == 0 then throw .divisionByZero
    else if right == -1 && left == Int64.minValue then throw .overflow
    else return if operator = ascii "/" then left / right else left % right
  else if operator = ascii "+" then return left + right
  else if operator = ascii "-" then return left - right
  else if operator = ascii "<<" then return left <<< right
  else if operator = ascii ">>" then return left >>> right
  else if operator = ascii "<" then return ofTruth (left < right)
  else if operator = ascii "<=" then return ofTruth (left ≤ right)
  else if operator = ascii ">" then return ofTruth (right < left)
  else if operator = ascii ">=" then return ofTruth (right ≤ left)
  else if operator = ascii "==" then return ofTruth (left == right)
  else if operator = ascii "!=" then return ofTruth (left != right)
  else if operator = ascii "&" then return left &&& right
  else if operator = ascii "^" then return left ^^^ right
  else return left ||| right

/-- The operator that an assignment applies first: none for a plain one. -/
def assignment? (symbol : Symbol) : Option (Option Bytes) :=
  match symbol with
  | .operator text =>
      if text = ascii "=" then some none
      else if text.getLast? == some Byte.equals && (precedence? text.dropLast).isSome &&
          !(precedence? text).isSome then some (some text.dropLast)
      else none
  | _ => none

def valueOf (lookup : Bytes → Option Bytes) (name : Bytes) : Evaluation Int64 := do
  match (← get).lookup name with
  | some value => return value
  | none =>
      let text := (lookup name).getD []
      match integer? none text with
      | some value => return Int64.ofInt value
      | none => throw (.illegalNumber text)

mutual

/-- An operand: a number, a variable, or something in parentheses, with signs in front.  What
is only skipped is not evaluated. -/
def primary (lookup : Bytes → Option Bytes) :
    Nat → Bool → List Symbol → Evaluation (Int64 × List Symbol)
  | 0, _, _ => throw .expectingPrimary
  | fuel + 1, isSkipped, symbols => do
      match symbols with
      | .number value :: rest => return (value, rest)
      | .name name :: rest =>
          if isSkipped then return (0, rest) else return (← valueOf lookup name, rest)
      | .operator text :: rest =>
          if text = ascii "(" then
            let (value, rest) ← assignment lookup fuel isSkipped rest
            match rest with
            | .operator [Byte.closeParenthesis] :: rest => return (value, rest)
            | _ => throw .expectingParenthesis
          else if text = ascii "+" then primary lookup fuel isSkipped rest
          else if text = ascii "-" then
            let (value, rest) ← primary lookup fuel isSkipped rest
            return (-value, rest)
          else if text = ascii "!" then
            let (value, rest) ← primary lookup fuel isSkipped rest
            return (ofTruth (value == 0), rest)
          else if text = ascii "~" then
            let (value, rest) ← primary lookup fuel isSkipped rest
            return (~~~value, rest)
          else throw .expectingPrimary
      | _ => throw .expectingPrimary

/-- Go on behind a left operand with operators that bind more than `limit`. -/
def operations (lookup : Bytes → Option Bytes) :
    Nat → Bool → Nat → Int64 → List Symbol → Evaluation (Int64 × List Symbol)
  | 0, _, _, _, _ => throw .expectingPrimary
  | fuel + 1, isSkipped, limit, left, symbols => do
      match symbols with
      | .operator operator :: rest =>
          match precedence? operator with
          | none => return (left, symbols)
          | some level =>
              if limit ≤ level then return (left, symbols)
              else
                let (right, rest) ← primary lookup fuel isSkipped rest
                let (right, rest) ← operations lookup fuel isSkipped level right rest
                let value ← if isSkipped then pure right else apply operator left right
                operations lookup fuel isSkipped limit value rest
      | _ => return (left, symbols)

def conjunction (lookup : Bytes → Option Bytes) :
    Nat → Bool → List Symbol → Evaluation (Int64 × List Symbol)
  | 0, _, _ => throw .expectingPrimary
  | fuel + 1, isSkipped, symbols => do
      let (left, rest) ← primary lookup fuel isSkipped symbols
      let (left, rest) ← operations lookup fuel isSkipped precedenceLimit left rest
      match rest with
      | .operator [Byte.ampersand, Byte.ampersand] :: rest => do
          let (right, rest) ← conjunction lookup fuel (isSkipped || left == 0) rest
          return (ofTruth (left != 0 && right != 0), rest)
      | _ => return (left, rest)

def disjunction (lookup : Bytes → Option Bytes) :
    Nat → Bool → List Symbol → Evaluation (Int64 × List Symbol)
  | 0, _, _ => throw .expectingPrimary
  | fuel + 1, isSkipped, symbols => do
      let (left, rest) ← conjunction lookup fuel isSkipped symbols
      match rest with
      | .operator [Byte.bar, Byte.bar] :: rest => do
          let (right, rest) ← disjunction lookup fuel (isSkipped || left != 0) rest
          return (ofTruth (left != 0 || right != 0), rest)
      | _ => return (left, rest)

def conditional (lookup : Bytes → Option Bytes) :
    Nat → Bool → List Symbol → Evaluation (Int64 × List Symbol)
  | 0, _, _ => throw .expectingPrimary
  | fuel + 1, isSkipped, symbols => do
      let (condition, rest) ← disjunction lookup fuel isSkipped symbols
      match rest with
      | .operator [Byte.question] :: rest => do
          let (first, rest) ← assignment lookup fuel (isSkipped || condition == 0) rest
          match rest with
          | .operator [Byte.colon] :: rest => do
              let (second, rest) ← conditional lookup fuel (isSkipped || condition != 0) rest
              return (if condition != 0 then first else second, rest)
          | _ => throw .expectingColon
      | _ => return (condition, rest)

def assignment (lookup : Bytes → Option Bytes) :
    Nat → Bool → List Symbol → Evaluation (Int64 × List Symbol)
  | 0, _, _ => throw .expectingPrimary
  | fuel + 1, isSkipped, symbols => do
      match symbols with
      | .name name :: sign :: rest =>
          match assignment? sign with
          | none => conditional lookup fuel isSkipped symbols
          | some operator? => do
              let (value, rest) ← assignment lookup fuel isSkipped rest
              if isSkipped then return (value, rest)
              else
                let value ←
                  match operator? with
                  | none => pure value
                  | some operator => apply operator (← valueOf lookup name) value
                modify fun assigned => (name, value) :: assigned
                return (value, rest)
      | _ => conditional lookup fuel isSkipped symbols

end

def evaluate (lookup : Bytes → Option Bytes) (text : Bytes) :
    Except ArithmeticError Int64 × Assigned :=
  let symbols := symbols (text.length + 1) text
  let evaluation : Evaluation Int64 := do
    let (value, rest) ← assignment lookup (8 * symbols.length + 8) false symbols
    if rest.isEmpty then return value else throw .expectingEnd
  evaluation.run.run []

end Arithmetic

end TradeLocal.Shell

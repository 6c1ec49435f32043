import TradeLocal.Numeral.Integer
import TradeLocal.Shell.State

/-!
# Variables of a shell

Looking variables up, giving them values, marking them, and putting them back at the end of a
local scope.
-/

namespace TradeLocal.Shell

open TradeLocal.Host TradeLocal.Numeral

def putVariable (new : Variable) : List Variable → List Variable
  | [] => [new]
  | present :: rest =>
      if present.name = new.name then new :: rest else present :: putVariable new rest

namespace Context

def binding? (context : Context) (name : Bytes) : Option Variable :=
  context.bindings.find? (·.name == name)

def value? (context : Context) (name : Bytes) : Option Bytes :=
  (context.binding? name).bind Variable.value

def put (context : Context) (new : Variable) : Context :=
  { context with bindings := putVariable new context.bindings }

def remove (context : Context) (name : Bytes) : Context :=
  { context with bindings := context.bindings.filter (·.name != name) }

/-- The list of chains over which the variables are spread when they are passed on. -/
def chainCount : Nat := 39

/-- The sum of the bytes of a name and sixteen times the first. -/
def byteSum (name : Bytes) : Nat :=
  name.foldl (fun total byte => total + byte.toNat) ((name.headD 0).toNat * 16)

def chain (name : Bytes) : Nat :=
  byteSum name % chainCount

/-- The environment for the programs that are run: the variables that are passed on, chain by
chain. -/
def environment (context : Context) : Environment :=
  let passed := context.bindings.filterMap fun present =>
    match present.value with
    | some value =>
        if present.isExported then some (chain present.name, Environment.entry present.name value)
        else none
    | none => none
  ⟨(List.range chainCount).flatMap fun number =>
    passed.filterMap fun (chain, entry) => if chain = number then some entry else none⟩

end Context

/-- A text between single quotes, such that a shell reads it back.  Runs of single quotes
stand between double quotes. -/
def singleQuoted (text : Bytes) : Bytes :=
  let pieces := text.splitBy fun left right =>
    (left == Byte.singleQuote) == (right == Byte.singleQuote)
  let quotedPiece (piece : Bytes) : Bytes :=
    if piece.head? == some Byte.singleQuote then
      Byte.doubleQuote :: piece ++ [Byte.doubleQuote]
    else Byte.singleQuote :: piece ++ [Byte.singleQuote]
  if text.head? == some Byte.singleQuote || text.isEmpty then
    Byte.singleQuote :: Byte.singleQuote :: pieces.flatMap quotedPiece
  else pieces.flatMap quotedPiece

namespace Script

def value? (name : Bytes) : Script (Option Bytes) :=
  return (← context).value? name

structure Marks where
  isExported : Bool := false
  isReadOnly : Bool := false
  isFixed : Bool := false

def optionIndexName : Bytes := ascii "OPTIND"

def noticeChange (name : Bytes) (value : Option Bytes) : Script Unit := do
  if name = ascii "PATH" then changeContext fun context => { context with hashed := [] }
  else if name = optionIndexName then
    let text := value.getD (ascii "1")
    match integer? (some 10) text with
    | some index =>
        if index < 0 || 2147483647 < index then failNumber text
        else
          changeContext fun context =>
            { context with
              optionIndex := if index = 0 then 1 else index.toNat, optionOffset := none }
    | none => failNumber text

def assignMarked (name : Bytes) (value : Option Bytes) (marks : Marks) : Script Unit := do
  let context ← context
  let isExported := marks.isExported || context.flags.contains .allexport
  let vanishes := value.isNone && !isExported && !marks.isReadOnly && !marks.isFixed
  match context.binding? name with
  | some present =>
      if present.isReadOnly then fail (name ++ ascii ": is read only")
      noticeChange name value
      changeContext fun context =>
        if vanishes && !present.isFixed then context.remove name
        else
          context.put
            { present with
              value
              isExported := present.isExported || isExported
              isReadOnly := marks.isReadOnly
              isFixed := present.isFixed || marks.isFixed }
  | none =>
      if !vanishes then
        changeContext fun context =>
          context.put
            { name, value, isExported, isReadOnly := marks.isReadOnly, isFixed := marks.isFixed }

def checkName (name : Bytes) : Script Unit := do
  if !Bytes.isVariableName name then fail (name ++ ascii ": bad variable name")

def assign (name value : Bytes) : Script Unit := do
  checkName name
  assignMarked name (some value) {}

def splitAssignment (word : Bytes) : Bytes × Option Bytes :=
  match word.dropWhile (· != Byte.equals) with
  | [] => (word, none)
  | _ :: value => (word.takeWhile (· != Byte.equals), some value)

def unassign (word : Bytes) : Script Unit := do
  let (name, _) := splitAssignment word
  checkName name
  assignMarked name none {}

def remember (saved : Saved) : Script Unit :=
  changeContext fun context =>
    match context.scopes with
    | [] => context
    | scope :: scopes => { context with scopes := (saved :: scope) :: scopes }

/-- Make a variable local to the innermost scope; a word may also give it a value.  A hyphen
stands for the options. -/
def makeLocal (word : Bytes) (isExported : Bool) : Script Unit := do
  if word = [Byte.hyphen] then remember (.flags (← context).flags)
  else
    let (name, value) := splitAssignment word
    match (← context).binding? name with
    | none => do
        if value.isNone then checkName name
        assignMarked name value { isExported, isFixed := true }
        remember (.variable name none)
    | some present => do
        changeContext fun context => context.put { present with isFixed := true }
        if value.isSome then assignMarked name value { isExported }
        remember (.variable name (some present))

def restore : List Saved → Script Unit
  | [] => pure ()
  | .flags before :: rest => do
      changeContext fun context => { context with flags := before }
      restore rest
  | .variable name none :: rest => do
      checkName name
      changeContext fun context => context.remove name
      restore rest
  | .variable name (some before) :: rest => do
      let _ ← attempt (noticeChange name before.value)
      changeContext fun context => context.put before
      restore rest

def inScope {α : Type} (script : Script α) : Script α := do
  changeContext fun context => { context with scopes := [] :: context.scopes }
  ensuring script do
    match (← context).scopes with
    | [] => pure ()
    | scope :: scopes => do
        changeContext fun context => { context with scopes }
        restore scope

def sorted (bindings : List Variable) : List Variable :=
  bindings.mergeSort fun left right => !(right.name < left.name)

/-- List variables, each on a line that would define it again. -/
def list (start : Bytes) (wanted : Variable → Bool) : Script Unit := do
  for present in sorted ((← context).bindings.filter wanted) do
    let separator := if start.isEmpty then [] else [Byte.space]
    let value :=
      match present.value with
      | none => []
      | some value => Byte.equals :: singleQuoted value
    out (start ++ separator ++ present.name ++ value ++ [Byte.newline])

end Script

end TradeLocal.Shell

import TradeLocal.Shell.Syntax

/-!
# Sources of scripts

Where the text of a script comes from, byte by byte.  In front of the text there may be other
texts: those that aliases stand for, and what was read and is to be read again.
-/

namespace TradeLocal.Shell

inductive Symbol where
  | byte (byte : UInt8)
  /-- The end of an alias, which separates like a blank. -/
  | gap
  | ending
  deriving DecidableEq, Repr

structure Layer where
  rest : Bytes
  /-- The alias that stands for the text. -/
  alias? : Option Bytes
  /-- The last byte that was read. -/
  last : UInt8 := 0
  /-- Whether its end has been noticed. -/
  isOver : Bool := false
  deriving Repr

structure Source where
  layers : List Layer := []
  text : Bytes
  /-- Whether the next byte of the text begins a line. -/
  atLineStart : Bool := true
  /-- How many lines of the text have been begun. -/
  begun : Nat := 0
  /-- The number of the present line. -/
  line : Nat := 1
  deriving Repr

structure Attention where
  /-- Words with a meaning of their own. -/
  keywords : Bool := false
  /-- Newlines are passed over. -/
  newlines : Bool := false
  aliases : Bool := false
  /-- The end mark of a document, in which nothing is expanded. -/
  mark : Bool := false
  deriving Repr

structure Announcement where
  number : Nat
  mark : Bytes
  isExpanded : Bool
  dropsTabs : Bool
  deriving Repr

structure Reader where
  source : Source
  /-- The values of the aliases by their names. -/
  aliases : List (Bytes × Bytes) := []
  /-- The here-documents that have been read, at the places of their numbers. -/
  documents : Array Word := #[]
  announced : List Announcement := []
  attention : Attention := {}
  /-- Whether the last token is to be read again. -/
  isPushedBack : Bool := false
  token : Token := .endOfFile
  word : Word := []
  /-- Whether some part of the word is quoted. -/
  isQuoted : Bool := false
  redirection : Redirection := .duplicate 0 []
  /-- Whether tabs that begin a line of the document of the redirection are dropped. -/
  dropsTabs : Bool := false
  /-- Whether lines are shown as they are read. -/
  showsLines : Bool := false
  /-- How many lines have been looked at so far. -/
  looked : Nat := 0
  /-- The lines shown, the latest first. -/
  shown : List Bytes := []

structure Mistake where
  line : Nat
  error : SyntaxError
  deriving DecidableEq, Repr

abbrev Reading := ExceptT Mistake (StateM Reader)

/-- Go on with a step until it has a result, at most as often as `limit` says. -/
@[specialize]
def iterate {m : Type → Type} [Monad m] {α β : Type} (step : α → m (α ⊕ β)) (otherwise : m β) :
    Nat → α → m β
  | 0, _ => otherwise
  | limit + 1, start => do
      match ← step start with
      | .inl next => iterate step otherwise limit next
      | .inr result => return result

def repetitionLimit : Nat := 1000000000000

namespace Reading

def source : Reading Source :=
  return (← get).source

def setSource (source : Source) : Reading Unit :=
  modify fun reader => { reader with source }

def fail {α : Type} (error : SyntaxError) : Reading α := do
  throw ⟨(← get).source.line, error⟩

@[specialize]
def repeated {α β : Type} (step : α → Reading (α ⊕ β)) (start : α) : Reading β :=
  iterate step (fail .tooDeep) repetitionLimit start

def countLine : Reading Unit :=
  modify fun reader =>
    { reader with source := { reader.source with line := reader.source.line + 1 } }

/-- Show a line when its first byte is read, unless it has been looked at before. -/
def lookAt (begun : Nat) (text : Bytes) : Reading Unit :=
  modify fun reader =>
    if begun < reader.looked then reader
    else
      let line := text.takeWhile (· != Byte.newline)
      let line := if line.length < text.length then line ++ [Byte.newline] else line
      { reader with
        looked := begun + 1
        shown := if reader.showsLines then line :: reader.shown else reader.shown }

/-- Read the next symbol.  An alias that ends in a blank makes the word after it an alias
too, if it can be. -/
def next : Reading Symbol :=
  repeated
    (fun _ => do
      let source ← source
      match source.layers with
      | [] =>
          match source.text with
          | [] => return .inr .ending
          | byte :: text => do
              if source.atLineStart then lookAt source.begun source.text
              setSource
                { source with
                  text, atLineStart := byte == Byte.newline
                  begun := if source.atLineStart then source.begun + 1 else source.begun }
              return .inr (.byte byte)
      | layer :: layers =>
          match layer.rest, layer.alias? with
          | byte :: rest, _ => do
              setSource { source with layers := { layer with rest, last := byte } :: layers }
              return .inr (.byte byte)
          | [], none => do
              setSource { source with layers }
              return .inl ()
          | [], some _ =>
              if Byte.isBlank layer.last then do
                setSource { source with layers }
                modify fun reader =>
                  { reader with attention := { reader.attention with aliases := true } }
                return .inl ()
              else if layer.isOver then do
                setSource { source with layers }
                return .inl ()
              else do
                setSource { source with layers := { layer with isOver := true } :: layers }
                return .inr .gap)
    ()

def nextByte : Reading Symbol :=
  repeated
    (fun _ => do
      match ← next with
      | .gap => return .inl ()
      | symbol => return .inr symbol)
    ()

def nextJoined : Reading Symbol :=
  repeated
    (fun _ => do
      let symbol ← next
      if symbol != .byte Byte.backslash then return .inr symbol
      let before ← source
      if (← nextByte) == .byte Byte.newline then
        countLine
        return .inl ()
      else
        setSource before
        return .inr symbol)
    ()

def nextIs (expected : UInt8) : Reading Bool := do
  let before ← source
  if (← nextJoined) == .byte expected then return true
  else
    setSource before
    return false

def pushText (text : Bytes) (alias? : Option Bytes) : Reading Unit :=
  modify fun reader =>
    { reader with
      source :=
        { reader.source with layers := { rest := text, alias? } :: reader.source.layers } }

def isInUse (name : Bytes) : Reading Bool :=
  return (← source).layers.any fun layer => layer.alias? == some name

end Reading

end TradeLocal.Shell

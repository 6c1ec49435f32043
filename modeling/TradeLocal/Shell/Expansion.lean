import TradeLocal.Host.User
import TradeLocal.Shell.Arithmetic
import TradeLocal.Shell.Field
import TradeLocal.Shell.Variable

/-!
# Expansion

What a word stands for: tildes, parameters, commands and arithmetic are replaced by their
values.  Where a word may become several, each stretch of the result says how it is divided.
-/

namespace TradeLocal.Shell

open TradeLocal.Host TradeLocal.Numeral

structure Mode where
  /-- The word may become several words. -/
  isFull : Bool := false
  /-- The word is an alternative to the value of a parameter. -/
  isAlternative : Bool := false
  isQuoted : Bool := false
  /-- A tilde at the start is expanded. -/
  startTilde : Bool := false
  /-- Tildes behind the first equals sign and behind colons are expanded. -/
  innerTildes : Bool := false

def Mode.arguments : Mode := { isFull := true, startTilde := true }

def Mode.assignment : Mode := { innerTildes := true }

def Mode.single : Mode := { startTilde := true }

/-- A word that is being expanded: the stretches so far and the literal text behind them, the
latest first. -/
structure Expanding where
  spans : List Span := []
  run : List Glyph := []
  /-- Whether a quotation is open in the word itself. -/
  inQuotes : Bool := false
  /-- Whether the first equals sign has been passed. -/
  seenEquals : Bool := false
  /-- Whether a tilde that comes next is expanded. -/
  atTilde : Bool := false
  /-- Whether the user is passed over that an expanded tilde names. -/
  inUser : Bool := false
  /-- How many pieces are passed over. -/
  skipped : Nat := 0

namespace Expanding

/-- Complete the literal text.  In an alternative that is not quoted it is divided. -/
def flush (expanding : Expanding) (mode : Mode) : Expanding :=
  match expanding.run with
  | [] => expanding
  | run =>
      let isDivided := mode.isAlternative && !mode.isQuoted && !expanding.inQuotes
      { expanding with
        run := []
        spans := ⟨if isDivided then .split else .whole, run.reverse⟩ :: expanding.spans }

def add (expanding : Expanding) (mode : Mode) (spans : List Span) : Expanding :=
  let flushed := expanding.flush mode
  { flushed with spans := spans.reverse ++ flushed.spans, atTilde := false }

def addWhole (expanding : Expanding) (mode : Mode) (glyphs : List Glyph) : Expanding :=
  expanding.add mode [⟨.whole, glyphs⟩]

end Expanding

def Mode.endsUser (mode : Mode) (byte : UInt8) : Bool :=
  byte == Byte.slash || (mode.innerTildes && byte == Byte.colon)

/-- The user that a tilde names.  There is none where something is quoted. -/
def tildeUser? (mode : Mode) : Word → Option Bytes
  | [] => some []
  | .plain byte :: rest =>
      if mode.endsUser byte then some [] else (tildeUser? mode rest).map (byte :: ·)
  | _ => none

namespace Script

def home? (user : Bytes) : Script (Option Bytes) := do
  if user.isEmpty then value? (ascii "HOME") else return (User.ofName? user).map User.home

def flagLetters : Script Bytes := do
  let flags := (← context).flags
  return Flag.table.reverse.filterMap fun (flag, _, letter) =>
    if flags.contains flag then letter else none

def separators : Script Bytes :=
  return ((← value? (ascii "IFS"))).getD [Byte.space, 9, Byte.newline]

/-- All arguments as one text, with what lies between them.  A NUL lies between arguments
that are to be divided. -/
def joinArguments (name : UInt8) (isFull isQuoted : Bool) : Script Bytes := do
  let arguments := (← context).arguments
  let join (separator : Bytes) : Bytes := List.intercalate separator arguments
  if name == Byte.atSign && isQuoted && isFull then return join [0]
  else
    let isSplit := isFull && !isQuoted
    match ← value? (ascii "IFS") with
    | none => return join [Byte.space]
    | some separators => return join (if isSplit then [0] else separators.take 1)

def parameter? (name : Bytes) (mode : Mode) : Script (Option Bytes) := do
  let context ← context
  match name with
  | [] => return none
  | first :: _ =>
      if first == Byte.dollar then return some (Bytes.ofNat context.rootProcess)
      else if first == Byte.question then return some (Bytes.ofNat context.status)
      else if first == Byte.hash then return some (Bytes.ofNat context.arguments.length)
      else if first == 33 then return context.background?.map Bytes.ofNat
      else if first == Byte.hyphen then return some (← flagLetters)
      else if first == Byte.atSign || first == 42 then
        return some (← joinArguments first mode.isFull mode.isQuoted)
      else if Byte.isDigit first then
        match (readNatural? (some 10) name).map Prod.fst with
        | some 0 => return some context.name
        | some index => return context.arguments[index - 1]?
        | none => return none
      else return context.value? name

def failUnset {α : Type} (name : Bytes) (word : Option Bytes) (colon : Bool) : Script α :=
  fail (name ++ ascii ": " ++
    match word with
    | some word => word
    | none => ascii "parameter not set" ++ if colon then ascii " or null" else [])

def calculate (text : Bytes) : Script Bytes := do
  let context ← context
  let (result, assigned) := Arithmetic.evaluate context.value? text
  for (name, value) in assigned.reverse do
    assign name (Bytes.ofInt value.toInt)
  let failWith (message : String) : Script Bytes :=
    fail (ascii "arithmetic expression: " ++ ascii message ++ ascii ": " ++
      Byte.doubleQuote :: text ++ [Byte.doubleQuote])
  match result with
  | .ok value => return Bytes.ofInt value.toInt
  | .error .expectingPrimary => failWith "expecting primary"
  | .error .expectingParenthesis => failWith "expecting ')'"
  | .error .expectingColon => failWith "expecting ':'"
  | .error .expectingEnd => failWith "expecting EOF"
  | .error .divisionByZero => failWith "division by zero"
  | .error (.illegalNumber text) => failNumber text
  | .error .overflow => throw (.stop (.ended (.signaled 8)))

end Script

def trimMatched (pattern : Bytes) (atEnd longest : Bool) (value : Bytes) : Bytes :=
  if atEnd then
    match matchedEnd? pattern longest value with
    | some length => value.take (value.length - length)
    | none => value
  else
    match matchedStart? pattern longest value with
    | some length => value.drop length
    | none => value

def valueDivision (name : Bytes) (isQuoted hasArguments : Bool) : Division :=
  if !isQuoted then .split
  else if name.head? == some Byte.atSign && hasArguments then .separate
  else .whole

structure Inner where
  word : Mode → Word → Script (List Span)
  /-- The output of a command. -/
  output : Command → Script Bytes

open Script in
def expandParameter (inner : Inner) (mode : Mode) (name : Bytes) (form : Form) (word : Word) :
    Script (List Span) := do
  if form == .bad || name.isEmpty then fail (ascii "Bad substitution")
  let isMeasured :=
    match form with
    | .length | .alternative _ => true
    | _ => false
  let value ← parameter? name { mode with isFull := mode.isFull && !isMeasured }
  let hasArguments := !(← context).arguments.isEmpty
  let division := valueDivision name mode.isQuoted hasArguments
  let record (value : Bytes) : List Span := [⟨division, Glyph.ofValue mode.isQuoted value⟩]
  let isMissing (colon : Bool) : Bool := value.isNone || (colon && value == some [])
  let alternative : Script (List Span) :=
    inner.word { mode with isAlternative := true, startTilde := true } word
  let valueOrFail : Script Bytes := do
    match value with
    | some value => return value
    | none => if ← isOn .nounset then failUnset name none false else return []
  match form with
  | .bad => return []
  | .value => return record (← valueOrFail)
  | .valueAtEnd => do
      if isMissing true && (← isOn .nounset) then failUnset name none false
      else
        let spans ← inner.word { mode with startTilde := false, innerTildes := false } word
        return record (value.getD []) ++ spans
  | .length => return record (Bytes.ofNat (← valueOrFail).length)
  | .default colon => if isMissing colon then alternative else return record (value.getD [])
  | .alternative colon => if isMissing colon then return [] else alternative
  | .assign colon =>
      if isMissing colon then do
        let text := Span.bytes (← inner.word { startTilde := true } word)
        assign name text
        return record ((← parameter? name mode).getD [])
      else return record (value.getD [])
  | .require colon =>
      if isMissing colon then do
        let text := Span.bytes (← inner.word { startTilde := true } word)
        failUnset name (if word.isEmpty then none else some text) colon
      else return record (value.getD [])
  | .trim atEnd longest => do
      let trimmed ← valueOrFail
      if value.isNone then return []
      else
        let spans ← inner.word { startTilde := true } word
        let pattern := Glyph.pattern (spans.flatMap Span.glyphs)
        return record (trimMatched pattern atEnd longest trimmed)

/-- Whether a quotation that has been opened holds nothing but all arguments. -/
def quotesArguments : Word → Bool
  | .parameter [Byte.atSign] .value [] :: .mark :: _ => true
  | _ => false

open Script in
def expandPieces (inner : Inner) (mode : Mode) : Expanding → Word → Script Expanding
  | expanding, [] => return expanding.flush mode
  | expanding, piece :: rest => do
      let isQuoted := mode.isQuoted || expanding.inQuotes
      let value (text : Bytes) : List Span :=
        [⟨if isQuoted then .whole else .split, Glyph.ofValue isQuoted text⟩]
      match expanding.skipped, piece with
      | skipped + 1, _ => expandPieces inner mode { expanding with skipped } rest
      | 0, .plain byte =>
          if expanding.inUser && !mode.endsUser byte then
            expandPieces inner mode expanding rest
          else
            let home? ←
              if byte == 126 && expanding.atTilde then
                match tildeUser? mode rest with
                | some user => home? user
                | none => pure none
              else pure none
            match home? with
            | some home =>
                let added := expanding.addWhole mode (Glyph.ofValue true home)
                expandPieces inner mode { added with inUser := true } rest
            | none =>
                let isFirstEquals := byte == Byte.equals && !expanding.seenEquals
                expandPieces inner mode
                  { expanding with
                    run := .byte byte false :: expanding.run
                    inUser := false
                    seenEquals := expanding.seenEquals || isFirstEquals
                    atTilde := mode.innerTildes && (isFirstEquals || byte == Byte.colon) } rest
      | 0, .escaped byte =>
          expandPieces inner mode (expanding.addWhole mode [.byte byte true]) rest
      | 0, .mark =>
          if !expanding.inQuotes && quotesArguments rest then
            let spans ←
              expandParameter inner { mode with isQuoted := true } [Byte.atSign] .value []
            expandPieces inner mode { expanding.add mode spans with skipped := 2 } rest
          else
            let added := expanding.addWhole mode [.mark]
            expandPieces inner mode { added with inQuotes := !expanding.inQuotes } rest
      | 0, .parameter name form word =>
          let spans ← expandParameter inner { mode with isQuoted } name form word
          if form == .valueAtEnd then return expanding.add mode spans
          else expandPieces inner mode (expanding.add mode spans) rest
      | 0, .command body =>
          let spans := value (← inner.output body)
          expandPieces inner mode (expanding.add mode spans) rest
      | 0, .arithmetic text =>
          let spans := value (← calculate (Span.bytes (← inner.word {} text)))
          expandPieces inner mode (expanding.add mode spans) rest

/-- Expand a word, whose expansions may be nested as deep as `fuel` allows. -/
def expandWord (output : Command → Script Bytes) : Nat → Mode → Word → Script (List Span)
  | 0, _, _ => throw (.stop .exhausted)
  | fuel + 1, mode, word => do
      let inner : Inner := { word := expandWord output fuel, output }
      let expanded ← expandPieces inner mode { atTilde := mode.startTilde } word
      return expanded.spans.reverse

def nestingLimit : Nat := 1000

namespace Script

def expandText (output : Command → Script Bytes) (mode : Mode) (word : Word) : Script Bytes :=
  return Span.bytes (← expandWord output nestingLimit mode word)

def expandPattern (output : Command → Script Bytes) (word : Word) : Script Bytes :=
  return Glyph.pattern ((← expandWord output nestingLimit .single word).flatMap Span.glyphs)

def expandArguments (output : Command → Script Bytes) (word : Word) : Script (List Bytes) := do
  let spans ← expandWord output nestingLimit .arguments word
  let fields := divide (← separators) none spans
  if ← isOn .noglob then return fields.map Glyph.bytes
  else
    let workplace := (← get).workplace
    return fields.flatMap (fieldTexts workplace.machine.files workplace.process.here)

end Script

end TradeLocal.Shell

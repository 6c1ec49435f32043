import TradeLocal.Shell.Source

/-!
# Reading words

A word is read byte by byte.  What a byte means depends on the quotation and the expansion it
stands in, and these nest: `levels` holds the ways of quoting from the inside out, and
`opens` the expansions that are not yet complete, with what comes before each.
-/

namespace TradeLocal.Shell

inductive Quoting where
  | bare
  | double
  | single
  | arithmetic
  deriving DecidableEq, Repr

inductive Meaning where
  | text
  /-- Text that must not be taken for a part of a pattern. -/
  | guarded
  | newline
  | backslash
  | singleQuote
  | doubleQuote
  | closingQuote
  | dollar
  | closingBrace
  | openingParenthesis
  | closingParenthesis
  | backtick
  /-- The end of a word outside quotations. -/
  | separator
  | ending
  deriving DecidableEq, Repr

def Quoting.meaning (quoting : Quoting) : Symbol → Meaning
  | .ending => .ending
  | .gap => .separator
  | .byte byte =>
      if byte == Byte.newline then .newline
      else
        match quoting with
        | .single =>
            if byte == Byte.singleQuote then .closingQuote
            else if (ascii "!*?[=~:/-]\\").contains byte then .guarded
            else .text
        | _ =>
            if byte == Byte.backslash then .backslash
            else if byte == Byte.backtick then .backtick
            else if byte == Byte.dollar then .dollar
            else if byte == Byte.closeBrace then .closingBrace
            else
              match quoting with
              | .double =>
                  if byte == Byte.doubleQuote then .closingQuote
                  else if (ascii "!*?[=~:/-]").contains byte then .guarded
                  else .text
              | .arithmetic =>
                  if byte == Byte.openParenthesis then .openingParenthesis
                  else if byte == Byte.closeParenthesis then .closingParenthesis
                  else .text
              | _ =>
                  if byte == Byte.singleQuote then .singleQuote
                  else if byte == Byte.doubleQuote then .doubleQuote
                  else if (ascii " \t<>();&|").contains byte then .separator
                  else .text

structure Level where
  quoting : Quoting
  isDouble : Bool := false
  /-- Whether a quotation is open inside an expansion of this level. -/
  isInnerQuoted : Bool := false
  /-- How many parameter expansions are open on this level. -/
  depth : Nat := 0
  /-- Whether the level was begun by a parameter expansion. -/
  isPushed : Bool := false
  /-- How many of the open parameter expansions are within double quotes. -/
  quotedDepth : Nat := 0
  parentheses : Nat := 0

/-- An expansion that is not complete, with the pieces before it, the latest first. -/
inductive Unfinished where
  | parameter (name : Bytes) (form : Form) (before : List Piece)
  | arithmetic (before : List Piece)

inductive Extent where
  /-- To the next separator. -/
  | word
  /-- To a line that consists of the end mark. -/
  | document (mark : Bytes) (dropsTabs : Bool)
  /-- To the end of the text. -/
  | text

structure Scan where
  level : Level
  outer : List Level := []
  opens : List Unfinished := []
  /-- The pieces so far, the latest first. -/
  pieces : List Piece := []
  isQuoted : Bool := false

namespace Scan

def put (scan : Scan) (piece : Piece) : Scan :=
  { scan with pieces := piece :: scan.pieces }

def push (scan : Scan) (level : Level) : Scan :=
  { scan with level, outer := scan.level :: scan.outer }

def pop (scan : Scan) : Scan :=
  match scan.outer with
  | [] => scan
  | level :: outer => { scan with level, outer }

def close (scan : Scan) : Scan :=
  match scan.opens with
  | [] => scan
  | .parameter name form before :: opens =>
      { scan with opens, pieces := .parameter name form scan.pieces.reverse :: before }
  | .arithmetic before :: opens =>
      { scan with opens, pieces := .arithmetic scan.pieces.reverse :: before }

def «open» (scan : Scan) (unfinished : List Piece → Unfinished) : Scan :=
  { scan with opens := unfinished scan.pieces :: scan.opens, pieces := [] }

/-- A quote: it is kept as a mark unless the text is a document. -/
def quote (scan : Scan) (extent : Extent) (toggles : Bool) : Scan :=
  let scan :=
    if toggles && scan.level.depth != 0 then
      { scan with level := { scan.level with isInnerQuoted := !scan.level.isInnerQuoted } }
    else scan
  match extent with
  | .word => scan.put .mark
  | _ => scan

def closeBrace (scan : Scan) : Scan :=
  let level := scan.level
  if level.isInnerQuoted || level.depth == 0 then scan.put (.plain Byte.closeBrace)
  else
    let scan := scan.close
    if level.depth == 1 && level.isPushed then
      { scan with level := { level with depth := 0 } }.pop
    else
      { scan with
        level :=
          { level with depth := level.depth - 1, quotedDepth := level.quotedDepth - 1 } }

end Scan

namespace Reading

def isSpecialParameter (byte : UInt8) : Bool :=
  Byte.isDigit byte || (ascii "@*#?-$!").contains byte

/-- Read on while bytes satisfy a test.  Returns the bytes, the symbol behind them, and the
source before that symbol. -/
def takeWhile (test : UInt8 → Bool) (first : Symbol) (before : Source) :
    Reading (Bytes × Symbol × Source) :=
  repeated
    (fun (taken, symbol, before) => do
      match symbol with
      | .byte byte =>
          if test byte then do
            let before ← source
            return .inl (byte :: taken, ← nextJoined, before)
          else return .inr (taken.reverse, symbol, before)
      | _ => return .inr (taken.reverse, symbol, before))
    ([], first, before)

/-- The name of a parameter between braces, whether its length is asked for, and the symbol
behind, with the source before it.  There is no name where none can be read. -/
def bracedName (first : Symbol) (before : Source) :
    Reading (Option Bytes × Bool × Symbol × Source) := do
  match first with
  | .byte byte =>
      if Byte.isNameStart byte then
        let (name, symbol, before) ← takeWhile Byte.isName first before
        return (some name, false, symbol, before)
      else if Byte.isDigit byte then
        let (name, symbol, before) ← takeWhile Byte.isDigit first before
        return (some name, false, symbol, before)
      else if byte == Byte.closeBrace then return (none, false, first, before)
      else
        let before ← source
        let second ← nextJoined
        if byte != Byte.hash then
          return (if isSpecialParameter byte then some [byte] else none, false, second, before)
        else
          match second with
          | .byte other =>
              if Byte.isNameStart other then
                let (name, symbol, before) ← takeWhile Byte.isName second before
                return (some name, true, symbol, before)
              else if Byte.isDigit other then
                let (name, symbol, before) ← takeWhile Byte.isDigit second before
                return (some name, true, symbol, before)
              else
                let afterSecond ← source
                let third ← nextJoined
                if other == Byte.closeBrace || third != .byte Byte.closeBrace then
                  setSource afterSecond
                  return (some [Byte.hash], false, second, before)
                else if isSpecialParameter other then
                  return (some [other], true, third, afterSecond)
                else return (none, false, third, afterSecond)
          | _ => return (some [Byte.hash], false, second, before)
  | _ => do
      let before ← source
      let second ← nextJoined
      return (none, false, second, before)

/-- The form of a parameter expansion, after the name.  The symbol in hand is used up unless
there is no form. -/
def formAfter (symbol : Symbol) : Reading Form := do
  let (colon, symbol) ←
    if symbol == .byte Byte.colon then pure (true, ← nextJoined) else pure (false, symbol)
  match symbol with
  | .byte byte =>
      if byte == Byte.hyphen then return .default colon
      else if byte == Byte.plus then return .alternative colon
      else if byte == Byte.question then return .require colon
      else if byte == Byte.equals then return .assign colon
      else if colon && byte == Byte.closeBrace then return .valueAtEnd
      else if !colon && byte == Byte.percent then return .trim true (← nextIs byte)
      else if !colon && byte == Byte.hash then return .trim false (← nextIs byte)
      else return .bad
  | _ => return .bad

def braced (scan : Scan) : Reading Scan := do
  let before ← source
  let first ← nextJoined
  let (name, isLength, symbol, beforeSymbol) ← bracedName first before
  let isClosed := symbol == .byte Byte.closeBrace
  match name with
  | some name =>
      if isLength && isClosed then
        setSource beforeSymbol
        return enter scan name .length
      else if isLength then
        setSource beforeSymbol
        return enter scan name .bad
      else if isClosed then return scan.put (.parameter name .value [])
      else return enter scan name (← formAfter symbol)
  | none => do
      setSource beforeSymbol
      return enter scan [] .bad
where
  /-- Begin the word of an expansion. -/
  enter (scan : Scan) (name : Bytes) (form : Form) : Scan :=
    let quoting :=
      match form, scan.level.quoting with
      | .trim _ _, _ => .bare
      | _, .arithmetic => .double
      | _, quoting => quoting
    let scan :=
      if quoting != scan.level.quoting || scan.level.isInnerQuoted then
        scan.push { quoting, isPushed := true, isDouble := quoting != .bare }
      else scan
    let level := scan.level
    let scan :=
      { scan with
        level :=
          { level with
            depth := level.depth + 1
            quotedDepth := if level.isDouble then level.quotedDepth + 1 else level.quotedDepth } }
    scan.open (.parameter name form)

/-- The text between backquotes, in which a backslash quotes some bytes. -/
def quotedScript (isDouble : Bool) : Reading Bytes :=
  repeated
    (fun taken => do
      match ← nextJoined with
      | .ending => fail .unterminatedSubstitution
      | .gap => return .inl taken
      | .byte byte =>
          if byte == Byte.backtick then return .inr taken.reverse
          else if byte == Byte.backslash then do
            match ← next with
            | .byte quoted =>
                let isFree :=
                  quoted == Byte.backslash || quoted == Byte.backtick || quoted == Byte.dollar ||
                    (isDouble && quoted == Byte.doubleQuote)
                return .inl (if isFree then quoted :: taken else quoted :: byte :: taken)
            | _ => return .inl (byte :: taken)
          else do
            if byte == Byte.newline then countLine
            return .inl (byte :: taken))
    []

def dollar (commands : Option Bytes → Reading Command) (scan : Scan) : Reading Scan := do
  let isMark := (← get).attention.mark
  let before ← source
  let plain : Reading Scan := do
    setSource before
    return scan.put (.plain Byte.dollar)
  match ← nextJoined with
  | .byte byte =>
      if isMark then plain
      else if byte == Byte.openParenthesis then
        if ← nextIs Byte.openParenthesis then
          return (scan.push { quoting := .arithmetic, isDouble := true }).open .arithmetic
        else return scan.put (.command (← commands none))
      else if byte == Byte.openBrace then braced scan
      else if Byte.isNameStart byte then
        let (name, _, before) ← takeWhile Byte.isName (.byte byte) before
        setSource before
        return scan.put (.parameter name .value [])
      else if isSpecialParameter byte then return scan.put (.parameter [byte] .value [])
      else plain
  | _ => plain

def escape (extent : Extent) (scan : Scan) : Reading Scan := do
  let before ← source
  let level := scan.level
  match ← nextByte with
  | .byte byte =>
      let isDocument :=
        match extent with
        | .word => false
        | _ => true
      let keepsBackslash :=
        level.isDouble && byte != Byte.backslash && byte != Byte.backtick &&
          byte != Byte.dollar &&
          (byte != Byte.doubleQuote || (isDocument && level.depth == 0)) &&
          (byte != Byte.closeBrace || level.depth == 0)
      let scan := if keepsBackslash then scan.put (.escaped Byte.backslash) else scan
      return { scan.put (.escaped byte) with isQuoted := true }
  | _ => do
      setSource before
      return scan.put (.escaped Byte.backslash)

def checkMark (mark : Bytes) (dropsTabs : Bool) (symbol : Symbol) : Reading Symbol := do
  let symbol ←
    if dropsTabs then
      repeated
        (fun symbol => do
          if symbol == .byte 9 then return .inl (← next) else return .inr symbol)
        symbol
    else pure symbol
  let before ← source
  let isEnd ←
    repeated
      (fun (symbol, mark) => do
        match mark with
        | [] => return .inr (symbol == .ending || symbol == .byte Byte.newline)
        | expected :: mark =>
            if symbol == .byte expected then return .inl (← nextByte, mark)
            else return .inr false)
      (symbol, mark)
  if isEnd then
    countLine
    return .ending
  else
    setSource before
    return symbol

def atLineStart (extent : Extent) (symbol : Symbol) : Reading Symbol :=
  match extent with
  | .document mark dropsTabs => checkMark mark dropsTabs symbol
  | _ => pure symbol

/-- Read the next symbol of a word.  Between single quotes nothing is escaped. -/
def nextOf (level : Level) : Reading Symbol :=
  if level.quoting == .single then next else nextJoined

/-- A word, the symbol behind it, and the source before that symbol. -/
abbrev Scanned := Scan × Symbol × Source

/-- Take in one symbol of a word.  Returns the word and the next symbol, or the whole word
and the symbol that ends it. -/
def scanStep (commands : Option Bytes → Reading Command) (extent : Extent) :
    Scanned → Reading (Scanned ⊕ Scanned)
  | (scan, symbol, before) => do
      let level := scan.level
      let isWord :=
        match extent with
        | .word => true
        | _ => false
      let byte :=
        match symbol with
        | .byte byte => byte
        | _ => 0
      let goOn (scan : Scan) : Reading (Scanned ⊕ Scanned) := do
        let before ← source
        return .inl (scan, ← nextOf scan.level, before)
      match level.quoting.meaning symbol with
      | .newline =>
          if level.quoting == .bare && level.depth == 0 then return .inr (scan, symbol, before)
          else do
            countLine
            let before ← source
            let symbol ← nextOf level
            return .inl (scan.put (.plain byte), ← atLineStart extent symbol, before)
      | .text => goOn (scan.put (.plain byte))
      | .guarded =>
          goOn (scan.put (if isWord || level.isDouble then .escaped byte else .plain byte))
      | .backslash => goOn (← escape extent scan)
      | .singleQuote =>
          goOn ({ scan with level := { level with quoting := .single } }.quote extent false)
      | .doubleQuote =>
          goOn
            ({ scan with level := { level with quoting := .double, isDouble := true } }.quote
              extent true)
      | .closingQuote =>
          if !isWord && level.depth == 0 then goOn (scan.put (.plain byte))
          else
            let level :=
              if level.quotedDepth == 0 then { level with quoting := .bare, isDouble := false }
              else level
            goOn
              ({ scan with level, isQuoted := true }.quote extent (byte == Byte.doubleQuote))
      | .dollar => goOn (← dollar commands scan)
      | .closingBrace => goOn scan.closeBrace
      | .openingParenthesis =>
          goOn
            ({ scan with level := { level with parentheses := level.parentheses + 1 } }.put
              (.plain byte))
      | .closingParenthesis =>
          if level.parentheses != 0 then
            goOn
              ({ scan with level := { level with parentheses := level.parentheses - 1 } }.put
                (.plain byte))
          else if ← nextIs Byte.closeParenthesis then goOn scan.close.pop
          else goOn (scan.put (.plain byte))
      | .backtick => do
          if (← get).attention.mark then goOn (scan.put (.plain byte))
          else
            let script ← quotedScript level.isDouble
            goOn (scan.put (.command (← commands (some script))))
      | .ending => return .inr (scan, symbol, before)
      | .separator =>
          if level.depth == 0 && level.quoting == .bare then return .inr (scan, symbol, before)
          else if symbol == .gap then goOn scan
          else goOn (scan.put (.plain byte))

def scanWord (commands : Option Bytes → Reading Command) (extent : Extent) (quoting : Quoting)
    (first : Symbol) : Reading Scanned := do
  let start : Scan := { level := { quoting, isDouble := quoting == .double } }
  let before ← source
  let first ← atLineStart extent first
  let (scan, last, before) ← repeated (scanStep commands extent) (start, first, before)
  if scan.level.quoting == .arithmetic then fail .missingParentheses
  let isWord :=
    match extent with
    | .word => true
    | _ => false
  if scan.level.quoting != .bare && isWord then fail .unterminatedQuote
  if scan.level.depth != 0 then fail .missingBrace
  return (scan, last, before)

/-- The pieces of a text that is read as if it stood between double quotes. -/
def expandable (commands : Option Bytes → Reading Command) : Reading Word := do
  let (scan, _, _) ← scanWord commands .text .double (← nextJoined)
  return scan.pieces.reverse

end Reading

end TradeLocal.Shell

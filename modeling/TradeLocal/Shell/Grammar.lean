import TradeLocal.Shell.Builtin
import TradeLocal.Shell.Word

/-!
# Reading commands

The grammar of scripts, read by recursive descent.  Reading stops after one complete command
line, so that what it does can influence how the next one is read.
-/

namespace TradeLocal.Shell

def isFunctionName (name : Bytes) : Bool :=
  Bytes.isVariableName name && !(Builtin.ofName? name).any Builtin.isSpecial

namespace Reading

inductive ListKind where
  /-- The commands of one line. -/
  | line
  /-- At least one command, on any number of lines. -/
  | body
  /-- Any number of commands. -/
  | optional
  deriving DecidableEq, Repr

def attend (attention : Attention) : Reading Unit :=
  modify fun reader => { reader with attention }

/-- A command may begin, also on another line. -/
def commandAhead : Attention := { keywords := true, newlines := true, aliases := true }

/-- A command may begin on this line. -/
def commandHere : Attention := { keywords := true, aliases := true }

def pushBack : Reading Unit :=
  modify fun reader => { reader with isPushedBack := true }

def lastToken : Reading Token :=
  return (← get).token

def failUnexpected {α : Type} (expecting : Option Token) : Reading α := do
  fail (.unexpected (← lastToken) expecting)

def outputSign (descriptor : Nat) : Reading Redirection := do
  if ← nextIs Byte.greater then return .file descriptor .append []
  else if ← nextIs Byte.bar then return .file descriptor .overwrite []
  else if ← nextIs Byte.ampersand then return .duplicate descriptor []
  else return .file descriptor .output []

def inputSign (descriptor : Nat) : Reading Redirection := do
  if ← nextIs Byte.less then
    let dropsTabs ← nextIs Byte.hyphen
    modify fun reader => { reader with dropsTabs }
    return .document descriptor 0
  else if ← nextIs Byte.ampersand then return .duplicate descriptor []
  else if ← nextIs Byte.greater then return .file descriptor .update []
  else return .file descriptor .input []

def readRedirection (isOutput : Bool) (digit : Option Nat) : Reading Unit := do
  let redirection ←
    if isOutput then outputSign (digit.getD 1) else inputSign (digit.getD 0)
  modify fun reader => { reader with redirection }

def readWord (commands : Option Bytes → Reading Command) (first : Symbol) : Reading Token := do
  let (scan, last, before) ← scanWord commands .word .bare first
  let sign? : Option (Bool × Option Nat) :=
    match last with
    | .byte byte =>
        if (byte == Byte.less || byte == Byte.greater) && !scan.isQuoted then
          match scan.pieces with
          | [] => some (byte == Byte.greater, none)
          | [.plain digit] =>
              if Byte.isDigit digit then some (byte == Byte.greater, some (digit.toNat - 48))
              else none
          | _ => none
        else none
    | _ => none
  match sign? with
  | some (isOutput, digit) => do
      readRedirection isOutput digit
      return .redirection
  | none => do
      setSource before
      modify fun reader =>
        { reader with word := scan.pieces.reverse, isQuoted := scan.isQuoted }
      return .word

def skipComment : Reading Unit :=
  repeated
    (fun _ => do
      let before ← source
      match ← next with
      | .byte byte =>
          if byte == Byte.newline then
            setSource before
            return .inr ()
          else return .inl ()
      | .gap => return .inl ()
      | .ending => return .inr ())
    ()

/-- Read a token, not minding what it means where it stands. -/
def rawToken (commands : Option Bytes → Reading Command) : Reading Token := do
  if (← get).isPushedBack then
    modify fun reader => { reader with isPushedBack := false }
    lastToken
  else
    let token ←
      repeated
        (fun _ => do
          match ← nextJoined with
          | .gap => return .inl ()
          | .ending => return .inr .endOfFile
          | .byte byte =>
              if Byte.isBlank byte then return .inl ()
              else if byte == Byte.hash then do
                skipComment
                return .inl ()
              else if byte == Byte.newline then do
                countLine
                return .inr .newline
              else if byte == Byte.ampersand || byte == Byte.bar || byte == Byte.semicolon then
                if ← nextIs byte then return .inr (.operator [byte, byte])
                else return .inr (.operator [byte])
              else if byte == Byte.openParenthesis || byte == Byte.closeParenthesis then
                return .inr (.operator [byte])
              else return .inr (← readWord commands (.byte byte)))
        ()
    modify fun reader => { reader with token }
    return token

def readDocuments (commands : Option Bytes → Reading Command) : Reading Unit := do
  let announced := (← get).announced
  modify fun reader => { reader with announced := [] }
  repeated
    (fun announced => do
      match announced with
      | [] => return .inr ()
      | announcement :: rest => do
          let (scan, _, _) ←
            if announcement.isExpanded then
              scanWord commands (.document announcement.mark announcement.dropsTabs) .double
                (← nextJoined)
            else
              scanWord commands (.document announcement.mark announcement.dropsTabs) .single
                (← next)
          let text := scan.pieces.reverse
          modify fun reader =>
            { reader with documents := reader.documents.setIfInBounds announcement.number text }
          return .inl rest)
    announced

def token (commands : Option Bytes → Reading Command) : Reading Token := do
  let attention := (← get).attention
  let token ←
    repeated
      (fun _ => do
        let first ← rawToken commands
        let token ←
          repeated
            (fun token => do
              if attention.newlines && token == .newline then
                readDocuments commands
                modify fun reader => { reader with attention := {} }
                return .inl (← rawToken commands)
              else return .inr token)
            first
        let reader ← get
        let keywords := attention.keywords || reader.attention.keywords
        let aliases := attention.aliases || reader.attention.aliases
        match token, reader.isQuoted, Word.plain? reader.word with
        | .word, false, some text =>
            if keywords && Token.keywords.contains text then return .inr (.keyword text)
            else if aliases then
              match reader.aliases.lookup text with
              | some value =>
                  if ← isInUse text then return .inr token
                  else do
                    if !value.isEmpty then pushText value (some text)
                    return .inl ()
              | none => return .inr token
            else return .inr token
        | _, _, _ => return .inr token)
      ()
  modify fun reader => { reader with token, attention := {} }
  return token

def redirectionWord (commands : Option Bytes → Reading Command) : Reading Redirection := do
  let redirection := (← get).redirection
  match redirection with
  | .document descriptor _ => do
      attend { mark := true }
      if (← token commands) != .word then failUnexpected none
      let reader ← get
      let number := reader.documents.size
      let announcement : Announcement :=
        { number, mark := Word.bytes reader.word, isExpanded := !reader.isQuoted
          dropsTabs := reader.dropsTabs }
      modify fun reader =>
        { reader with
          documents := reader.documents.push []
          announced := reader.announced ++ [announcement] }
      return .document descriptor number
  | .duplicate descriptor _ => do
      if (← token commands) != .word then failUnexpected none
      return .duplicate descriptor (← get).word
  | .file descriptor access _ => do
      if (← token commands) != .word then failUnexpected none
      return .file descriptor access (← get).word

def redirections (commands : Option Bytes → Reading Command) : Reading (List Redirection) :=
  repeated
    (fun read => do
      if (← token commands) == .redirection then
        return .inl ((← redirectionWord commands) :: read)
      else do
        pushBack
        return .inr read.reverse)
    []

/-- A simple command that is being read; all lists have the latest first. -/
structure Parts where
  assignments : List Word := []
  words : List Word := []
  redirections : List Redirection := []

/-- Read a simple command, or what is in front of the body of a function: its line and
name. -/
def simpleCommand (commands : Option Bytes → Reading Command) :
    Reading (Command ⊕ (Nat × Bytes)) := do
  let line := (← source).line
  repeated
    (fun parts : Parts => do
      attend { aliases := parts.words.isEmpty }
      let finish : Reading (Parts ⊕ (Command ⊕ (Nat × Bytes))) := do
        pushBack
        return .inr (.inl (.simple line parts.assignments.reverse parts.words.reverse
          parts.redirections.reverse))
      match ← token commands with
      | .word =>
          let word := (← get).word
          if parts.words.isEmpty && Word.isAssignment word then
            return .inl { parts with assignments := word :: parts.assignments }
          else return .inl { parts with words := word :: parts.words }
      | .redirection =>
          return .inl
            { parts with
              redirections := (← redirectionWord commands) :: parts.redirections }
      | other =>
          match parts.words, parts.assignments, parts.redirections with
          | [word], [], [] =>
              if other == .opening then do
                if (← token commands) != .closing then failUnexpected (some .closing)
                match Word.plain? word with
                | none => fail .badFunctionName
                | some name =>
                    if isFunctionName name then return .inr (.inr ((← source).line, name))
                    else fail .badFunctionName
              else finish
          | _, _, _ => finish)
    {}

def loopItems (commands : Option Bytes → Reading Command) : Reading (List Word) :=
  repeated
    (fun items => do
      match ← token commands with
      | .word => return .inl ((← get).word :: items)
      | other =>
          if other != .newline && other != .semicolon then failUnexpected none
          else return .inr items.reverse)
    []

def branchPatterns (commands : Option Bytes → Reading Command) : Reading (List Word) :=
  repeated
    (fun patterns => do
      let patterns := (← get).word :: patterns
      if (← token commands) == .pipe then do
        let _ ← token commands
        return .inl patterns
      else return .inr patterns.reverse)
    []

def keyword (text : String) : Token := .keyword (ascii text)

def depthLimit : Nat := 3000

def append (first second : Command) : Command :=
  if first.isNothing then second else .sequence first second

def inBackground : Command → Command
  | .pipeline stages _ => .pipeline stages true
  | .redirected line body redirections => .background line body redirections
  | command => .background 0 command []

def joinStages : List Command → Command
  | [stage] => stage
  | stages => .pipeline stages false

mutual

def list : Nat → ListKind → Reading Command
  | 0, _ => fail .tooDeep
  | fuel + 1, kind => do
      let newlines := kind != .line
      let tokens := token (substitution fuel)
      repeated
        (fun (commands, mayEnd) => do
          attend { keywords := true, newlines, aliases := true }
          let first ← tokens
          if first == .newline then do
            readDocuments (substitution fuel)
            return .inr commands
          else if first == .endOfFile then do
            readDocuments (substitution fuel)
            modify fun reader => { reader with isPushedBack := true, token := .endOfFile }
            return .inr commands
          else do
            pushBack
            if mayEnd && first.endsList then return .inr commands
            else do
              let command ← andOr fuel
              let separator ← tokens
              let command :=
                if separator == .background then inBackground command else command
              let commands := append commands command
              if separator == .newline || separator == .endOfFile then do
                pushBack
                return .inl (commands, newlines)
              else if separator == .background || separator == .semicolon then
                return .inl (commands, newlines)
              else do
                if !newlines then failUnexpected none
                pushBack
                return .inr commands)
        (Command.nothing, kind == .optional)

def andOr : Nat → Reading Command
  | 0 => fail .tooDeep
  | fuel + 1 => do
      let first ← pipeline fuel
      repeated
        (fun left => do
          let joint ← token (substitution fuel)
          if joint == .conjunction || joint == .disjunction then do
            attend commandAhead
            let right ← pipeline fuel
            if joint == .conjunction then return .inl (.conjunction left right)
            else return .inl (.disjunction left right)
          else do
            pushBack
            return .inr left)
        first

def pipeline : Nat → Reading Command
  | 0 => fail .tooDeep
  | fuel + 1 => do
      let isNegated := (← token (substitution fuel)) == keyword "!"
      if isNegated then attend commandHere else pushBack
      let first ← command fuel
      let stages ←
        repeated
          (fun stages => do
            if (← token (substitution fuel)) == .pipe then do
              attend commandAhead
              return .inl ((← command fuel) :: stages)
            else do
              pushBack
              return .inr stages.reverse)
          [first]
      let joined := joinStages stages
      return if isNegated then .negation joined else joined

def command : Nat → Reading Command
  | 0 => fail .tooDeep
  | fuel + 1 => do
      let line := (← source).line
      let tokens := token (substitution fuel)
      let expect (expected : Token) : Reading Unit := do
        if (← tokens) != expected then failUnexpected (some expected)
      let redirected (body : Command) : Reading Command := do
        attend commandHere
        match ← redirections (substitution fuel) with
        | [] => return body
        | redirections =>
            match body with
            | .subshell line body _ => return .subshell line body redirections
            | _ => return .redirected line body redirections
      match ← tokens with
      | .word | .redirection => do
          pushBack
          match ← simpleCommand (substitution fuel) with
          | .inl command => return command
          | .inr (line, name) => do
              attend commandAhead
              return .function line name (← command fuel)
      | .operator text => do
          if text != [Byte.openParenthesis] then failUnexpected none
          let body ← list fuel .body
          expect .closing
          redirected (.subshell line body [])
      | .keyword text =>
          if text = ascii "if" then do
            let condition ← list fuel .body
            expect (keyword "then")
            let thenPart ← list fuel .body
            let elsePart ← otherwise fuel
            redirected (.conditional condition thenPart elsePart)
          else if text = ascii "while" || text = ascii "until" then do
            let condition ← list fuel .body
            expect (keyword "do")
            let body ← list fuel .body
            expect (keyword "done")
            redirected (.loop (text == ascii "while") condition body)
          else if text = ascii "for" then do
            let name ← loopVariable fuel
            attend commandAhead
            let items ←
              if (← tokens) == keyword "in" then loopItems (substitution fuel)
              else do
                if (← lastToken) != .semicolon then pushBack
                pure [Word.allArguments]
            attend commandAhead
            expect (keyword "do")
            let body ← list fuel .body
            expect (keyword "done")
            redirected (.iteration line name items body)
          else if text = ascii "case" then do
            expect .word
            let subject := (← get).word
            attend commandAhead
            expect (keyword "in")
            redirected (.choice line subject (← branches fuel))
          else if text = ascii "\x7b" then do
            let body ← list fuel .body
            expect (keyword "\x7d")
            redirected body
          else failUnexpected none
      | _ => failUnexpected none

def otherwise : Nat → Reading Command
  | 0 => fail .tooDeep
  | fuel + 1 => do
      let next ← token (substitution fuel)
      if next == keyword "elif" then do
        let condition ← list fuel .body
        if (← token (substitution fuel)) != keyword "then" then
          failUnexpected (some (keyword "then"))
        let thenPart ← list fuel .body
        return .conditional condition thenPart (← otherwise fuel)
      else do
        let elsePart ←
          if next == keyword "else" then list fuel .body
          else do
            pushBack
            pure .nothing
        if (← token (substitution fuel)) != keyword "fi" then
          failUnexpected (some (keyword "fi"))
        return elsePart

def loopVariable : Nat → Reading Bytes
  | 0 => fail .tooDeep
  | fuel + 1 => do
      let next ← token (substitution fuel)
      let reader ← get
      match next, reader.isQuoted, Word.plain? reader.word with
      | .word, false, some name =>
          if Bytes.isVariableName name then return name else fail .badLoopVariable
      | _, _, _ => fail .badLoopVariable

def branches : Nat → Reading (List (List Word × Command))
  | 0 => fail .tooDeep
  | fuel + 1 => do
      let branchAhead : Attention := { keywords := true, newlines := true }
      let tokens := token (substitution fuel)
      repeated
        (fun read => do
          attend branchAhead
          let first ← tokens
          if first == keyword "esac" then return .inr read.reverse
          else do
            if first == .opening then
              let _ ← tokens
            let patterns ← branchPatterns (substitution fuel)
            if (← lastToken) != .closing then failUnexpected (some .closing)
            let read := (patterns, ← list fuel .optional) :: read
            attend branchAhead
            let ending ← tokens
            if ending == keyword "esac" then return .inr read.reverse
            else do
              if ending != .endOfBranch then failUnexpected (some .endOfBranch)
              return .inl read)
        []

/-- Read the commands of a substitution: those up to a closing parenthesis, or those of a
text. -/
def substitution : Nat → Option Bytes → Reading Command
  | 0, _ => fail .tooDeep
  | fuel + 1, script? => do
      let announced := (← get).announced
      modify fun reader => { reader with announced := [] }
      match script? with
      | some script => do
          let before ← source
          let showsLines := (← get).showsLines
          modify fun reader =>
            { reader with
              source := { text := script }, showsLines := false, isPushedBack := false }
          let body ← list fuel .optional
          readDocuments (substitution fuel)
          modify fun reader =>
            { reader with source := before, showsLines, announced, isPushedBack := false }
          return body
      | none => do
          let body ← list fuel .optional
          if (← token (substitution fuel)) != .closing then failUnexpected (some .closing)
          let before ← source
          modify fun reader => { reader with source := { text := [] } }
          readDocuments (substitution fuel)
          modify fun reader => { reader with source := before, announced }
          return body

end

/-- Read the next complete command line.  There is none at the end of the text. -/
def commandLine : Reading (Option Command) := do
  modify fun reader =>
    { reader with isPushedBack := false, attention := {}, announced := [] }
  let command ← list depthLimit .line
  let reader ← get
  if command.isNothing && reader.isPushedBack && reader.token == .endOfFile then return none
  else return some command

end Reading

end TradeLocal.Shell

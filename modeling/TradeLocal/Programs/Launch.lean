import TradeLocal.Host.Execute
import TradeLocal.Host.Signal
import TradeLocal.Programs.System

/-!
# Programs that run other programs

`env` changes the environment of the program it becomes, and `timeout` limits its time.
-/

namespace TradeLocal.Programs

open TradeLocal.Host TradeLocal.Numeral

abbrev Launcher := Environment → Job → Work Nat

/-- The exit codes of a program that runs others: when it fails itself, when the other program
cannot be run, and when it is not found. -/
def launchTrouble : Nat := 125
def notRunnable : Nat := 126
def notFound : Nat := 127

def refusalCode : SystemError → Nat
  | .notFound => notFound
  | _ => notRunnable

def resolve (environment : Environment) (words : List Bytes) : Work (Except SystemError Job) := do
  return World.resolve ⟨← Work.files, ← Work.here, environment⟩ words

structure SplitState where
  word : Bytes := []
  isOpen : Bool := false
  quote? : Option UInt8 := none
  words : List Bytes := []

namespace SplitState

def push (state : SplitState) (byte : UInt8) : SplitState :=
  { state with word := byte :: state.word, isOpen := true }

def close (state : SplitState) : SplitState :=
  if state.isOpen then
    { state with word := [], isOpen := false, words := state.word.reverse :: state.words }
  else state

end SplitState

def splitLetters : List (UInt8 × UInt8) :=
  [('f', 12), ('n', 10), ('r', 13), ('t', 9), ('v', 11)].map fun (letter, byte) =>
    (Byte.ofChar letter, byte)

/-- Split a string into words as a shell does, with variables in braces. -/
def splitString (call : Call) : Nat → SplitState → Bytes → Work (List Bytes)
  | 0, state, _ => return state.words.reverse
  | fuel + 1, state, text => do
      let isQuoted := state.quote?.isSome
      match text with
      | [] =>
          if isQuoted then call.abandon (ascii "no terminating quote in -S string")
          else return state.close.words.reverse
      | Byte.backslash :: rest =>
          match rest with
          | [] => call.abandon (ascii "invalid backslash at end of string in -S")
          | letter :: behind =>
              if state.quote? == some Byte.singleQuote &&
                  letter != Byte.backslash && letter != Byte.singleQuote then
                splitString call fuel (state.push Byte.backslash) rest
              else if (ascii "\"'\\#$").contains letter then
                splitString call fuel (state.push letter) behind
              else if letter == Byte.underscore then
                if isQuoted then splitString call fuel (state.push Byte.space) behind
                else splitString call fuel state.close behind
              else if letter == Byte.ofChar 'c' then
                if isQuoted then
                  call.abandon (ascii "'\\c' must not appear in double-quoted -S string")
                else return state.close.words.reverse
              else
                match splitLetters.lookup letter with
                | some byte => splitString call fuel (state.push byte) behind
                | none =>
                    call.abandon (ascii "invalid sequence '\\" ++ letter :: ascii "' in -S")
      | byte :: rest =>
          if byte == Byte.singleQuote || byte == Byte.doubleQuote then
            if state.quote? == some byte then
              splitString call fuel { state with quote? := none } rest
            else if isQuoted then splitString call fuel (state.push byte) rest
            else splitString call fuel { state with quote? := some byte, isOpen := true } rest
          else if Byte.isSpace byte && !isQuoted then splitString call fuel state.close rest
          else if byte == Byte.hash && !isQuoted && !state.isOpen then
            return state.close.words.reverse
          else if byte == Byte.dollar && state.quote? != some Byte.singleQuote then
            let braced := rest.tail
            let name := braced.takeWhile Byte.isName
            if rest.head? != some Byte.openBrace || !Bytes.isVariableName name ||
                (braced.drop name.length).head? != some Byte.closeBrace then
              call.abandon (ascii "only $\x7bVARNAME\x7d expansion is supported, error at: " ++ text)
            else
              let value := (call.environment.get? name).getD []
              splitString call fuel
                { state with word := value.reverse ++ state.word, isOpen := true }
                (braced.drop (name.length + 1))
          else splitString call fuel (state.push byte) rest

def splitOptions (call : Call) : Nat → List Bytes → Work (List Bytes)
  | 0, words => return words
  | _, [] => return []
  | fuel + 1, word :: rest => do
      let split (text : Bytes) (rest : List Bytes) : Work (List Bytes) := do
        let words ← splitString call (text.length + 1) {} text
        splitOptions call fuel (words ++ rest)
      match word with
      | Byte.hyphen :: 83 :: letters =>
          if letters.isEmpty then
            match rest with
            | [] => return [word]
            | text :: rest => split text rest
          else split letters rest
      | Byte.hyphen :: letters =>
          let front := letters.takeWhile (ascii "i0v").contains
          match letters.drop front.length with
          | 83 :: text => do
              let words ← split (if text.isEmpty then rest.headD [] else text)
                (if text.isEmpty then rest.tail else rest)
              return (Byte.hyphen :: front) :: words
          | _ =>
              if (ascii "--split-string=").isPrefixOf word then
                split (word.drop (ascii "--split-string=").length) rest
              else if word = ascii "--split-string" then split (rest.headD []) rest.tail
              else if word = ascii "-u" || word = ascii "-C" || word = ascii "--unset" ||
                  word = ascii "--chdir" then
                return word :: rest.take 1 ++ (← splitOptions call fuel (rest.drop 1))
              else if word = ascii "--" then return word :: rest
              else return word :: (← splitOptions call fuel rest)
      | _ => return word :: rest

/-- How often options may hold further options. -/
def splitLimit : Nat := 1000

def without (environment : Environment) (name : Bytes) : Environment :=
  ⟨environment.entries.filter fun entry => (Environment.valueFor? name entry).isNone⟩

def setEntry (environment : Environment) (entry : Bytes) : Environment :=
  let name := Environment.nameOf entry
  let has := environment.entries.any fun present => (Environment.valueFor? name present).isSome
  if has then
    ⟨environment.entries.map fun present =>
      if (Environment.valueFor? name present).isSome then entry else present⟩
  else ⟨environment.entries ++ [entry]⟩

def envForms : List OptionForm :=
  [.of "i" "ignore-environment" .nothing, .of "0" "null" .nothing, .of "u" "unset" .argument,
    .of "C" "chdir" .argument, .of "v" "debug" .nothing, .of "S" "split-string" .argument,
    .of "" "default-signal" .optional, .of "" "ignore-signal" .optional,
    .of "" "block-signal" .optional, .of "" "list-signal-handling" .nothing]

def env (launcher : Launcher) (call : Call) : Work Nat := do
  let call := { call with trouble := launchTrouble }
  let words ← splitOptions call splitLimit call.arguments
  let read ← { call with arguments := words }.parseFront envForms
  let tell (name : String) (text : Bytes) : Work Unit := do
    if read.has "v" then
      let label := ascii name ++ [Byte.colon]
      Call.tell (label ++ List.replicate (10 - label.length) Byte.space ++ text ++
        [Byte.newline])
  let (isBare, operands) :=
    match read.operands with
    | word :: rest => if word = [Byte.hyphen] then (true, rest) else (false, word :: rest)
    | [] => (false, [])
  let startsBare := isBare || read.has "i"
  if startsBare && read.has "v" then Call.tell (ascii "cleaning environ\n")
  let mut environment : Environment := if startsBare then {} else call.environment
  for given in read.options do
    if given.key == ascii "u" && !startsBare then
      let name := given.argument.getD []
      tell "unset" name
      if name.isEmpty || name.contains Byte.equals then
        call.abandon (ascii "cannot unset " ++ quoted name ++ ascii ": Invalid argument")
      environment := without environment name
  let assignments := operands.takeWhile fun word => word.contains Byte.equals
  for entry in assignments do
    tell "setenv" entry
    environment := setEntry environment entry
  match operands.drop assignments.length with
  | [] => do
      if read.has "C" then
        call.misuse (ascii "must specify command with --chdir (-C)")
      let ending := if read.has "0" then [0] else [Byte.newline]
      Call.put (environment.entries.flatMap (· ++ ending))
      return 0
  | words => do
      if read.has "0" then
        call.misuse (ascii "cannot specify --null (-0) with command")
      if let some path := read.last? "C" then
        tell "chdir" (quoted path)
        match find (← Work.files) (← Work.here) path with
        | .ok ⟨location, _, .directory _ _⟩ =>
            Work.changeProcess fun process => { process with here := location }
        | .ok _ =>
            call.abandon (ascii "cannot change directory to " ++ quotedName path ++ ascii ": " ++
              SystemError.text .notDirectory)
        | .error error =>
            call.abandon (ascii "cannot change directory to " ++ quotedName path ++ ascii ": " ++
              error.text)
      if read.has "v" then
        Call.tell (ascii "executing: " ++ words.headD [] ++ [Byte.newline])
        for (word, index) in words.zipIdx do
          Call.tell (ascii "   arg[" ++ Bytes.ofNat index ++ ascii "]= " ++ quoted word ++
            [Byte.newline])
      match ← resolve environment words with
      | .ok job => launcher environment job
      | .error error => do
          call.complain (quoted (words.headD []) ++ ascii ": " ++ error.text)
          if error == .notFound && ((words.headD []).contains Byte.space) then
            call.complain (ascii "use -[v]S to pass options in shebang lines")
          return refusalCode error

def timeoutCode : Nat := 124

def signalOf? (word : Bytes) : Option Nat :=
  match Bytes.toNat? word with
  | some number => if number ≤ Signal.last then some number else none
  | none =>
      let upper := word.map Byte.toUpper
      Signal.ofName? (if (ascii "SIG").isPrefixOf upper then upper.drop 3 else upper)

def timeout (launcher : Launcher) (call : Call) : Work Nat := do
  let call := { call with trouble := launchTrouble }
  let read ← call.parseFront
    [.of "k" "kill-after" .argument, .of "s" "signal" .argument, .of "v" "verbose" .nothing,
      .of "" "foreground" .nothing, .of "" "preserve-status" .nothing]
  let invalid {α : Type} (word : Bytes) : Work α :=
    call.misuse (ascii "invalid time interval " ++ quoted word)
  if let some word := read.last? "k" then
    if (time? word).isNone then invalid word
  let signal ←
    match read.last? "s" with
    | none => pure Signal.terminate
    | some word =>
        match signalOf? word with
        | some signal => pure signal
        | none => call.misuse (quoted word ++ ascii ": invalid signal")
  match read.operands with
  | [] | [_] => call.referToHelp
  | duration :: words => do
      match time? duration with
      | none => invalid duration
      | some nanoseconds => do
          match ← resolve call.environment words with
          | .error error => do
              call.complain (ascii "failed to run command " ++ quoted (words.headD []) ++
                ascii ": " ++ error.text)
              return refusalCode error
          | .ok job => do
              let before ← Work.machine
              let limit := before.clock + nanoseconds
              let deadline :=
                if nanoseconds == 0 then before.deadline
                else some (min limit (before.deadline.getD limit))
              Work.changeMachine fun machine => { machine with deadline }
              let result ← ExceptT.mk
                (return .ok (← (Work.asProcess (Work.ending
                  (launcher call.environment job))).run))
              Work.changeMachine fun machine => { machine with deadline := before.deadline }
              match result with
              | .ok (.exited code) => return code
              | .ok (.signaled signal) => throw (.ended (.signaled signal))
              | .error .asleep =>
                  if deadline == some limit then
                    Work.changeMachine fun machine => { machine with clock := limit }
                    if signal == Signal.kill then throw (.ended (.signaled signal))
                    else
                      return if read.has "preserve-status" then 128 + signal else timeoutCode
                  else throw .asleep
              | .error stop => throw stop

end TradeLocal.Programs

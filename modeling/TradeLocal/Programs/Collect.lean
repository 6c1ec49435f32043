import TradeLocal.Programs.Launch

/-!
# Arguments that are read

`xargs` runs a program with what it reads as arguments.  A text is cut into words, which quotes
and backslashes may hold together, and into lines; the words are gathered up to some limit and
then given to the program.
-/

namespace TradeLocal.Programs

open TradeLocal.Host TradeLocal.Numeral

/-- What is found in a text, one behind the other. -/
inductive Reading where
  | word (text : Bytes)
  /-- The line ends. -/
  | ending
  /-- There is something to be said about the text. -/
  | remark (text : Bytes)
  /-- Nothing more can be read. -/
  | failure (text : Bytes)

inductive ReadingMode where
  | between
  | within
  | quoted (quote : UInt8)
  | escaped
  deriving DecidableEq

structure WordCutting where
  /-- Blanks do not end words. -/
  isWhole : Bool
  /-- The word at which the text ends. -/
  last? : Option Bytes
  /-- From which length on a word is too long. -/
  room : Nat

structure Unfinished where
  mode : ReadingMode := .between
  /-- The bytes of the word, the last one first. -/
  word : Bytes := []
  /-- No word stands before it in the line. -/
  isFirst : Bool := true
  /-- Nothing has been said about bytes that cannot be kept. -/
  isPlain : Bool := true

namespace WordCutting

def unmatched (quote : UInt8) : Reading :=
  .failure (ascii "unmatched " ++
    (if quote == Byte.singleQuote then ascii "single" else ascii "double") ++
    ascii " quote; by default quotes are special to xargs unless you use the -0 option")

def nullRemark : Bytes :=
  ascii ("WARNING: a NUL character occurred in the input.  It cannot be passed through in the " ++
    "argument list.  Did you mean to use the --null option?")

def read (cutting : WordCutting) : Unfinished → Bytes → List Reading
  | state, [] =>
      let word := state.word.reverse
      if word.isEmpty then []
      else
        match state.mode with
        | .quoted quote => [unmatched quote]
        | _ => if state.isFirst && cutting.last? == some word then [] else [.word word]
  | state, byte :: rest =>
      let push : List Reading :=
        if cutting.room ≤ state.word.length + 1 then
          [.failure (ascii "argument line too long")]
        else
          let state := { state with word := byte :: state.word, mode := .within }
          if byte == 0 && state.isPlain then
            .remark nullRemark :: cutting.read { state with isPlain := false } rest
          else cutting.read state rest
      match state.mode with
      | .escaped => push
      | .quoted quote =>
          if byte == Byte.newline then [unmatched quote]
          else if byte == quote then cutting.read { state with mode := .within } rest
          else if cutting.room ≤ state.word.length + 1 then
            [.failure (ascii "argument line too long")]
          else cutting.read { state with word := byte :: state.word } rest
      | mode =>
          let word := state.word.reverse
          if mode == .between && Byte.isSpace byte then cutting.read state rest
          else if byte == Byte.newline then
            if cutting.last? == some word then []
            else .word word :: .ending :: cutting.read { isPlain := state.isPlain } rest
          else if Byte.isBlank byte && !cutting.isWhole then
            if cutting.last? == some word then []
            else
              .word word ::
                cutting.read { state with word := [], mode := .between, isFirst := false } rest
          else if byte == Byte.backslash then cutting.read { state with mode := .escaped } rest
          else if byte == Byte.singleQuote || byte == Byte.doubleQuote then
            cutting.read { state with mode := .quoted byte } rest
          else push

end WordCutting

def cutAt (separator : UInt8) (text : Bytes) : List Reading :=
  let pieces := Bytes.splitOn separator text
  (if pieces.getLast? == some [] then pieces.dropLast else pieces).flatMap fun piece =>
    [.word piece, .ending]

/-- The exit codes when a program that was run has failed, when it asked for an end, and when it
was ended by a signal. -/
def failedCode : Nat := 123
def stoppedCode : Nat := 124
def killedCode : Nat := 125

def argumentRoom : Nat := 131072

structure Collecting where
  call : Call
  launcher : Launcher
  command : List Bytes
  /-- The text in the command that words replace. -/
  mark? : Option Bytes := none
  /-- How many words and lines are given at once, if that is limited. -/
  words? : Option Nat := none
  lines? : Option Nat := none
  /-- How much room there is for arguments. -/
  room : Nat := argumentRoom
  /-- Nothing is run when the room is too small for the words that belong together. -/
  isStrict : Bool := false
  /-- Nothing is run without words. -/
  needsWords : Bool := false
  /-- What is run is told. -/
  isTold : Bool := false
  /-- One is asked before something is run. -/
  isAsked : Bool := false
  /-- What is run has nothing to read. -/
  takesInput : Bool := true

structure Gathered where
  /-- The words for the next run, the last one first. -/
  words : List Bytes := []
  lines : Nat := 0
  hasRun : Bool := false
  code : Nat := 0

def replaceAll (old new : Bytes) : Nat → Bytes → Bytes
  | 0, text => text
  | _, [] => []
  | fuel + 1, byte :: rest =>
      if !old.isEmpty && old.isPrefixOf (byte :: rest) then
        new ++ replaceAll old new fuel ((byte :: rest).drop old.length)
      else byte :: replaceAll old new fuel rest

namespace Collecting

/-- Run the words of a command.  Says whether it failed. -/
def launch (collecting : Collecting) (words : List Bytes) : Work Bool := do
  let call := collecting.call
  let words := words.map Bytes.cutAtNul
  let name := words.headD []
  let shown := Bytes.join Byte.space (words.map shownName)
  if collecting.isAsked then
    Call.tell shown
    call.abandon (ascii "failed to open /dev/tty for reading: No such device or address")
  if collecting.isTold then Call.tell (shown ++ [Byte.newline])
  match ← resolve call.environment words with
  | .error error => do
      call.complain (name ++ ascii ": " ++ error.text)
      Work.exit (refusalCode error)
  | .ok job =>
      let start : Work Nat := do
        if collecting.takesInput then
          if let .ok number ← Work.openFile .reading (ascii "/dev/null") then
            Work.setDescriptor 0 number
        collecting.launcher call.environment job
      match ← Work.asProcess (Work.ending start) with
      | .exited 0 => return false
      | .exited 255 => do
          call.complain (name ++ ascii ": exited with status 255; aborting")
          Work.exit stoppedCode
      | .exited _ => return true
      | .signaled signal => do
          call.complain (name ++ ascii ": terminated by signal " ++ Bytes.ofNat signal)
          Work.exit killedCode

def run (collecting : Collecting) (gathered : Gathered) : Work Gathered := do
  let failed ← collecting.launch (collecting.command ++ gathered.words.reverse)
  return { hasRun := true, code := if failed then failedCode else gathered.code }

def size (words : List Bytes) : Nat :=
  words.foldl (fun size word => size + word.length + 1) 0

/-- Gather a word, after a run if there is no room for it. -/
def gather (collecting : Collecting) (gathered : Gathered) (word : Bytes) : Work Gathered := do
  let call := collecting.call
  let mut gathered := gathered
  let isLimited := collecting.words?.isSome || collecting.lines?.isSome
  if collecting.room < size (word :: gathered.words ++ collecting.command) then
    if gathered.words.isEmpty then
      call.abandon (ascii "cannot fit single argument within argument list size limit")
    if collecting.isStrict && isLimited then call.abandon (ascii "argument list too long")
    gathered ← collecting.run gathered
  if collecting.words? == some gathered.words.length then gathered ← collecting.run gathered
  return { gathered with words := word :: gathered.words }

def step (collecting : Collecting) (gathered : Gathered) : Reading → Work Gathered
  | .remark text => do
      collecting.call.complain text
      return gathered
  | .failure text => do
      collecting.call.complain text
      if !gathered.words.isEmpty && !collecting.isStrict then
        let _ ← collecting.run gathered
      Work.exit collecting.call.trouble
  | .ending =>
      let lines := gathered.lines + 1
      if collecting.lines?.any (· ≤ lines) then collecting.run gathered
      else return { gathered with lines }
  | .word word =>
      match collecting.mark? with
      | none => collecting.gather gathered word
      | some mark => do
          let (name, arguments) := (collecting.command.take 1, collecting.command.drop 1)
          let words := arguments.map fun (argument : Bytes) =>
            replaceAll mark word (argument.length + 1) argument
          let failed ← collecting.launch (name ++ words)
          return { hasRun := true, code := if failed then failedCode else gathered.code }

def runAll (collecting : Collecting) (readings : List Reading) : Work Nat := do
  if collecting.mark?.isNone && collecting.room < size collecting.command then
    collecting.call.abandon
      (ascii "cannot fit single argument within argument list size limit")
  let gathered ← readings.foldlM collecting.step {}
  let isLast := !gathered.words.isEmpty || (!collecting.needsWords && !gathered.hasRun)
  if isLast && collecting.mark?.isNone then return (← collecting.run gathered).code
  else return gathered.code

end Collecting

def givenCount (call : Call) (letter : String) (least : Int) (word : Bytes) : Work Nat := do
  match readInteger? (some 10) word with
  | some (value, []) =>
      if value < least then
        call.misuse (ascii "value " ++ word ++ ascii " for -" ++ ascii letter ++
          ascii " option should be >= " ++ Bytes.ofInt least)
      else return value.toNat
  | _ =>
      call.misuse (ascii "invalid number \"" ++ word ++ ascii "\" for -" ++ ascii letter ++
        ascii " option")

def delimiterLetters : List (UInt8 × UInt8) :=
  [('a', 7), ('b', 8), ('f', 12), ('n', 10), ('r', 13), ('t', 9), ('v', 11), ('\\', 92)].map
    fun (letter, byte) => (Byte.ofChar letter, byte)

def delimiterOf (call : Call) (word : Bytes) : Work UInt8 := do
  match word with
  | [byte] => return byte
  | Byte.backslash :: letter :: rest =>
      let digits := (if letter == Byte.ofChar 'x' then rest else letter :: rest)
      let base := if letter == Byte.ofChar 'x' then 16 else 8
      match delimiterLetters.lookup letter, readInteger? (some base) digits with
      | some byte, _ => return byte
      | none, some (value, []) => return UInt8.ofNat value.toNat
      | none, _ =>
          call.abandon (ascii "Invalid escape sequence " ++ word ++
            ascii " in input delimiter specification.")
  | _ =>
      call.abandon (ascii "Invalid input delimiter specification " ++ word ++
        ascii (": the delimiter must be either a single character or an escape sequence " ++
          "starting with \\."))

def collectForms : List OptionForm :=
  [.of "0" "null" .nothing, .of "n" "max-args" .argument, .of "I" "" .argument,
    .of "i" "replace" .optional, .of "L" "" .argument, .of "l" "max-lines" .optional,
    .of "d" "delimiter" .argument, .of "r" "no-run-if-empty" .nothing,
    .of "t" "verbose" .nothing, .of "p" "interactive" .nothing, .of "s" "max-chars" .argument,
    .of "P" "max-procs" .argument, .of "x" "exit" .nothing, .of "a" "arg-file" .argument,
    .of "E" "" .argument, .of "e" "eof" .optional, .of "o" "open-tty" .nothing]

/-- What the options that exclude each other say, the last of them being the one that counts. -/
def readLimits (call : Call) (given : Given) (collecting : Collecting) : Work Collecting := do
  let word := given.argument.getD []
  let warn (isSet : Bool) (old new : String) : Work Unit := do
    if isSet then
      call.complain (ascii ("warning: options " ++ old ++ " and " ++ new ++
        " are mutually exclusive, ignoring previous " ++ old ++ " value"))
  let isKey (key : String) : Bool := given.key == ascii key
  if isKey "n" then
    let count ← givenCount call "n" 1 word
    if count == 1 && collecting.mark?.isSome then return collecting
    else
      warn collecting.lines?.isSome "--max-lines" "--max-args/-n"
      warn collecting.mark?.isSome "--replace" "--max-args/-n"
      return { collecting with words? := some count, lines? := none, mark? := none }
  else if isKey "L" || isKey "l" then
    let count ← if isKey "l" && given.argument.isNone then pure 1
      else givenCount call (if isKey "l" then "l" else "L") 1 word
    let name := if isKey "l" then "--max-lines/-l" else "-L"
    warn collecting.words?.isSome "--max-args" name
    warn collecting.mark?.isSome "--replace" name
    return { collecting with words? := none, lines? := some count, mark? := none }
  else if isKey "I" || isKey "i" then
    warn collecting.words?.isSome "--max-args" "--replace/-I/-i"
    warn collecting.lines?.isSome "--max-lines" "--replace/-I/-i"
    let mark := given.argument.getD (ascii "\x7b\x7d")
    return { collecting with words? := none, lines? := none, mark? := some mark }
  else if isKey "s" then
    return { collecting with room := min argumentRoom (← givenCount call "s" 1 word) }
  else
    if isKey "P" then
      let _ ← givenCount call "P" 0 word
    if isKey "d" then
      let _ ← delimiterOf call word
    return collecting

def xargs (launcher : Launcher) (call : Call) : Work Nat := do
  let read ← call.parseFront collectForms
  let command := if read.operands.isEmpty then [ascii "echo"] else read.operands
  let input := (read.last? "a").getD [Byte.hyphen]
  let start : Collecting :=
    { call, launcher, command, isStrict := read.has "x", needsWords := read.has "r"
      isTold := read.has "t", isAsked := read.has "p", takesInput := input = [Byte.hyphen] }
  let collecting ← read.options.foldlM (fun collecting given => readLimits call given collecting)
    start
  if (read.has "E" || read.has "e") && (read.has "0" || read.has "d") then
    call.complain (ascii "warning: the -E option has no effect if -0 or -d is used.\n")
  let contents ← Call.contents input
  let text ←
    match contents with
    | .ok text => pure text
    | .error error =>
        if error == .notFound || error == .notDirectory then
          call.abandon (ascii "Cannot open input file " ++ quoted input ++ ascii ": " ++ error.text)
        else pure []
  let readings ←
    match read.lastOf? ["0", "d"] with
    | some key => do
        let separator ←
          if key == ascii "0" then pure 0 else delimiterOf call ((read.last? "d").getD [])
        pure (cutAt separator text)
    | none =>
        let last? := ((read.lastOf? ["E", "e"]).bind fun key =>
          read.last? (if key == ascii "E" then "E" else "e")).filter (!·.isEmpty)
        let used := if collecting.mark?.isSome then 0 else Collecting.size command
        let cutting : WordCutting :=
          { isWhole := collecting.mark?.isSome, last?, room := collecting.room - used - 1 }
        pure (cutting.read {} text)
  let code ← collecting.runAll readings
  if let .error .isDirectory := contents then call.abandon (ascii "error closing file")
  return if ← call.closeInput [input] "error closing file" then code else 1

end TradeLocal.Programs

import TradeLocal.Numeral.Directive
import TradeLocal.Shell.Builtin.Options
import TradeLocal.Shell.Field
import TradeLocal.Shell.Search
import TradeLocal.Shell.Variable

/-!
# Settings

The builtins that change and list what a shell keeps: its variables, arguments, options,
aliases and functions.
-/

namespace TradeLocal.Shell

open TradeLocal.Host TradeLocal.Numeral

namespace Script

/-- Give marks to variables, and values where words have them; or list those with the mark. -/
def markVariables (name : Bytes) (marks : Marks) (isMarked : Variable → Bool)
    (words : List Bytes) : Script Nat := do
  let (read, words) ← options "p" words
  if !read.isEmpty || words.isEmpty then list name isMarked
  else
    for word in words do
      let (variableName, value) := splitAssignment word
      match value, (← context).binding? word with
      | none, some present =>
          changeContext fun context =>
            context.put
              { present with
                isExported := present.isExported || marks.isExported
                isReadOnly := present.isReadOnly || marks.isReadOnly }
      | _, _ => do
          checkName variableName
          assignMarked variableName value marks
  return 0

def makeAllLocal (words : List Bytes) : Script Nat := do
  if (← context).scopes.isEmpty then fail (ascii "not in a function")
  for word in words do makeLocal word false
  return 0

def unset (words : List Bytes) : Script Nat := do
  let (read, words) ← options "vf" words
  let isFunction := (read.getLast?.map Prod.fst) == some (Byte.ofChar 'f')
  for word in words do
    if isFunction then
      changeContext fun context =>
        { context with functions := context.functions.filter (·.1 != word) }
    else unassign word
  return 0

def setArguments (arguments : List Bytes) : Script Unit :=
  changeContext fun context =>
    { context with arguments, optionIndex := 1, optionOffset := none }

def turn (flag : Flag) (isOn : Bool) (flags : List Flag) : List Flag :=
  let others := flags.filter (· != flag)
  if !isOn then others
  else
    match flag with
    | .vi => flag :: others.filter (· != .emacs)
    | .emacs => flag :: others.filter (· != .vi)
    | _ => flag :: others

def setFlag (flag : Flag) (isOn : Bool) : Script Unit :=
  changeContext fun context => { context with flags := turn flag isOn context.flags }

def listFlags (inWords : Bool) : Script Unit := do
  let flags := (← context).flags
  if inWords then out (ascii "Current option settings\n")
  for (flag, name, _) in Flag.table do
    let isOn := flags.contains flag
    if inWords then
      out (name ++ List.replicate (16 - name.length) Byte.space ++
        ascii (if isOn then "on" else "off") ++ [Byte.newline])
    else out (ascii (if isOn then "set -o " else "set +o ") ++ name ++ [Byte.newline])

def setFlagNamed (name : Bytes) (isOn : Bool) : Script Unit := do
  match Flag.table.find? (·.2.1 == name) with
  | some (flag, _, _) => setFlag flag isOn
  | none => fail (ascii "Illegal option -o " ++ name)

def setFlagLetter (letter : UInt8) (isOn : Bool) : Script Unit := do
  match Flag.table.find? (·.2.2 == some letter) with
  | some (flag, _, _) => setFlag flag isOn
  | none => fail (ascii "Illegal option -" ++ [letter])

/-- Set the options of a word of letters.  An `o` takes its name from the words behind. -/
def setFlagLetters (isOn : Bool) : Bytes → List Bytes → Script (List Bytes)
  | [], words => return words
  | letter :: letters, words => do
      if letter != Byte.ofChar 'o' then
        setFlagLetter letter isOn
        setFlagLetters isOn letters words
      else
        match words with
        | [] => do
            listFlags isOn
            setFlagLetters isOn letters []
        | name :: words => do
            setFlagNamed name isOn
            setFlagLetters isOn letters words

def setOptions : Nat → List Bytes → Script Unit
  | 0, _ => pure ()
  | _, [] => pure ()
  | fuel + 1, word :: words => do
      match word with
      | [Byte.hyphen] => do
          setFlag .xtrace false
          setFlag .verbose false
          unless words.isEmpty do setArguments words
      | [Byte.hyphen, Byte.hyphen] => setArguments words
      | Byte.hyphen :: letters => do setOptions fuel (← setFlagLetters true letters words)
      | Byte.plus :: letters => do setOptions fuel (← setFlagLetters false letters words)
      | _ => setArguments (word :: words)

/-- Children cannot be controlled without a terminal. -/
def refuseControl : Script Unit := do
  if ← isOn .monitor then
    complain (ascii "can't access tty; job control turned off")
    setFlag .monitor false

def set (words : List Bytes) : Script Nat := do
  if words.isEmpty then list [] fun present => present.value.isSome
  else
    setOptions (words.length + 1) words
    refuseControl
  return 0

def shift (words : List Bytes) : Script Nat := do
  let count ←
    match words with
    | [] => pure 1
    | word :: _ => number word
  let arguments := (← context).arguments
  if arguments.length < count then fail (ascii "can't shift that many")
  setArguments (arguments.drop count)
  return 0

def reportOption (start : String) (letter : UInt8) (last : String) : Script Unit :=
  err (ascii start ++ letter :: ascii last ++ [Byte.newline])

/-- Take the next option from arguments.  The letters begin with a colon if the shell is not to
report what is wrong. -/
def nextOption (letters name : Bytes) (arguments : List Bytes) (index : Nat)
    (offset : Option Nat) : Script Nat := do
  let isSilent := letters.head? == some Byte.colon
  let letters := if isSilent then letters.tail else letters
  let word := if index ≤ 1 then [] else (arguments[index - 2]?).getD []
  let pending := if index ≤ 1 then [] else (offset.map word.drop).getD []
  let finish (letter : UInt8) (index : Nat) (offset : Option Nat) (status : Nat) :
      Script Nat := do
    assignMarked optionIndexName (some (Bytes.ofNat index)) {}
    checkName name
    assignMarked name (some [letter]) {}
    changeContext fun context => { context with optionIndex := index, optionOffset := offset }
    return status
  let argumentName := ascii "OPTARG"
  /- The letters left of the word before `index`, which is as long as `length` says. -/
  let take (pending : Bytes) (length index : Nat) : Script Nat := do
    match pending with
    | [] => finish Byte.question index none 1
    | letter :: rest => do
        let place := if rest.isEmpty then some length else some (length - rest.length)
        match letters.dropWhile (· != letter) with
        | [] => do
            if isSilent then assign argumentName [letter]
            else do
              reportOption "Illegal option -" letter ""
              unassign argumentName
            finish Byte.question index place 0
        | _ :: behind =>
            if behind.head? != some Byte.colon then
              assign argumentName []
              finish letter index place 0
            else if !rest.isEmpty then
              assign argumentName rest
              finish letter index none 0
            else
              match arguments[index - 1]? with
              | some argument => do
                  assign argumentName argument
                  finish letter (index + 1) none 0
              | none =>
                  if isSilent then do
                    assign argumentName [letter]
                    finish Byte.colon index place 0
                  else do
                    reportOption "No arg for -" letter " option"
                    unassign argumentName
                    finish Byte.question index place 0
  if !pending.isEmpty then take pending word.length index
  else
    match arguments[index - 1]? with
    | some [Byte.hyphen, Byte.hyphen] => finish Byte.question (index + 1) none 1
    | some (Byte.hyphen :: letter :: more) =>
        take (letter :: more) (more.length + 2) (index + 1)
    | _ => finish Byte.question index none 1

def getOptions (words : List Bytes) : Script Nat := do
  match words with
  | letters :: name :: given => do
      let context ← context
      let arguments := if given.isEmpty then context.arguments else given
      let starts := arguments.length + 1 < context.optionIndex
      nextOption letters name arguments (if starts then 1 else context.optionIndex)
        (if starts then none else context.optionOffset)
  | _ => fail (ascii "Usage: getopts optstring var [arg...]")

/-- Write an alias such that it can be read back. -/
def listAlias (name value : Bytes) : Script Unit :=
  out (name ++ Byte.equals :: singleQuoted value ++ [Byte.newline])

def listedAliases (aliases : List (Bytes × Bytes)) : List (Bytes × Bytes) :=
  (List.range Context.chainCount).flatMap fun number =>
    aliases.filter fun (name, _) => Context.chain name == number

def putAlias (name value : Bytes) (aliases : List (Bytes × Bytes)) : List (Bytes × Bytes) :=
  if aliases.any (·.1 == name) then
    aliases.map fun present => if present.1 = name then (name, value) else present
  else aliases ++ [(name, value)]

/-- Split a word at an equals sign that is not its first byte. -/
def aliasDefinition? (word : Bytes) : Option (Bytes × Bytes) :=
  match word.tail.dropWhile (· != Byte.equals) with
  | [] => none
  | _ :: value => some (word.take (word.length - value.length - 1), value)

def setAliases (words : List Bytes) : Script Nat := do
  if words.isEmpty then
    for (name, value) in listedAliases (← context).aliases do listAlias name value
    return 0
  else
    words.foldlM
      (fun status word => do
        match aliasDefinition? word with
        | some (name, value) => do
            changeContext fun context =>
              { context with aliases := putAlias name value context.aliases }
            return status
        | none =>
            match (← context).aliases.lookup word with
            | some value => do
                listAlias word value
                return status
            | none => do
                err (ascii "alias: " ++ word ++ ascii " not found\n")
                return 1)
      0

def removeAliases (words : List Bytes) : Script Nat := do
  let (read, words) ← options "a" words
  if !read.isEmpty then
    changeContext fun context => { context with aliases := [] }
    return 0
  else
    words.foldlM
      (fun status word => do
        let present := (← context).aliases
        if present.any (·.1 == word) then
          changeContext fun context =>
            { context with aliases := present.filter (·.1 != word) }
          return status
        else
          err (ascii "unalias: " ++ word ++ ascii " not found\n")
          return 1)
      0

/-- A line that is being read: the stretches of it, the latest first. -/
structure LineRead where
  spans : List Span := []
  run : List Glyph := []
  isEscaped : Bool := false

namespace LineRead

def flush (read : LineRead) : LineRead :=
  { read with spans := ⟨.split, read.run.reverse⟩ :: read.spans, run := [] }

def step (isRaw : Bool) (read : LineRead) (byte : UInt8) : Option LineRead :=
  if byte == 0 then some read
  else if read.isEscaped then
    let flushed := { read.flush with isEscaped := false }
    if byte == Byte.newline then some flushed
    else some { flushed with spans := ⟨.whole, [.byte byte true]⟩ :: flushed.spans }
  else if !isRaw && byte == Byte.backslash then some { read with isEscaped := true }
  else if byte == Byte.newline then none
  else some { read with run := .byte byte false :: read.run }

/-- Take in a text up to the end of the line; the rest is there if the line ends. -/
def steps (isRaw : Bool) : LineRead → Bytes → LineRead × Option Bytes
  | read, [] => (read, none)
  | read, byte :: rest =>
      match read.step isRaw byte with
      | none => (read, some rest)
      | some read => steps isRaw read rest

end LineRead

def readLength : Nat := 65536

/-- Read a line from standard input.  Says whether it is complete. -/
def readInputLine (isRaw : Bool) : Script (LineRead × Bool) :=
  iterate
    (fun read => do
      match ← work (Work.read readLength 0) with
      | .error _ | .ok [] => return .inr (read, false)
      | .ok piece =>
          match LineRead.steps isRaw read piece with
          | (read, none) => return .inl read
          | (read, some rest) => do
              work (Work.unread 0 rest)
              return .inr (read, true))
    (throw (.stop .exhausted)) repetitionLimit ({} : LineRead)

/-- Give values to variables in turn, the empty text to those left. -/
def assignFields : List Bytes → List (List Glyph) → Script Unit
  | [], _ => pure ()
  | name :: names, fields => do
      assign name (Glyph.bytes (fields.headD []))
      assignFields names fields.tail

def read (separators : Bytes) (words : List Bytes) : Script Nat := do
  let (read, names) ← options "p:r" words
  if names.isEmpty then fail (ascii "arg count")
  let (line, isComplete) ← readInputLine (read.any (·.1 == Byte.ofChar 'r'))
  assignFields names (divide separators (some names.length) line.flush.spans.reverse)
  return if isComplete then 0 else 1

def maskText (mask : Nat) : Bytes :=
  let letters (name : String) (shift : Nat) : Bytes :=
    let bit (letter : String) (value : Nat) : Bytes :=
      if mask >>> shift &&& value == 0 then ascii letter else []
    ascii name ++ Byte.equals :: (bit "r" 4 ++ bit "w" 2 ++ bit "x" 1)
  Bytes.join (Byte.ofChar ',') [letters "u" 6, letters "g" 3, letters "o" 0]

def permissionBits (letter : UInt8) : Nat :=
  if letter == Byte.ofChar 'r' then 4
  else if letter == Byte.ofChar 'w' then 2
  else if letter == Byte.ofChar 'x' || letter == Byte.ofChar 'X' then 1
  else 0

def applyClause (permissions : Nat) (clause : Bytes) : Option Nat :=
  let classes := clause.takeWhile (ascii "augo").contains
  let places := classes.foldl
    (fun places letter =>
      places ||| (if letter == Byte.ofChar 'u' then 0o100
        else if letter == Byte.ofChar 'g' then 0o010
        else if letter == Byte.ofChar 'o' then 0o001
        else 0o111)) 0
  let places := if places == 0 then 0o111 else places
  match clause.drop classes.length with
  | sign :: letters =>
      if !letters.all (ascii "rwxugoXs").contains then none
      else
        let bits := letters.foldl (fun bits letter => bits ||| permissionBits letter) 0 * places
        if sign == Byte.hyphen then some (permissions - (permissions &&& bits))
        else if sign == Byte.plus then some (permissions ||| bits)
        else if sign == Byte.equals then
          some (permissions - (permissions &&& (places * 7)) ||| bits)
        else none
  | [] => none

def allPermissions : Nat := 0o777

def changeMask (words : List Bytes) : Script Nat := do
  let (read, words) ← options "S" words
  let mask := (← work Work.process).mask
  let setMask (mask : Nat) : Script Nat := do
    work (Work.changeProcess fun process => { process with mask })
    return 0
  match words with
  | [] => do
      let text := if read.isEmpty then zeroPadded 4 (inBase 8 mask) else maskText mask
      out (text ++ [Byte.newline])
      return 0
  | word :: _ =>
      if (word.head?.map Byte.isDigit).getD false then
        if word.all (isDigitOf 8) then setMask (ofDigits 8 word &&& allPermissions)
        else failNumber word
      else
        match (Bytes.splitOn (Byte.ofChar ',') word).foldlM applyClause
            (allPermissions - mask) with
        | some permissions => setMask (allPermissions - permissions)
        | none => fail (ascii "Illegal mode: " ++ word)

end Script

end TradeLocal.Shell

import TradeLocal.Shell.Builtin.Options
import TradeLocal.Shell.Builtin.Settings

/-!
# Control

The builtins that change the course of a script, run other texts, and tell what commands are.
-/

namespace TradeLocal.Shell

open TradeLocal.Host TradeLocal.Numeral

namespace Script

def jumpFromLoop (jump : Jump) (words : List Bytes) : Script Nat := do
  let levels ←
    match words with
    | [] => pure 1
    | word :: _ => do
        let levels ← number word
        if levels == 0 then failNumber word
        pure levels
  let levels := min levels (← context).loops
  if levels != 0 then
    changeContext fun context => { context with jump := some jump, levels }
  return 0

def returnFrom (words : List Bytes) : Script Nat := do
  let (status, hasStatus) ←
    match words with
    | [] => pure (← status, false)
    | word :: _ => pure (← number word, true)
  changeContext fun context => { context with jump := some (.returning hasStatus) }
  return status

def exit (words : List Bytes) : Script Nat := do
  match words with
  | [] => pure ()
  | word :: _ => do
      let status ← number word
      changeContext fun context => { context with savedStatus := some status }
  throw .exit

def eval (nested : Nested) (isTested : Bool) (words : List Bytes) : Script Nat := do
  if words.isEmpty then return 0
  else runLines nested { isTested } (Bytes.join Byte.space words)

def sourcePath (name : Bytes) : Script Bytes := do
  if name.contains Byte.slash then return name
  else
    let files ← work Work.files
    let here ← work Work.here
    let isFile (path : Bytes) : Bool :=
      match find files here path with
      | .ok found => found.node.isPlain
      | .error _ => false
    let paths := (Bytes.splitOn Byte.colon (← searchPath)).map fun directory =>
      pathIn directory name
    match paths.find? isFile with
    | some path => return path
    | none => fail (name ++ ascii ": not found")

def source (nested : Nested) (words : List Bytes) : Script Nat := do
  match ← withoutOptions words with
  | [] => return 0
  | name :: _ => do
      let path ← sourcePath name
      let number ← openPath .reading path
      let text := (← work (Work.readAllOpened number)).toOption.getD []
      changeContext fun context => { context with command? := some path }
      runFile nested false text

def exec (nested : Nested) (words : List Bytes) : Script Nat := do
  if words.isEmpty then return 0
  else replaceWith nested (← searchPath) none words

def describe (path? : Option Bytes) (atLength : Bool) (name : Bytes) : Script Nat := do
  let tell (brief long : Bytes) : Script Nat := do
    out (if atLength then name ++ long ++ [Byte.newline] else brief ++ [Byte.newline])
    return 0
  let context ← context
  if Token.keywords.contains name then tell name (ascii " is a shell keyword")
  else
    match context.aliases.lookup name with
    | some value =>
        tell (ascii "alias " ++ name ++ Byte.equals :: singleQuoted value)
          (ascii " is an alias for " ++ value)
    | none =>
        let isTracked := path?.isNone && (context.hashed.lookup name).isSome
        match ← findCommand { path?, checksPaths := true } name with
        | .builtin builtin =>
            tell name (ascii
              (if builtin.isSpecial then " is a special shell builtin"
                else " is a shell builtin"))
        | .function _ => tell name (ascii " is a shell function")
        | .program place => do
            let directories := Bytes.splitOn Byte.colon (path?.getD (← searchPath))
            let path :=
              match place with
              | none => name
              | some place => pathIn ((directories[place]?).getD []) name
            tell path (ascii (if isTracked then " is a tracked alias for " else " is ") ++ path)
        | .unknown => do
            if atLength then out (name ++ ascii ": not found\n")
            return notFoundStatus

def type (words : List Bytes) : Script Nat :=
  words.foldlM (fun status word => return status ||| (← describe none true word)) 0

def describeCommand (words : List Bytes) : Script Nat := do
  let (read, words) ← options "pvV" words
  let has (letter : Char) : Bool := read.any (·.1 == Byte.ofChar letter)
  match words with
  | [] => return 0
  | name :: _ =>
      if has 'v' || has 'V' then
        describe (if has 'p' then some standardPath else none) (has 'V') name
      else return 0

/-- How many chains the found programs are spread over when they are listed. -/
def hashChainCount : Nat := 31

def hash (words : List Bytes) : Script Nat := do
  let (read, words) ← options "r" words
  if !read.isEmpty then
    changeContext fun context => { context with hashed := [] }
    return 0
  else if words.isEmpty then
    let directories := Bytes.splitOn Byte.colon (← searchPath)
    let hashed := (← context).hashed
    for chain in List.range hashChainCount do
      for (name, place) in hashed do
        if Context.byteSum name % hashChainCount == chain then
          out (pathIn ((directories[place]?).getD []) name ++ [Byte.newline])
    return 0
  else
    words.foldlM
      (fun status word => do
        changeContext fun context =>
          { context with hashed := context.hashed.filter (·.1 != word) }
        match ← findCommand { reports := true } word with
        | .unknown => return 1
        | _ => return status)
      0

/-- The names of signals that this shell does not know. -/
def isNamed (signal : Nat) : Bool :=
  signal != 16 && signal != 32 && signal != 33

def signalName (signal : Nat) : Bytes :=
  if signal == 0 then ascii "EXIT"
  else if isNamed signal then Signal.name signal
  else Bytes.ofNat signal

def signalOfDigits? (word : Bytes) : Option Nat :=
  match Bytes.toNat? word with
  | some number => if number ≤ Signal.last then some number else none
  | none => none

/-- The signal with a number or name; 0 counts only if so wanted. -/
def signalOf? (withZero : Bool) (word : Bytes) : Option Nat :=
  match signalOfDigits? word with
  | some signal => some signal
  | none =>
      ((List.range (Signal.last + 1)).drop (if withZero then 0 else 1)).find? fun signal =>
        signalName signal == word.map Byte.toUpper

/-- Change what a signal does to the shell: nothing, a command, or what is usual. -/
def setTrap (signal : Nat) (command : Option Bytes) : Script Unit := do
  changeContext fun context =>
    { context with
      traps := (command.toList.map (signal, ·)) ++ context.traps.filter (·.1 != signal) }
  if signal != 0 then
    work (Work.changeProcess fun process =>
      { process with
        ignored :=
          (if command == some [] then [signal] else []) ++ process.ignored.filter (· != signal) })

def listTraps : Script Unit := do
  let traps := (← context).traps
  for signal in List.range (Signal.last + 1) do
    match traps.lookup signal with
    | none => pure ()
    | some command =>
        out (ascii "trap -- " ++ singleQuoted command ++ Byte.space :: signalName signal ++
          [Byte.newline])

/-- Set the command for signals in turn, up to one that is not known. -/
def setTraps (command : Option Bytes) : List Bytes → Script Nat
  | [] => return 0
  | word :: words => do
      match signalOf? true word with
      | none => do
          err (ascii "trap: " ++ word ++ ascii ": bad trap\n")
          return 1
      | some signal => do
          setTrap signal (if command == some [Byte.hyphen] then none else command)
          setTraps command words

def trap (words : List Bytes) : Script Nat := do
  match ← withoutOptions words with
  | [] => do
      listTraps
      return 0
  | [word] => setTraps none [word]
  | word :: words =>
      if (signalOfDigits? word).isSome then setTraps none (word :: words)
      else setTraps (some word) words

end Script

end TradeLocal.Shell

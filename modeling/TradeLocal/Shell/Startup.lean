import TradeLocal.Shell.Evaluate

/-!
# Starting a shell

A shell takes its options from its arguments and its variables from the environment.  It runs
a text given as an argument, a file, or what it reads from standard input.
-/

namespace TradeLocal.Shell

open TradeLocal.Host

namespace Script

/-- Set the options of a word of letters.  Says whether a `c` is among them. -/
def startLetters (isOn : Bool) : Bytes → List Bytes → Bool → Script (List Bytes × Bool)
  | [], words, runsArgument => return (words, runsArgument)
  | letter :: letters, words, runsArgument => do
      if letter == Byte.ofChar 'c' then startLetters isOn letters words true
      else if letter == Byte.ofChar 'l' then startLetters isOn letters words runsArgument
      else if letter != Byte.ofChar 'o' then
        setFlagLetter letter isOn
        startLetters isOn letters words runsArgument
      else
        match words with
        | [] => do
            let before := (← context).flags
            changeContext fun context => { context with flags := Flag.table.map Prod.fst }
            listFlags isOn
            let _ ← flush
            changeContext fun context => { context with flags := before }
            startLetters isOn letters [] runsArgument
        | name :: words => do
            setFlagNamed name isOn
            startLetters isOn letters words runsArgument

def startOptions : Nat → List Bytes → Bool → Script (List Bytes × Bool)
  | 0, words, runsArgument => return (words, runsArgument)
  | _, [], runsArgument => return ([], runsArgument)
  | fuel + 1, word :: words, runsArgument => do
      match word with
      | [Byte.hyphen] | [Byte.hyphen, Byte.hyphen] => return (words, runsArgument)
      | Byte.hyphen :: letters => do
          let (words, runsArgument) ← startLetters true letters words runsArgument
          startOptions fuel words runsArgument
      | Byte.plus :: letters => do
          let (words, runsArgument) ← startLetters false letters words runsArgument
          startOptions fuel words runsArgument
      | _ => return (word :: words, runsArgument)

def firstVariables : List Variable :=
  [("PATH", some standardPath), ("PS1", some (ascii "# ")), ("PS2", some (ascii "> ")),
    ("PS4", some (ascii "+ ")), ("OPTIND", some (ascii "1")), ("MAIL", none),
    ("MAILPATH", none), ("TERM", none), ("HISTSIZE", none)].map
    fun (name, value) => { name := ascii name, value, isFixed := true }

def importEntry (context : Context) (entry : Bytes) : Context :=
  let (name, value) := splitAssignment entry
  if value.isNone || !Bytes.isVariableName name then context
  else
    match context.binding? name with
    | some present => context.put { present with value, isExported := true }
    | none => context.put { name, value, isExported := true }

/-- Give a variable a value that the environment does not change. -/
def keepVariable (context : Context) (name value : Bytes) : Context :=
  match context.binding? name with
  | some present => context.put { present with value := some value }
  | none => context.put { name, value := some value }

def startContext (environment : Environment) (name : Bytes) (process : Process) : Context :=
  let imported := environment.entries.foldl importEntry { name, bindings := firstVariables }
  let kept :=
    [(ascii "IFS", [Byte.space, 9, Byte.newline]), (optionIndexName, ascii "1"),
      (ascii "PPID", Bytes.ofNat (process.ancestors.headD 0))].foldl
      (fun context (name, value) => keepVariable context name value) imported
  { kept with
    rootProcess := process.number
    traps := process.ignored.map fun signal => (signal, []) }

def openScript (path : Bytes) : Script Bytes := do
  let number ← openPath .reading path
  return (← work (Work.readAllOpened number)).toOption.getD []

def main (nested : Nested) (words : List Bytes) : Script Unit := do
  startDirectory
  let (words, runsArgument) ← startOptions (words.length + 1) words false
  match words with
  | [] => do
      if runsArgument then fail (ascii "-c requires an argument")
      setFlag .stdin true
  | _ => pure ()
  let readsInput ← isOn .stdin
  let begin (arguments : List Bytes) : Script Unit := do
    changeContext fun context => { context with arguments }
    refuseControl
  if runsArgument then
    let name? := (words.tail).head?
    changeContext fun context => { context with name := name?.getD context.name }
    begin (words.drop 2)
    let _ ← runLines nested {} (words.headD [])
    if readsInput then
      let text := (← work (Work.readAll 0)).toOption.getD []
      let _ ← runFile nested true text
  else if readsInput then
    begin words
    let text := (← work (Work.readAll 0)).toOption.getD []
    let _ ← runFile nested true text
  else
    let path := words.headD []
    let text ← openScript path
    changeContext fun context => { context with name := path }
    begin words.tail
    let _ ← runFile nested true text

end Script

def start (nested : Nested) (environment : Environment) (words : List Bytes) : Work Nat := do
  let workplace ← get
  let context := Script.startContext environment (words.headD []) workplace.process
  let script : Script Nat := do
    let result ← Script.attempt do
      Script.leaveShell nested (← Script.attempt (Script.main nested words.tail))
    Script.settleNow nested
    match result with
    | .ok code => return code
    | .error leave => throw leave
  let (result, state) := script.run.run { workplace, context }
  set state.workplace
  match result with
  | .ok code => return code
  | .error (.stop stop) => throw stop
  | .error _ => return Script.misuse

end TradeLocal.Shell

import TradeLocal.Shell.Builtin.Dispatch

/-!
# Evaluation

How the commands of a script are run.  A command is run where it stands: what follows it, and
whether its failure is looked at, decides how it ends.
-/

namespace TradeLocal.Shell

open TradeLocal.Host

namespace Script

def leading (descriptor number : Nat) (process : Process) : Process :=
  { process with
    descriptors := (descriptor, number) :: process.descriptors.filter (·.1 != descriptor) }

def output (nested : Nested) (command : Command) : Script Bytes := do
  if command.isNothing then return []
  else
    let _ ← claimSlot
    let pipe := (← work Work.machine).pipes.size
    let (reading, writing) ← work Work.makePipe
    let ending ← meanwhile nested do
      inCopy nested (leading 1 writing) (nested.command { isLast := true } command)
    waitForWriters nested pipe
    let text := (← work (Work.readAllOpened reading)).toOption.getD []
    mention ending
    changeContext fun context => { context with substituted := ending.shellCode }
    return (text.reverse.dropWhile (· == Byte.newline)).reverse.filter (· != 0)

/-- Find out where the program of a stage is, if it is a simple command whose first word is a
plain name. -/
def lookAhead (stage : Command) : Script Unit := do
  match stage with
  | .simple _ _ (word :: _) _ =>
      if let some name := Word.plain? word then
        if Bytes.isVariableName name then
          let _ ← findCommand {} name
  | _ => pure ()

def runStages (nested : Nested) (isTested : Bool) (input : Option Nat) :
    List Command → Script (List WaitStatus.Ending)
  | [] => return []
  | [stage] => do
      let change (process : Process) : Process :=
        match input with
        | some number => leading 0 number process
        | none => process
      lookAhead stage
      return [← inCopy nested change (nested.command { isLast := true, isTested } stage)]
  | stage :: rest => do
      let start := (← work Work.machine).clock
      let pipe := (← work Work.machine).pipes.size
      let (reading, writing) ← work Work.makePipe
      let change (process : Process) : Process :=
        let process :=
          match input with
          | some number => leading 0 number process
          | none => process
        leading 1 writing process
      lookAhead stage
      let ending ← inCopy nested change (nested.command { isLast := true, isTested } stage)
      waitForWriters nested pipe
      let finish := (← work Work.machine).clock
      work (Work.changeMachine fun machine => { machine with clock := start })
      let endings ← runStages nested isTested (some reading) rest
      work (Work.changeMachine fun machine =>
        { machine with clock := max machine.clock finish })
      return ending :: endings

def pipelineStatus (endings : List WaitStatus.Ending) : Nat :=
  (endings.getLast?.map WaitStatus.Ending.shellCode).getD 0

def defer (command : Command) (openings : List Opening) (isTested : Bool) (stages : Nat) :
    Script Unit := do
  let null? := (← work (Work.openFile .reading (ascii "/dev/null"))).toOption
  let state ← get
  let machine := state.workplace.machine
  let parent := state.workplace.process
  let process : Process :=
    { parent with
      number := machine.nextProcess
      ancestors := parent.number :: parent.ancestors
      ignored := Signal.interrupt :: Signal.quit :: parent.ignored }
  let process :=
    match null? with
    | some number => leading 0 number process
    | none => process
  let deferred : Deferred :=
    { process, context := copied state.context, command, openings, isTested
      start := machine.clock }
  work (Work.changeMachine fun machine => { machine with nextProcess := process.number + 1 })
  addChild process.number stages
  modify fun state => { state with deferred := state.deferred ++ [deferred] }

def runInBackground (nested : Nested) (deferred : Deferred) : Script Nat := do
  deferred.openings.forM (redirect (output nested))
  match deferred.command with
  | .pipeline stages _ =>
      let status := pipelineStatus (← runStages nested deferred.isTested none stages)
      setStatus status
      return status
  | command => nested.command { isLast := true, isTested := deferred.isTested } command

def expandFirst (nested : Nested) : List Word → Script (List Bytes × List Word)
  | [] => return ([], [])
  | word :: rest => do
      match ← expandArguments (output nested) word with
      | [] => expandFirst nested rest
      | words => return (words, rest)

structure Opener where
  /-- The words in front of the name of the command. -/
  front : List Bytes := []
  /-- The words from the name on, as far as they are expanded. -/
  words : List Bytes
  rest : List Word
  search : Search := {}
  finding : Finding := .unknown
  /-- Whether the first command named is a special builtin. -/
  isSpecial : Option Bool := none

def expandNext (nested : Nested) (words : List Bytes) (rest : List Word) :
    Script (List Bytes × List Word) := do
  if words.isEmpty then expandFirst nested rest else return (words, rest)

/-- Pass over the options of `command`.  Says whether another command is behind them. -/
def passOptions (nested : Nested) : Nat → Opener → Script (Opener × Bool)
  | 0, opener => return (opener, false)
  | fuel + 1, opener => do
      let (words, rest) ← expandNext nested opener.words opener.rest
      let opener := { opener with words, rest }
      match words with
      | [] => return (opener, false)
      | word :: others =>
          let passed := { opener with front := opener.front ++ [word], words := others }
          match word with
          | [Byte.hyphen, Byte.hyphen] => do
              let (words, rest) ← expandNext nested others rest
              return ({ passed with words, rest }, !words.isEmpty)
          | Byte.hyphen :: letter :: letters =>
              if (letter :: letters).all (· == Byte.ofChar 'p') then
                passOptions nested fuel
                  { passed with search := { passed.search with path? := some standardPath } }
              else return (opener, false)
          | _ => return (opener, true)

/-- Find out what a simple command runs, passing over `command` in front. -/
def findOpener (nested : Nested) : Nat → Opener → Script Opener
  | 0, opener => return opener
  | fuel + 1, opener => do
      let name := opener.words.headD []
      let finding ←
        findCommand { passesFunctions := opener.search.passesFunctions, isBrief := true } name
      let opener := { opener with finding }
      match finding with
      | .builtin builtin => do
          let opener :=
            { opener with isSpecial := some (opener.isSpecial.getD builtin.isSpecial) }
          if builtin != .command then return opener
          else
            let (passed, isFollowed) ← passOptions nested 1000
              { opener with front := opener.front ++ [name], words := opener.words.tail }
            if isFollowed then
              findOpener nested fuel
                { passed with search := { passed.search with passesFunctions := true } }
            else
              let words := passed.front.drop opener.front.length ++ passed.words
              return { passed with front := opener.front, words }
      | _ => return opener

def expandCommand (nested : Nested) (words : List Word) : Script Opener := do
  let (expanded, rest) ← expandFirst nested words
  if expanded.isEmpty then return { words := [], rest := [] }
  else
    let opener ← findOpener nested 1000 { words := expanded, rest }
    let assigns :=
      match opener.finding with
      | .builtin builtin => builtin.takesAssignments
      | _ => false
    let others ← opener.rest.mapM fun word => do
      if assigns && Word.isAssignment word then
        return [← expandText (output nested) .assignment word]
      else expandArguments (output nested) word
    return { opener with words := opener.words ++ others.flatten, rest := [] }

def traceStart (nested : Nested) : Script Bytes := do
  let text := (← value? (ascii "PS4")).getD []
  let context ← context
  let reader : Reader :=
    { readerOf text with aliases := context.aliases, documents := context.documents }
  let (result, reader) :=
    (Reading.expandable (Reading.substitution Reading.depthLimit)).run.run reader
  changeContext fun context => { context with documents := reader.documents }
  match result with
  | .error _ => return text
  | .ok word => expandText (output nested) { isQuoted := true } word

/-- Show a command before it is run, where standard error led before its redirections. -/
def trace (nested : Nested) (target? : Option Nat) (words : List Bytes) : Script Unit := do
  let context ← context
  if context.flags.contains .xtrace && !context.isTracing then
    changeContext fun context => { context with isTracing := true }
    let start ← traceStart nested
    changeContext fun context => { context with isTracing := false }
    let line := start ++ Bytes.join Byte.space words ++ [Byte.newline]
    match target? with
    | none => err line
    | some number =>
        if let some file := (← work Work.machine).opened[number]? then
          let _ ← work (Work.writeOpened number file line)

def assignAll (nested : Nested) (isLocal isExported : Bool) :
    List Word → Script (List Bytes)
  | [] => return []
  | word :: rest => do
      let text ← expandText (output nested) .assignment word
      if isLocal then makeLocal text true
      else
        let (name, value) := splitAssignment text
        assignMarked name value { isExported }
      return text :: (← assignAll nested isLocal isExported rest)

def callLimit : Nat := 1000

def runFunction (nested : Nested) (isTested : Bool) (body : Command) (arguments : List Bytes) :
    Script Nat := do
  let before ← context
  if before.calls == callLimit then
    fail (ascii "Maximum function recursion depth (" ++ Bytes.ofNat callLimit ++
      ascii ") reached")
  changeContext fun context =>
    { context with
      arguments, optionIndex := 1, optionOffset := none, loops := 0, calls := before.calls + 1 }
  ensuring
    (do
      let _ ← nested.command { isTested } body)
    (changeContext fun context =>
      { context with
        arguments := before.arguments
        optionIndex := before.optionIndex
        optionOffset := before.optionOffset
        loops := before.loops
        calls := before.calls
        jump :=
          match context.jump with
          | some (.returning _) => none
          | jump => jump })
  status

def hasTraps : Script Bool :=
  return (← context).traps.any (!·.2.isEmpty)

/-- Run a program, in place of the shell where nothing follows. -/
def runProgram (nested : Nested) (position : Position) (path : Bytes) (place : Option Nat)
    (words : List Bytes) : Script Nat := do
  if position.isLast && !(← hasTraps) then replaceWith nested path place words
  else
    let _ ← claimSlot
    let ending ← meanwhile nested do
      inCopy nested id (replaceWith (α := Nat) nested path place words)
    mention ending
    setStatus ending.shellCode
    return ending.shellCode

def runFound (nested : Nested) (position : Position) (opener : Opener) : Script Nat := do
  let name := opener.words.headD []
  let isSettled :=
    match opener.finding with
    | .builtin builtin => builtin.isRegular
    | _ => false
  let finding ←
    if isSettled then pure opener.finding
    else findCommand { opener.search with reports := true } name
  match finding with
  | .unknown => do
      setStatus notFoundStatus
      return notFoundStatus
  | .builtin builtin =>
      runBuiltin nested position.isTested (opener.isSpecial == some true) name builtin
        opener.words.tail
  | .function body => runFunction nested position.isTested body opener.words.tail
  | .program place => do
      runProgram nested position (opener.search.path?.getD (← searchPath)) place opener.words

def runSimple (nested : Nested) (position : Position) (assignments words : List Word)
    (redirections : List Redirection) : Script Nat := do
  changeContext fun context => { context with substituted := 0 }
  let opener ← expandCommand nested words
  let isSpecial := opener.isSpecial == some true
  let isLocal := !opener.words.isEmpty && !isSpecial
  let replacesShell :=
    match opener.finding with
    | .builtin .exec => true
    | _ => false
  let run : Script Nat := do
    let openings ← prepare (output nested) redirections
    let target? := (← work Work.process).descriptors.lookup 2
    redirecting (output nested) openings replacesShell fun succeeded => do
      if !succeeded then
        if isSpecial then throw .failure else return misuse
      else
        let assigned ←
          assignAll nested isLocal (replacesShell && 1 < opener.words.length) assignments
        trace nested target? (assigned ++ opener.front ++ opener.words)
        if opener.words.isEmpty then
          let status := (← context).substituted
          setStatus status
          return status
        else runFound nested position opener
  if isLocal then inScope run else run

/-- Run a list of commands in a copy of the shell, or in its place where nothing follows. -/
def runSubshell (nested : Nested) (position : Position) (body : Command)
    (redirections : List Redirection) : Script Nat := do
  let openings ← prepare (output nested) redirections
  let inside : Script Nat := do
    openings.forM (redirect (output nested))
    nested.command { position with isLast := true } body
  if position.isLast && !(← hasTraps) then
    changeContext copied
    inside
  else
    let _ ← claimSlot
    let ending ← meanwhile nested do inCopy nested id inside
    mention ending
    return ending.shellCode

/-- Let a jump arrive at the end of a turn of a loop.  Says which jump leaves the turn. -/
def arrive : Script (Option Jump) := do
  let context ← context
  match context.jump with
  | some (.returning hasStatus) => return some (.returning hasStatus)
  | none => return none
  | some jump =>
      if context.levels ≤ 1 then
        changeContext fun context => { context with jump := none, levels := 0 }
        return some jump
      else
        changeContext fun context => { context with levels := context.levels - 1 }
        return some .breakLoop

def inLoop {α : Type} (script : Script α) : Script α := do
  changeContext fun context => { context with loops := context.loops + 1 }
  let result ← script
  changeContext fun context => { context with loops := context.loops - 1 }
  return result

def runLoop (nested : Nested) (isTested wanted : Bool) (condition body : Command) :
    Script Nat :=
  inLoop <| iterate
    (fun status => do
      let result ← nested.command { isTested := true } condition
      match ← arrive with
      | some .continueLoop => return .inl status
      | some (.returning true) => return .inr result
      | some _ => return .inr status
      | none =>
          if (result == 0) != wanted then return .inr status
          else
            let status ← nested.command { isTested } body
            match ← arrive with
            | none | some .continueLoop => return .inl status
            | some _ => return .inr status)
    (throw (.stop .exhausted)) repetitionLimit 0

def runIteration (nested : Nested) (isTested : Bool) (name : Bytes) (items : List Bytes)
    (body : Command) : Script Nat :=
  inLoop <| iterate
    (fun (items, status) => do
      match items with
      | [] => return .inr status
      | item :: items => do
          assign name item
          let status ← nested.command { isTested } body
          match ← arrive with
          | none | some .continueLoop => return .inl (items, status)
          | some _ => return .inr status)
    (throw (.stop .exhausted)) repetitionLimit (items, 0)

def chooseBranch (nested : Nested) (subject : Bytes) :
    List (List Word × Command) → Script (Option Command)
  | [] => return none
  | (patterns, body) :: rest => do
      if ← matchesSome patterns then return some body else chooseBranch nested subject rest
where
  matchesSome : List Word → Script Bool
    | [] => return false
    | pattern :: rest => do
        if matchPattern (← expandPattern (output nested) pattern) subject then return true
        else matchesSome rest

def define (name : Bytes) (body : Command) : Script Unit :=
  changeContext fun context =>
    { context with
      functions := (name, body) :: context.functions.filter (·.1 != name)
      hashed := context.hashed.filter (·.1 != name) }

/-- Run the body of a command with redirections.  Says also whether they failed. -/
def runRedirected (nested : Nested) (position : Position) (body : Command)
    (redirections : List Redirection) : Script (Nat × Bool) := do
  let openings ← prepare (output nested) redirections
  redirecting (output nested) openings false fun succeeded => do
    if succeeded then
      return (← nested.command { isTested := position.isTested } body, false)
    else return (misuse, true)

/-- Run a command.  Says also whether its failure may end the shell. -/
def runKind (nested : Nested) (position : Position) (command : Command) :
    Script (Nat × Bool) := do
  let isTested := position.isTested
  match command with
  | .nothing => return (0, false)
  | .simple line assignments words redirections => do
      setLine line
      return (← runSimple nested position assignments words redirections, true)
  | .pipeline stages inBackground =>
      if inBackground then
        defer (.pipeline stages false) [] isTested stages.length
        return (0, true)
      else
        let _ ← claimSlot
        let endings ← meanwhile nested do runStages nested isTested none stages
        endings.forM mention
        return (pipelineStatus endings, true)
  | .redirected line body redirections => do
      setLine line
      runRedirected nested position body redirections
  | .subshell line body redirections => do
      setLine line
      return (← runSubshell nested position body redirections, true)
  | .background line body redirections => do
      setLine line
      defer body (← prepare (output nested) redirections) false 1
      return (0, true)
  | .conjunction left right => do
      let status ← nested.command { isTested := true } left
      if status != 0 || (← context).jump.isSome then return (status, false)
      else return (← nested.command position right, false)
  | .disjunction left right => do
      let status ← nested.command { isTested := true } left
      if status == 0 || (← context).jump.isSome then return (status, false)
      else return (← nested.command position right, false)
  | .sequence left right => do
      let status ← nested.command { isTested } left
      if (← context).jump.isSome then return (status, false)
      else return (← nested.command position right, false)
  | .negation body => do
      let status ← nested.command { isTested := true } body
      if (← context).jump.isSome then return (status, false)
      else return (if status == 0 then 1 else 0, false)
  | .conditional condition thenPart elsePart => do
      let status ← nested.command { isTested := true } condition
      if (← context).jump.isSome then return (status, false)
      else if status == 0 then return (← nested.command position thenPart, false)
      else if elsePart.isNothing then return (0, false)
      else return (← nested.command position elsePart, false)
  | .loop wanted condition body =>
      return (← runLoop nested isTested wanted condition body, false)
  | .iteration line name items body => do
      setLine line
      let items ← items.mapM (expandArguments (output nested))
      return (← runIteration nested isTested name items.flatten body, false)
  | .choice line subject branches => do
      setLine line
      let subject ← expandText (output nested) .single subject
      match ← chooseBranch nested subject branches with
      | some body =>
          if body.isNothing then return (0, false)
          else return (← nested.command position body, false)
      | none => return (0, false)
  | .function _ name body => do
      define name body
      return (0, false)

def runCommand (nested : Nested) (position : Position) (command : Command) : Script Nat := do
  let isSkipped ← isOn .noexec
  let (status, isChecked) ←
    if isSkipped || command.isNothing then pure (0, false)
    else do
      runTraps nested
      let (status, isChecked) ← runKind nested position command
      setStatus status
      pure (status, isChecked)
  runTraps nested
  let endsShell := isChecked && !position.isTested && status != 0
  if position.isLast then throw .exit
  else if endsShell then
    if ← isOn .errexit then throw .exit else return status
  else return status

end Script

end TradeLocal.Shell

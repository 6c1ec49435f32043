import TradeLocal.Programs.Remove

/-!
# Taking files to places

What the programs have in common that take files to a place: where each file goes, what is done
with a file that is there already, and how it may be kept under another name.  With several
operands the last one is the directory into which the others go, each under its own last name.
-/

namespace TradeLocal.Programs

open TradeLocal.Host

inductive Overwriting where
  | always
  | ask
  /-- It is kept, which is a failure. -/
  | refuse
  /-- It is kept. -/
  | skip
  deriving DecidableEq

inductive BackupKind where
  | none
  | simple
  /-- Numbered if there are numbered ones. -/
  | existing
  | numbered
  deriving DecidableEq

structure Transfer where
  call : Call
  read : Arguments
  overwriting : Overwriting := .always
  backup : BackupKind := .none
  /-- Files that are there are only overwritten by newer ones; none is taken to be newer. -/
  isUpdate : Bool := false
  /-- Files in the way are to be kept under other names and not to be overwritten at all. -/
  isContradictory : Bool := false
  /-- A file that is given twice is only taken once. -/
  knowsSources : Bool := false

def transferForms : List OptionForm :=
  [.of "f" "force" .nothing, .of "i" "interactive" .nothing,
    .of "t" "target-directory" .argument, .of "T" "no-target-directory" .nothing,
    .of "v" "verbose" .nothing, .of "b" "" .nothing, .of "" "backup" .optional,
    .of "S" "suffix" .argument]

def copyForms : List OptionForm :=
  transferForms ++
    [.of "n" "no-clobber" .nothing, .of "u" "" .nothing, .of "" "update" .optional,
      .of "v" "debug" .nothing, .of "Z" "context" .optional,
      .of "" "strip-trailing-slashes" .nothing]

namespace Transfer

def has (transfer : Transfer) (key : String) : Bool :=
  transfer.read.has key

def backupKinds : List (List String × BackupKind) :=
  [(["none", "off"], .none), (["simple", "never"], .simple), (["existing", "nil"], .existing),
    (["numbered", "t"], .numbered)]

def backupOf (call : Call) (read : Arguments) : Work BackupKind := do
  if ["b", "backup", "S"].any read.has then
    match read.last? "backup" with
    | some word => do
        let name ← call.choose "backup type" (backupKinds.map Prod.fst) word
        return ((backupKinds.find? (·.1.head? == some name)).map Prod.snd).getD .existing
    | none => return .existing
  else return .none

/-- Whether only newer files are to overwrite others, and whether none are, as far as an option
for that says. -/
def updateOf (call : Call) (given : Given) : Work (Option String) := do
  if given.key == ascii "u" then return some "older"
  else if given.key == ascii "update" then
    match given.argument with
    | some word => return some (← call.choose "--update" [["all"], ["none"], ["older"]] word)
    | none => return some "older"
  else return none

/-- What the options for copies and moves say.  `plain` says which of them allows to overwrite,
`keeping` what becomes of a file that must not be. -/
def ofOptions (call : Call) (plain : List String) (keeping : Overwriting) (read : Arguments) :
    Work Transfer := do
  let mut overwriting := Overwriting.always
  let mut isUpdate := false
  let mut isPlain := true
  for given in read.options do
    if given.key == ascii "i" then
      overwriting := .ask
      isPlain := true
    else if given.key == ascii "n" then
      overwriting := keeping
      isPlain := false
    else if plain.any fun key => given.key == ascii key then
      overwriting := .always
      isPlain := true
    match ← updateOf call given with
    | some "none" => do
        overwriting := .skip
        isUpdate := false
        isPlain := true
    | some choice => isUpdate := choice == "older"
    | none => pure ()
  let backup ← backupOf call read
  return {
    call, read, overwriting, backup
    isUpdate := isUpdate && isPlain
    isContradictory := backup ≠ .none && keeping == .refuse && !isPlain }

def say (transfer : Transfer) (text : Bytes) : Work Unit := do
  if transfer.has "v" then Call.put (text ++ [Byte.newline])

def isDirectory (path : Bytes) : Work Bool := do
  return hasProperty (← Work.files) (← Work.here) (Byte.ofChar 'd') path

def fail (transfer : Transfer) (text : Bytes) : Work Bool := do
  transfer.call.complain text
  return false

def failSame (transfer : Transfer) (source target : Bytes) : Work Bool :=
  transfer.fail (quotedName source ++ ascii " and " ++ quotedName target ++
    ascii " are the same file")

def refuseTarget {α : Type} (transfer : Transfer) (name : String) (path : Bytes) : Work α := do
  let error :=
    match find (← Work.files) (← Work.here) path with
    | .ok _ => SystemError.notDirectory
    | .error error => error
  transfer.call.abandon (ascii name ++ quotedName path ++ ascii ": " ++ error.text)

def checkOptions (transfer : Transfer) : Work Unit := do
  if transfer.isContradictory then
    transfer.call.misuse (ascii "options --backup and --no-clobber are mutually exclusive")

/-- Take files into a directory.  A file that was made just before is not overwritten, unless
that is of no harm. -/
def intoDirectory (transfer : Transfer) (place : Bytes → Bytes) (take : Bytes → Bytes → Work Bool)
    (operands : List Bytes) : Work Nat := do
  let mut made : List Location := []
  let mut sources : List Bytes := []
  let mut isComplete := true
  for source in operands do
    let target := place source
    let isJustMade :=
      match findEntry (← Work.files) (← Work.here) target with
      | .ok found => !found.node.isDirectory && made.contains found.location
      | .error _ => false
    let found? := (findEntry (← Work.files) (← Work.here) source).toOption
    let isFile := found?.any (!·.node.isDirectory)
    if transfer.knowsSources && isFile && sources.contains source then
      transfer.call.complain (ascii "warning: source file " ++ quotedName source ++
        ascii " specified more than once")
    else if isJustMade && found?.isSome then
      isComplete ← transfer.fail (ascii "will not overwrite just-created " ++
        quotedName target ++ ascii " with " ++ quotedName source)
    else
      isComplete := (← take source target) && isComplete
      if let .ok found := findEntry (← Work.files) (← Work.here) target then
        made := found.location :: made
      if transfer.backup == .none then sources := source :: sources
  return if isComplete then 0 else 1

def each (transfer : Transfer) (take : Bytes → Bytes → Work Bool) : Work Nat := do
  let call := transfer.call
  let into (directory : Bytes) (operands : List Bytes) : Work Nat := do
    transfer.checkOptions
    transfer.intoDirectory (fun path => below directory (writtenName path)) take operands
  match transfer.read.last? "t", transfer.read.operands with
  | none, [] | some _, [] => call.misuse (ascii "missing file operand")
  | some directory, operands => do
      if transfer.has "T" then
        call.abandon
          (ascii "cannot combine --target-directory (-t) and --no-target-directory (-T)")
      unless ← isDirectory directory do transfer.refuseTarget "target directory " directory
      into directory operands
  | none, [path] =>
      call.misuse (ascii "missing destination file operand after " ++ quotedName path)
  | none, [path, target] => do
      if !transfer.has "T" && (← isDirectory target) then into target [path]
      else
        transfer.checkOptions
        return codeOf [← take path target]
  | none, operands => do
      let directory := operands.getLastD []
      if transfer.has "T" then
        call.misuse (ascii "extra operand " ++ quotedName (operands[2]?.getD []))
      unless ← isDirectory directory do transfer.refuseTarget "target " directory
      into directory operands.dropLast

def arrow (source target : Bytes) : Bytes :=
  quotedName source ++ ascii " -> " ++ quotedName target

def backupNumbers (entries : List (Bytes × Nat)) (name : Bytes) : List Nat :=
  entries.filterMap fun (entry, _) =>
    let front := name ++ ascii ".~"
    if front.isPrefixOf entry && entry.getLast? == some (Byte.ofChar '~') then
      Bytes.toNat? (entry.drop front.length).dropLast
    else none

def backupName (transfer : Transfer) (target : Bytes) : Work Bytes := do
  let path := dropSlashes target
  let suffix := (transfer.read.last? "S").getD (ascii "~")
  let suffix := if suffix.isEmpty || suffix.contains Byte.slash then ascii "~" else suffix
  let files ← Work.files
  let numbers :=
    match locateEntry files (← Work.here) path with
    | .ok entry =>
        match files.node? entry.directory with
        | some (.directory entries _) => backupNumbers entries entry.name
        | _ => []
    | .error _ => []
  let isNumbered := transfer.backup == .numbered ||
    (transfer.backup == .existing && !numbers.isEmpty)
  return if isNumbered then
      path ++ ascii ".~" ++ Bytes.ofNat (numbers.foldl max 0 + 1) ++ ascii "~"
    else path ++ suffix

/-- Keep a file in the way under another name, if that is wanted.  Says what is told of it. -/
def keep (transfer : Transfer) (target : Bytes) : Work Bytes := do
  if transfer.backup == .none then return []
  else
    let name ← transfer.backupName target
    let _ ← Work.rename target name
    return ascii " (backup: " ++ quotedName name ++ ascii ")"

/-- Whether a file in the way is to be left alone, and whether that is as it should be. -/
def leaves (transfer : Transfer) (isDirectory : Bool) (target : Bytes) : Work (Option Bool) := do
  if transfer.isUpdate && !isDirectory then return some true
  else
    match transfer.overwriting with
    | .always => return none
    | .skip => return some true
    | .refuse => return some (← transfer.fail (ascii "not replacing " ++ quotedName target))
    | .ask =>
        if ← transfer.call.confirm (ascii "overwrite " ++ quotedName target) then return none
        else return some false

/-- Report that a directory and a file of another kind cannot take each other's place, if that is
so. -/
def failKind (transfer : Transfer) (source target : Bytes) (isDirectory wasDirectory : Bool) :
    Work Bool :=
  if isDirectory && !wasDirectory then
    transfer.fail (ascii "cannot overwrite non-directory " ++ quotedName target ++
      ascii " with directory " ++ quotedName source)
  else if wasDirectory && !isDirectory then
    transfer.fail (ascii "cannot overwrite directory " ++ quotedName target ++
      ascii " with non-directory")
  else return true

end Transfer

end TradeLocal.Programs

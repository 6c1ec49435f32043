import TradeLocal.Host.Canonical
import TradeLocal.Programs.Transfer

/-!
# Links

`ln` makes links.
-/

namespace TradeLocal.Programs

open TradeLocal.Host

namespace Transfer

/-- What a link is to hold so that it leads from its own directory to a path. -/
def relativeSource (source target : Bytes) : Work Bytes := do
  let files ← Work.files
  let here ← Work.here
  let resolving : Resolving := { existing := .none }
  let directory := (locateEntry files here target).toOption.map Entry.location
  match resolving.locate files here source, directory with
  | .ok location, some directory => return relativePath directory location
  | _, _ => return source

def failLink (transfer : Transfer) (source target : Bytes) (error : SystemError) : Work Bool :=
  let isSymbolic := transfer.has "s"
  let isSourceShown := if isSymbolic then source.isEmpty || error == .nameTooLong
    else error != .alreadyExists && error != .noSpace
  transfer.fail (ascii "failed to create " ++
    (if isSymbolic then ascii "symbolic" else ascii "hard") ++ ascii " link " ++
    quotedName target ++
    (if isSourceShown then (if isSymbolic then ascii " -> " else ascii " => ") ++
      quotedName source else []) ++
    ascii ": " ++ error.text)

def link (transfer : Transfer) (source target : Bytes) : Work Bool := do
  let isSymbolic := transfer.has "s"
  let files ← Work.files
  let here ← Work.here
  let followsLinks := isSymbolic || transfer.read.lastOf? ["L", "P"] == some (ascii "L")
  let found? := (if followsLinks then find else findEntry) files here source
  let make (source : Bytes) : Work (Except SystemError Unit) :=
    if isSymbolic then
      if source.isEmpty then return .error .notFound else Work.make target (.link source)
    else
      match found? with
      | .ok found => Work.makeName (if followsLinks then pathOf found.location else source) target
      | .error error => return .error error
  let report (kept source : Bytes) : Work Bool := do
    transfer.say (kept ++ quotedName target ++
      (if isSymbolic then ascii " -> " else ascii " => ") ++ quotedName source)
    return true
  match isSymbolic, found? with
  | false, .error error =>
      transfer.fail (ascii "failed to access " ++ quotedName source ++ ascii ": " ++ error.text)
  | false, .ok ⟨_, _, .directory _ _⟩ =>
      transfer.fail (shownName source ++ ascii ": hard link not allowed for directory")
  | _, _ => do
      let source ← if transfer.has "r" then relativeSource source target else pure source
      let isForced := transfer.has "f" || transfer.has "i" || transfer.backup ≠ .none
      match isForced, findEntry files here target with
      | false, _ | true, .error .notFound =>
          match ← make source with
          | .ok () => report [] source
          | .error error => transfer.failLink source target error
      | true, .error error =>
          transfer.fail (ascii "failed to access " ++ quotedName target ++ ascii ": " ++
            error.text)
      | true, .ok ⟨_, _, .directory _ _⟩ =>
          transfer.fail (shownName target ++ ascii ": cannot overwrite directory")
      | true, .ok present => do
          let isSame := found?.toOption.any fun found => found.number == present.number
          let isOneName := (found?.toOption.map Found.location) == some present.location
          let isAsked := transfer.read.lastOf? ["f", "i"] == some (ascii "i")
          let isOne := (transfer.backup == .none || !isSymbolic) && isSame && isOneName
          let agrees ←
            if isAsked && !(isOne && transfer.backup ≠ .none) then
              transfer.call.confirm (ascii "replace " ++ quotedName target)
            else pure true
          if !agrees then return false
          else if isOne then transfer.failSame source target
          else if isSame && !isSymbolic && transfer.backup == .none then report [] source
          else
            let name ← transfer.backupName target
            let _ ← transfer.keep target
            let isKept := transfer.backup ≠ .none
            if !isKept && !(isSymbolic && source.isEmpty) then
              let _ ← Work.unlink target
            match ← make source with
            | .ok () => report (if isKept then quotedName name ++ ascii " ~ " else []) source
            | .error error => do
                if isKept then
                  let _ ← Work.rename name target
                transfer.failLink source target error

end Transfer

def makeLinks (call : Call) : Work Nat := do
  let read ← call.parse
    (transferForms ++
      [.of "s" "symbolic" .nothing, .of "n" "no-dereference" .nothing,
        .of "L" "logical" .nothing, .of "P" "physical" .nothing, .of "r" "relative" .nothing,
        .of "d" "directory" .nothing, .of "F" "" .nothing])
    fun before given => do
      if given.key == ascii "t" then
        let path := given.argument.getD []
        if before.any (·.key == ascii "t") then
          call.abandon (ascii "multiple target directories specified")
        match find (← Work.files) (← Work.here) path with
        | .error error =>
            call.abandon (ascii "failed to access " ++ quotedName path ++ ascii ": " ++ error.text)
        | .ok found =>
            unless found.node.isDirectory do
              call.abandon (ascii "target " ++ quotedName path ++ ascii " is not a directory")
  let backup ← Transfer.backupOf call read
  let transfer : Transfer := { call, read, backup }
  if read.operands.isEmpty then call.missOperand (ascii "file ")
  if read.has "r" && !read.has "s" then
    call.abandon (ascii "cannot do --relative without --symbolic")
  if read.has "T" then
    if read.has "t" then
      call.abandon (ascii "cannot combine --target-directory and --no-target-directory")
  let isKept (path : Bytes) : Work Bool := do
    return read.has "n" && isLink (← Work.files) (← Work.here) path
  match read.last? "t", read.operands with
  | none, [path] =>
      if read.has "T" then transfer.each transfer.link
      else
        transfer.intoDirectory (fun path => below (ascii ".") (writtenName path)) transfer.link
          [path]
  | none, [path, target] =>
      if ← isKept target then return codeOf [← transfer.link path target]
      else transfer.each transfer.link
  | none, operands =>
      if !read.has "T" && (← isKept (operands.getLastD [])) then
        call.abandon (ascii "target " ++ quotedName (operands.getLastD []) ++ ascii ": " ++
          SystemError.text .notDirectory)
      else transfer.each transfer.link
  | some _, _ => transfer.each transfer.link

end TradeLocal.Programs

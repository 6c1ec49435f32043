import TradeLocal.Programs.Transfer

/-!
# Copying and moving files

`cp` and `mv`.
-/

namespace TradeLocal.Programs

open TradeLocal.Host

namespace Transfer

def isRecursive (transfer : Transfer) : Bool :=
  ["r", "R", "a"].any transfer.has

/-- Whether links are copied as links, seen from below the operands or not. -/
def keepsLinks (transfer : Transfer) (isBelow : Bool) : Bool :=
  match transfer.read.lastOf? ["L", "P", "d", "a", "H"] with
  | some key => if key == ascii "L" then false else if key == ascii "H" then isBelow else true
  | none => transfer.isRecursive && !transfer.has "l"

def contentsOf (found : Found) : Bytes :=
  match found.node with
  | .file text _ => text
  | _ => []

def writeFile (transfer : Transfer) (target : Bytes) (found : Found) : Work Bool := do
  let here ← Work.here
  let isNew := !(find (← Work.files) here target).isOk
  let keepsContents := transfer.has "attributes-only"
  match ← Work.openFile (if keepsContents then .appending else .writing) target with
  | .error error =>
      let error := if error == .isDirectory && target.getLast? == some Byte.slash then
        SystemError.notDirectory else error
      transfer.fail (ascii "cannot create regular file " ++ quotedName target ++ ascii ": " ++
        error.text)
  | .ok number => do
      unless keepsContents do
        if let some file := (← Work.machine).opened[number]? then
          let _ ← Work.writeOpened number file (contentsOf found)
      if let .ok made := find (← Work.files) here target then
        match found.node with
        | .program _ =>
            Work.changeFiles fun files => files.replace made.number found.node
        | node =>
            if isNew then
              Work.changeMode made (node.mode &&& (0o777 - (← Work.process).mask))
      return true

def writeLink (transfer : Transfer) (source target : Bytes) : Work Bool := do
  let files ← Work.files
  let here ← Work.here
  let isSymbolic := transfer.has "s"
  let isHere := (locateEntry files here target).toOption.any (·.location == here)
  if isSymbolic && !isAbsolute source && !isHere then
    transfer.fail (shownName target ++
      ascii ": can make relative symbolic links only in current directory")
  else
    if transfer.has "f" then
      let _ ← Work.unlink target
    let result ←
      if isSymbolic then Work.make target (.link source) else Work.makeName source target
    match result with
    | .ok () => return true
    | .error error =>
        transfer.fail (ascii "cannot create " ++
          (if isSymbolic then ascii "symbolic" else ascii "hard") ++ ascii " link " ++
          quotedName target ++ ascii " to " ++ quotedName source ++ ascii ": " ++ error.text)

def copyFile (transfer : Transfer) (source target : Bytes) (found : Found) : Work Bool := do
  let files ← Work.files
  let here ← Work.here
  let write (kept : Bytes) : Work Bool := do
    transfer.say (arrow source target ++ kept)
    if transfer.has "s" || transfer.has "l" then transfer.writeLink source target
    else transfer.writeFile target found
  match find files here target with
  | .ok present =>
      let isRemoved := transfer.has "remove-destination" && isLink files here target
      let isSame := present.number == found.number && !isRemoved
      if isSame && transfer.has "l" then return true
      else if isSame && transfer.overwriting ≠ .skip then
        transfer.failSame source target
      else
        match ← transfer.leaves false target with
        | some result => return result
        | none => do
            if !(← transfer.failKind source target false present.node.isDirectory) then
              return false
            else
              let kept ← transfer.keep target
              if transfer.has "remove-destination" then
                let _ ← Work.unlink target
              write kept
  | .error _ =>
      if target.isEmpty && transfer.has "T" then transfer.failKind source target false true
      else if isLink files here target && !transfer.has "s" && !transfer.has "l" then
        let isKept := transfer.backup ≠ .none
        let kept ← transfer.keep target
        if isKept then write kept
        else
          transfer.say (arrow source target)
          transfer.fail (ascii "not writing through dangling symlink " ++ quotedName target)
      else write []

def copyLink (transfer : Transfer) (source target text : Bytes) (found : Found) :
    Work Bool := do
  let files ← Work.files
  let here ← Work.here
  match findEntry files here target with
  | .ok present =>
      if present.number == found.number || isSameFile files here source target then
        transfer.failSame source target
      else
        match ← transfer.leaves false target with
        | some result => return result
        | none => do
            let kept ← transfer.keep target
            if transfer.has "s" || transfer.has "l" then
              transfer.say (arrow source target ++ kept)
              transfer.writeLink source target
            else
              if kept.isEmpty then
                let _ ← Work.unlink target
                transfer.say (ascii "removed " ++ quotedName target)
              transfer.say (arrow source target ++ kept)
              let _ ← Work.make target (.link text)
              return true
  | .error _ => do
      transfer.say (arrow source target)
      match ← Work.make target (.link text) with
      | .ok () => return true
      | .error error =>
          transfer.fail (ascii "cannot create symbolic link " ++ quotedName target ++ ascii ": " ++
            error.text)

inductive Copied where
  | done
  | failed
  /-- It is itself a part of the copy, so that copying would not end. -/
  | endless
  deriving DecidableEq

namespace Copied

def of (isDone : Bool) : Copied :=
  if isDone then done else failed

def join : Copied → Copied → Copied
  | endless, _ | _, endless => endless
  | failed, _ | _, failed => failed
  | done, done => done

end Copied

/-- Copy what a path names, with all that is below if wanted.  The first directory that is made
on the way is known as `made?`, and `top` says between which paths all is copied. -/
def copy (transfer : Transfer) (top : Bytes × Bytes) :
    Nat → Option Nat → Bytes → Bytes → Work Copied
  | 0, _, _, _ => return .failed
  | fuel + 1, made?, source, target => do
      let files ← Work.files
      let here ← Work.here
      let isBelow := (source, target) ≠ top
      let look := if transfer.keepsLinks isBelow then findEntry else find
      match look files here source with
      | .error error =>
          return .of (← transfer.fail
            (ascii "cannot stat " ++ quotedName source ++ ascii ": " ++ error.text))
      | .ok found =>
          if found.node.isDirectory && !transfer.isRecursive then
            return .of (← transfer.fail
              (ascii "-r not specified; omitting directory " ++ quotedName source))
          else if (findEntry files here target).toOption.isNone &&
              (match find files here target with
                | .error .notDirectory => true
                | _ => false) then
            return .of (← transfer.fail (ascii "cannot stat " ++ quotedName target ++
              ascii ": " ++ SystemError.text .notDirectory))
          else
            match found.node with
            | .link text => return .of (← transfer.copyLink source target text found)
            | .directory entries mode => do
                let place? := (find files here target).toOption.orElse fun _ =>
                  (findEntry files here target).toOption
                let isSame := place?.any (·.number == found.number)
                let fits ←
                  if isSame && !isBelow then transfer.failSame source target
                  else transfer.failKind source target true (place?.all (·.node.isDirectory))
                if !fits then return .failed
                else if made? == some found.number then
                  let _ ← transfer.fail (ascii "cannot copy a directory, " ++
                    quotedName top.1 ++ ascii ", into itself, " ++ quotedName top.2)
                  return .endless
                else
                  let result ←
                    if place?.isSome then pure (.ok ())
                    else Work.make target (.directory [] mode)
                  match result with
                  | .error error =>
                      return .of (← transfer.fail (ascii "cannot create directory " ++
                        quotedName target ++ ascii ": " ++ error.text))
                  | .ok () => do
                      if place?.isNone then transfer.say (arrow source target)
                      let new? := (find (← Work.files) here target).toOption.map Found.number
                      let made? := if place?.isNone then made?.orElse fun _ => new? else made?
                      let entries :=
                        match (← Work.files).node? found.number with
                        | some (.directory entries _) => entries
                        | _ => entries
                      entries.foldlM
                        (fun result (name, _) => do
                          if result == .endless then return result
                          else
                            return result.join (← transfer.copy top fuel made?
                              (below source name) (below target name)))
                        .done
            | _ => return .of (← transfer.copyFile source target found)

def copyOperand (transfer : Transfer) (source target : Bytes) : Work Bool := do
  return (← transfer.copy (source, target) treeDepth none source target) == .done

/-- Make the directories on the way to a copy that keeps the path of what is copied. -/
def makeParents (transfer : Transfer) (directory path : Bytes) : Work Unit := do
  for parent in (pathsTo path).dropLast do
    if let .ok ⟨_, _, .directory _ mode⟩ := find (← Work.files) (← Work.here) parent then
      let target := below directory (parent.dropWhile (· == Byte.slash))
      if (← Work.make target (.directory [] mode)).isOk then
        transfer.say (parent ++ ascii " -> " ++ target)

def copyWithParents (transfer : Transfer) : Work Nat := do
  let read := transfer.read
  let (directory, operands) :=
    match read.last? "t" with
    | some directory => (directory, read.operands)
    | none => (read.operands.getLastD [], read.operands.dropLast)
  if operands.isEmpty then transfer.each fun _ _ => return true
  else if !(← isDirectory directory) && operands.length == 1 && (read.last? "t").isNone then
    transfer.call.misuse (ascii "with --parents, the destination must be a directory")
  else
    unless ← isDirectory directory do
      transfer.refuseTarget (if (read.last? "t").isSome then "target directory " else "target ")
        directory
    transfer.intoDirectory
      (fun path => below directory ((dropSlashes path).dropWhile (· == Byte.slash)))
      (fun source target => do
        if (find (← Work.files) (← Work.here) source).isOk then
          transfer.makeParents directory source
        transfer.copyOperand source target)
      operands

end Transfer

def copyFiles (call : Call) : Work Nat := do
  let read ← call.parse
    (copyForms ++
      [.of "a" "archive" .nothing, .of "r" "recursive" .nothing, .of "R" "" .nothing,
        .of "p" "" .nothing, .of "" "preserve" .optional, .of "L" "dereference" .nothing,
        .of "P" "no-dereference" .nothing, .of "H" "" .nothing, .of "d" "" .nothing,
        .of "l" "link" .nothing, .of "s" "symbolic-link" .nothing,
        .of "x" "one-file-system" .nothing, .of "" "parents" .nothing,
        .of "" "remove-destination" .nothing, .of "" "sparse" .argument,
        .of "" "reflink" .optional, .of "" "attributes-only" .nothing,
        .of "" "no-preserve" .argument, .of "" "copy-contents" .nothing])
    fun before given => do
      if given.key == ascii "n" then
        call.complain (ascii ("warning: behavior of -n is non-portable and may change in " ++
          "future; use --update=none instead"))
      if given.key == ascii "t" && before.any (·.key == ascii "t") then
        call.abandon (ascii "multiple target directories specified")
  if read.has "s" && read.has "l" then
    call.misuse (ascii "cannot make both hard and symbolic links")
  let transfer ← Transfer.ofOptions call [] .skip read
  let transfer := { transfer with knowsSources := true }
  if read.has "parents" then transfer.copyWithParents
  else transfer.each transfer.copyOperand

def moveOne (transfer : Transfer) (source target : Bytes) : Work Bool := do
  let files ← Work.files
  let here ← Work.here
  let cannotMove (error : SystemError) : Work Bool :=
    transfer.fail (ascii "cannot move " ++ quotedName source ++ ascii " to " ++
      quotedName target ++ ascii ": " ++ error.text)
  let move (kept : Bytes) : Work Bool := do
    match ← Work.rename source target with
    | .ok () => do
        transfer.say (ascii "renamed " ++ Transfer.arrow source target ++ kept)
        return true
    | .error .invalidArgument =>
        transfer.fail (ascii "cannot move " ++ quotedName source ++
          ascii " to a subdirectory of itself, " ++ quotedName target)
    | .error .notEmpty =>
        transfer.fail (ascii "cannot overwrite " ++ quotedName target ++ ascii ": " ++
          SystemError.text .notEmpty)
    | .error error => cannotMove error
  match findEntry files here source with
  | .error error =>
      transfer.fail (ascii "cannot stat " ++ quotedName source ++ ascii ": " ++ error.text)
  | .ok found =>
      let isDirectory := found.node.isDirectory
      match findEntry files here target with
      | .error .notDirectory =>
          transfer.fail (ascii "cannot stat " ++ quotedName target ++ ascii ": " ++
            SystemError.text .notDirectory)
      | .error _ =>
          if target.isEmpty then
            if transfer.overwriting == .skip then return true
            else if isDirectory || transfer.backup ≠ .none then cannotMove .busy
            else transfer.failKind source target false true
          else move []
      | .ok present =>
          let keepsAll := transfer.overwriting == .skip || transfer.overwriting == .refuse
          let isSame := present.number == found.number ||
            (find files here source).toOption.any fun (found : Found) =>
              found.number == present.number
          if isSame && !keepsAll then transfer.failSame source target
          else
            match ← transfer.leaves isDirectory target with
            | some result => return result
            | none => do
                let wasDirectory := present.node.isDirectory
                let fits ←
                  if transfer.backup ≠ .none then pure true
                  else transfer.failKind source target isDirectory wasDirectory
                if !fits then return false
                else if isDirectory && found.location.isPrefixOf present.location then move []
                else move (← transfer.keep target)

def moveFiles (call : Call) : Work Nat := do
  let read ← call.parse copyForms fun before given => do
    if given.key == ascii "t" && before.any (·.key == ascii "t") then
      call.abandon (ascii "multiple target directories specified")
  let transfer ← Transfer.ofOptions call ["f"] .refuse read
  let cut (path : Bytes) : Bytes :=
    if read.has "strip-trailing-slashes" && !(dropSlashes path).isEmpty then dropSlashes path
    else path
  transfer.each fun source target => moveOne transfer (cut source) target

end TradeLocal.Programs

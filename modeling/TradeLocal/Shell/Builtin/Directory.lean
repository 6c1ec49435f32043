import TradeLocal.Shell.Builtin.Options
import TradeLocal.Shell.Search
import TradeLocal.Shell.Variable

/-!
# The current directory

A shell knows its directory by the path on which it came there, which may lead through links.
-/

namespace TradeLocal.Shell

open TradeLocal.Host

/-- Follow a path from another one by its names alone.  Two slashes in front are kept. -/
def appendPath (start path : Bytes) : Bytes :=
  let isAbsolute := path.head? == some Byte.slash
  let slashes (text : Bytes) : Nat := (text.takeWhile (· == Byte.slash)).length
  let text := if isAbsolute then path else start ++ Byte.slash :: path
  let front := if slashes (if isAbsolute then path else start) == 2 then 2 else 1
  let names := (components text).foldl
    (fun names name =>
      if name.isEmpty || name = ascii "." then names
      else if name = ascii ".." then names.tail
      else name :: names)
    []
  List.replicate front Byte.slash ++ Bytes.join Byte.slash names.reverse

namespace Script

def directoryName : Bytes := ascii "PWD"
def previousName : Bytes := ascii "OLDPWD"

def setDirectory (path : Bytes) (remembers : Bool) : Script Unit := do
  if remembers then
    assignMarked previousName (some (← context).directory) { isExported := true }
  changeContext fun context => { context with directory := path }
  assignMarked directoryName (some path) { isExported := true }

def physicalDirectory : Script Bytes :=
  return pathOf (← work Work.here)

def enterDirectory (isPhysical : Bool) (path : Bytes) : Script Bool := do
  let known := appendPath (← context).directory path
  let target := if isPhysical then path else known
  match find (← work Work.files) (← work Work.here) target with
  | .error _ => return false
  | .ok found =>
      if !found.node.isDirectory then return false
      else do
        work (Work.changeProcess fun process => { process with here := found.location })
        let physical ← physicalDirectory
        setDirectory (if isPhysical then physical else known) true
        return true

/-- Whether a path begins at a directory that no list of directories changes. -/
def isAnchored (path : Bytes) : Bool :=
  path.head? == some Byte.slash ||
    (let first := path.takeWhile (· != Byte.slash)
     first = ascii "." || first = ascii "..")

def isPhysical (read : List (UInt8 × Bytes)) : Bool :=
  (read.getLast?.map Prod.fst) == some (Byte.ofChar 'P')

def changeDirectory (words : List Bytes) : Script Nat := do
  let (read, words) ← options "LP" words
  let (target, shows) ←
    match words with
    | [] => pure ((← value? (ascii "HOME")).getD [], false)
    | word :: _ =>
        if word = [Byte.hyphen] then pure ((← value? previousName).getD [], true)
        else pure (word, false)
  let isPhysical := isPhysical read
  let tell : Script Nat := do
    out ((← context).directory ++ [Byte.newline])
    return 0
  let failed {α : Type} : Script α := fail (ascii "can't cd to " ++ target)
  let goTo (path : Bytes) (shows : Bool) : Script Nat := do
    if ← enterDirectory isPhysical path then
      if shows then tell else return 0
    else failed
  if isAnchored target then goTo target shows
  else
    let target := if target.isEmpty then ascii "." else target
    let files ← work Work.files
    let here ← work Work.here
    let isDirectory (path : Bytes) : Bool :=
      match find files here path with
      | .ok found => found.node.isDirectory
      | .error _ => false
    match ← value? (ascii "CDPATH") with
    | none => goTo target shows
    | some directories =>
        let start? := (Bytes.splitOn Byte.colon directories).find? fun directory =>
          isDirectory (pathIn directory target)
        match start? with
        | none => goTo target shows
        | some start => goTo (pathIn start target) (shows || !start.isEmpty)

def tellDirectory (words : List Bytes) : Script Nat := do
  let (read, _) ← options "LP" words
  let path ← if isPhysical read then physicalDirectory else pure (← context).directory
  out (path ++ [Byte.newline])
  return 0

/-- Know the directory by the path in the environment if that leads there, and otherwise by the
path without links. -/
def startDirectory : Script Unit := do
  let here ← work Work.here
  let given := (← value? directoryName).getD []
  let leadsHere :=
    match find (← work Work.files) here given with
    | .ok found => isAbsolute given && found.location == here
    | .error _ => false
  setDirectory (if leadsHere then given else pathOf here) false

end Script

end TradeLocal.Shell

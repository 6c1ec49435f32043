import TradeLocal.Host.Canonical
import TradeLocal.Programs.Options

/-!
# Where paths lead

`readlink` says what links hold, and it and `realpath` say where paths lead.
-/

namespace TradeLocal.Programs

open TradeLocal.Host

/-- Write a line for each operand that has one; report what is wrong with the others if
wanted. -/
def writeEach (call : Call) (ending : Bytes) (isLoud : Bool) (operands : List Bytes)
    (text : Files → Location → Bytes → Except SystemError Bytes) : Work Nat := do
  let mut code := 0
  for path in operands do
    match text (← Work.files) (← Work.here) path with
    | .ok text => Call.put (text ++ ending)
    | .error error => do
        if isLoud then call.complainOf path error
        code := 1
  return code

def readLink (call : Call) : Work Nat := do
  let read ← call.parse
    [.of "f" "canonicalize" .nothing, .of "e" "canonicalize-existing" .nothing,
      .of "m" "canonicalize-missing" .nothing, .of "n" "no-newline" .nothing,
      .of "q" "quiet" .nothing, .of "s" "silent" .nothing, .of "v" "verbose" .nothing,
      .of "z" "zero" .nothing]
  if read.operands.isEmpty then call.missOperand
  let isMany := 1 < read.operands.length
  if isMany && read.has "n" then
    call.complain (ascii "ignoring --no-newline with multiple arguments")
  let ending :=
    if read.has "n" && !isMany then []
    else if read.has "z" then [0] else [Byte.newline]
  let resolving? : Option Resolving := (read.lastOf? ["f", "e", "m"]).map fun key =>
    { existing :=
        if key == ascii "e" then .all else if key == ascii "m" then .none else .front }
  writeEach call ending (read.lastOf? ["q", "s", "v"] == some (ascii "v")) read.operands
    fun files here path =>
      match resolving? with
      | some resolving => (resolving.locate files here path).map pathOf
      | none =>
          match findEntry files here path with
          | .ok ⟨_, _, .link text⟩ => .ok text
          | .ok _ => .error .invalidArgument
          | .error error => .error error

/-- How paths are resolved as the options say: which names must stand for something, whether
links are left alone, and whether they are resolved then. -/
structure PathReading where
  existing : Existing
  keepsLinks : Bool
  resolvesAfter : Bool

def PathReading.locate (reading : PathReading) (files : Files) (here : Location) (path : Bytes) :
    Except SystemError Location :=
  let resolving : Resolving :=
    { existing := reading.existing, followsLinks := !reading.keepsLinks }
  match resolving.locate files here path with
  | .ok location =>
      if reading.resolvesAfter then
        Resolving.locate { resolving with followsLinks := true } files here (pathOf location)
      else .ok location
  | .error error => .error error

def realPath (call : Call) : Work Nat := do
  let read ← call.parse
    [.of "e" "canonicalize-existing" .nothing, .of "m" "canonicalize-missing" .nothing,
      .of "L" "logical" .nothing, .of "P" "physical" .nothing, .of "q" "quiet" .nothing,
      .of "s" "strip" .nothing, .of "s" "no-symlinks" .nothing, .of "z" "zero" .nothing,
      .of "" "relative-to" .argument, .of "" "relative-base" .argument]
  if read.operands.isEmpty then call.missOperand
  let existing : Existing :=
    match read.lastOf? ["e", "m"] with
    | some key => if key == ascii "e" then .all else .none
    | none => .front
  let treatment := (read.lastOf? ["L", "P", "s"]).getD (ascii "P")
  let reading : PathReading :=
    { existing, keepsLinks := treatment != ascii "P", resolvesAfter := treatment == ascii "L" }
  let directory (path : Bytes) : Work Location := do
    let files ← Work.files
    match reading.locate files (← Work.here) path with
    | .error error => call.abandon (shownName path ++ ascii ": " ++ error.text)
    | .ok location =>
        if existing == .all && !(files.nodeAt? location).any Node.isDirectory then
          call.abandon (shownName path ++ ascii ": " ++ SystemError.text .notDirectory)
        else return location
  let base? := read.last? "relative-base"
  let start? ← ((read.last? "relative-to").orElse fun _ => base?).mapM directory
  let base? ← base?.mapM directory
  let isRelative (location : Location) : Bool :=
    match start?, base? with
    | some start, some base => base.isPrefixOf start && base.isPrefixOf location
    | _, _ => true
  let ending := if read.has "z" then [0] else [Byte.newline]
  writeEach call ending (!read.has "q") read.operands fun files here path =>
    (reading.locate files here path).map fun location =>
      match start? with
      | some start =>
          if isRelative location then relativePath start location else pathOf location
      | none => pathOf location

end TradeLocal.Programs

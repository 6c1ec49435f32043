import TradeLocal.Host.Entries
import TradeLocal.Host.Property
import TradeLocal.Programs.Mode
import TradeLocal.Programs.Options

/-!
# Making and removing files

`mkdir`, `rmdir` and `rm`.  What cannot be done with one operand is reported, and the
others are still looked at.
-/

namespace TradeLocal.Programs

open TradeLocal.Host

def below (directory name : Bytes) : Bytes :=
  if directory.getLast? == some Byte.slash then directory ++ name
  else directory ++ Byte.slash :: name

/-- Report that something about a path has failed, unless it has not.  Says whether it
worked. -/
def Call.check (call : Call) (text : String) (path : Bytes)
    (result : Except SystemError Unit) : Work Bool := do
  match result with
  | .ok () => return true
  | .error error => do
      call.complain (ascii text ++ ascii " " ++ quotedName path ++ ascii ": " ++ error.text)
      return false

def codeOf (results : List Bool) : Nat :=
  if results.all id then 0 else 1

def writtenName (path : Bytes) : Bytes :=
  ((dropSlashes path).reverse.takeWhile (· != Byte.slash)).reverse

def pathsTo (path : Bytes) : List Bytes :=
  let steps := (components path).foldl
    (fun (front, done) name =>
      if name.isEmpty then (front ++ [Byte.slash], done)
      else (front ++ name ++ [Byte.slash], (front ++ name) :: done))
    (([] : Bytes), ([] : List Bytes))
  steps.2.reverse

def makeOne (call : Call) (withParents isVerbose : Bool) (mode? : Option Nat) (path : Bytes) :
    Work Bool := do
  let make (path : Bytes) : Work (Except SystemError Unit) := do
    let result ← Work.makeDirectory path
    if result.isOk && isVerbose then
      Call.put (call.name ++ ascii ": created directory " ++ quotedName path ++ [Byte.newline])
    return result
  let setMode : Work Unit := do
    if let some mode := mode? then
      if let .ok found := find (← Work.files) (← Work.here) path then
        Work.changeMode found mode
  let isDirectory (path : Bytes) : Work Bool := do
    return hasProperty (← Work.files) (← Work.here) (Byte.ofChar 'd') path
  if !withParents then
    let result ← make path
    if result.isOk then setMode
    call.check "cannot create directory" path result
  else
    let mut done := true
    let paths := (pathsTo path).dropLast ++ [path]
    for front in paths do
      if done then
        match ← make front with
        | .ok () => if front == path then setMode
        | .error error =>
            unless ← isDirectory front do
              let isLast := front == path
              let isFile := (find (← Work.files) (← Work.here) front).isOk
              let error := if error == .alreadyExists && isFile && !isLast then
                .notDirectory else error
              done ← call.check "cannot create directory" front (.error error)
    return done

def makeDirectory (call : Call) : Work Nat := do
  let read ← call.parse
    [.of "p" "parents" .nothing, .of "m" "mode" .argument, .of "v" "verbose" .nothing,
      .of "Z" "" .nothing, .of "" "context" .optional]
  if read.operands.isEmpty then call.missOperand
  let mode? ←
    match read.last? "m" with
    | none => pure none
    | some word =>
        match newMode? word with
        | some change => pure (some (change (← Work.process).mask true 0o777))
        | none => call.abandon (ascii "invalid mode " ++ quoted word)
  return codeOf (← read.operands.mapM (makeOne call (read.has "p") (read.has "v") mode?))

def removeOne (call : Call) (read : Arguments) (path : Bytes) : Work Bool := do
  let paths := if read.has "p" then (pathsTo path).reverse else [path]
  let mut done := true
  for front in (if read.has "p" then path :: paths.tail else paths) do
    if done then
      if read.has "v" then
        Call.put (call.name ++ ascii ": removing directory, " ++ quotedName front ++
          [Byte.newline])
      let result ← Work.removeDirectory front
      match result with
      | .error .notEmpty | .error .busy =>
          if read.has "ignore-fail-on-non-empty" then return true
          else done ← call.check "failed to remove" front result
      | _ =>
          done ← call.check
            (if front == path then "failed to remove" else "failed to remove directory")
            front result
  return done

def removeDirectory (call : Call) : Work Nat := do
  let read ← call.parse
    [.of "p" "parents" .nothing, .of "v" "verbose" .nothing,
      .of "" "ignore-fail-on-non-empty" .nothing]
  if read.operands.isEmpty then call.missOperand
  return codeOf (← read.operands.mapM (removeOne call read))

def kindText : Node → Bytes
  | .directory _ _ => ascii "directory"
  | .file [] _ => ascii "regular empty file"
  | .file _ _ | .program _ => ascii "regular file"
  | .link _ => ascii "symbolic link"
  | .device _ => ascii "character special file"

def treeDepth : Nat := 1000

inductive Asking where
  | never
  /-- Once for all, where much is to be removed. -/
  | once
  | always
  deriving DecidableEq

inductive Removal where
  | done
  /-- It was kept because the answer was no. -/
  | kept
  | failed
  deriving DecidableEq

namespace Removal

def join (parts : List Removal) : Removal :=
  if parts.contains failed then failed
  else if parts.contains kept then kept
  else done

end Removal

structure Removing where
  call : Call
  read : Arguments
  asking : Asking

namespace Removing

def isRecursive (removing : Removing) : Bool :=
  removing.read.has "r"

def passesMissing (removing : Removing) : Bool :=
  let decides (given : Given) : Bool :=
    ["f", "i", "I"].any (fun key => given.key == ascii key) ||
      given.argument.any fun word => !(ascii "n").isPrefixOf word
  (removing.read.options.reverse.find? decides).any (·.key == ascii "f")

def check (removing : Removing) (path : Bytes) (result : Except SystemError Unit) :
    Work Removal := do
  match result with
  | .error .notFound | .error .notDirectory =>
      if removing.passesMissing then return .done
  | _ => pure ()
  return if ← removing.call.check "cannot remove" path result then .done else .failed

def agrees (removing : Removing) (question path : Bytes) : Work Bool := do
  if removing.asking == .always then
    removing.call.confirm (question ++ Byte.space :: quotedName path)
  else return true

def refusal (path : Bytes) (found : Found) : List Bytes :=
  let name := writtenName path
  if name = ascii "." || name = ascii ".." then
    [ascii "refusing to remove '.' or '..' directory: skipping " ++ quotedName path]
  else if found.location.isEmpty then
    [ascii "it is dangerous to operate recursively on " ++ quotedName path ++
      (if path = [Byte.slash] then [] else ascii " (same as '/')"),
      ascii "use --no-preserve-root to override this failsafe"]
  else []

def remove (removing : Removing) : Nat → Bool → Bytes → Work Removal
  | 0, _, _ => return .failed
  | fuel + 1, isFirst, path => do
      let call := removing.call
      let say (text : String) : Work Unit := do
        if removing.read.has "v" then
          Call.put (ascii text ++ quotedName path ++ [Byte.newline])
      match findEntry (← Work.files) (← Work.here) path with
      | .error error => removing.check path (.error error)
      | .ok found =>
          match found.node with
          | .directory entries _ =>
              if !removing.isRecursive && !(removing.read.has "d" && entries.isEmpty) then
                removing.check path
                  (.error (if removing.read.has "d" then .notEmpty else .isDirectory))
              else
                match if isFirst then refusal path found else [] with
                | text :: texts => do
                    (text :: texts).forM call.complain
                    return .failed
                | [] =>
                    let remove : Work Removal := do
                      let result ← Work.removeDirectory path
                      if result.isOk then say "removed directory "
                      removing.check path result
                    if entries.isEmpty then
                      if ← removing.agrees (ascii "remove directory") path then remove
                      else return .kept
                    else if ← removing.agrees (ascii "descend into directory") path then
                      let parts ← entries.mapM fun (name, _) =>
                        removing.remove fuel false (below path name)
                      match Removal.join parts with
                      | .done =>
                          if ← removing.agrees (ascii "remove directory") path then remove
                          else return .kept
                      | other => return other
                    else return .kept
          | node => do
              if ← removing.agrees (ascii "remove " ++ kindText node) path then
                let result ← Work.unlink path
                if result.isOk then say "removed "
                removing.check path result
              else return .kept

end Removing

/-- How many operands may be removed without a question if one is asked for all. -/
def unaskedLimit : Nat := 3

def remove (call : Call) : Work Nat := do
  let choice (word : Bytes) : Work String :=
    call.choose "--interactive" [["never", "no", "none"], ["once"], ["always", "yes"]] word
  let read ← call.parse
    [.of "f" "force" .nothing, .of "i" "" .nothing, .of "I" "" .nothing,
      .of "r" "recursive" .nothing, .of "R" "" .nothing,
      .of "d" "dir" .nothing, .of "v" "verbose" .nothing, .of "" "interactive" .optional,
      .of "" "one-file-system" .nothing, .of "" "no-preserve-root" .nothing,
      .of "" "preserve-root" .optional]
    fun _ given => do
      if given.key == ascii "interactive" then
        if let some word := given.argument then
          let _ ← choice word
  let read :=
    { read with
      options := read.options.map fun given =>
        if given.key == ascii "R" then { given with key := ascii "r" } else given }
  let asking ←
    match read.lastOf? ["f", "i", "I", "interactive"] with
    | none => pure Asking.never
    | some key =>
        if key == ascii "f" then pure Asking.never
        else if key == ascii "i" then pure Asking.always
        else if key == ascii "I" then pure Asking.once
        else
          match read.last? "interactive" with
          | none => pure Asking.always
          | some word => do
              let name ← choice word
              pure (if name == "never" then Asking.never
                else if name == "once" then Asking.once else Asking.always)
  let removing : Removing := ⟨call, read, asking⟩
  let operands := read.operands
  if operands.isEmpty then
    if removing.passesMissing then return 0 else call.missOperand
  else
    let isMuch := removing.isRecursive || unaskedLimit < operands.length
    let agrees ←
      if asking == .once && isMuch then
        call.confirm (ascii "remove " ++ Bytes.ofNat operands.length ++
          (if operands.length == 1 then ascii " argument" else ascii " arguments") ++
          (if removing.isRecursive then ascii " recursively" else []))
      else pure true
    if agrees then
      return codeOf ((← operands.mapM (removing.remove treeDepth true)).map (· != .failed))
    else return 0

end TradeLocal.Programs

import TradeLocal.Programs.Remove

/-!
# Permissions

`chmod` changes the permissions of files.
-/

namespace TradeLocal.Programs

open TradeLocal.Host

/-- Change the permissions of what a path names, and of all that is below if wanted.  Where
`isStrict` it is an error that the mask has kept permissions. -/
def changeModeOf (call : Call) (read : Arguments) (isStrict : Bool)
    (change : Nat → Bool → Nat → Nat) : Nat → Bool → Bytes → Work Bool
  | 0, _, _ => return false
  | fuel + 1, isBelow, path => do
      let files ← Work.files
      let here ← Work.here
      let isVerbose := read.lastOf? ["v", "c"] == some (ascii "v")
      let complain (text : Bytes) : Work Bool := do
        unless read.has "f" do call.complain text
        if isVerbose then
          Call.put (quotedName path ++ ascii " could not be accessed\n")
        return false
      if isBelow && isLink files here path then
        if isVerbose then
          Call.put (ascii "neither symbolic link " ++ quotedName path ++
            ascii " nor referent has been changed\n")
        return true
      else
        match find files here path with
        | .error error =>
            if isLink files here path && error == .notFound then
              complain (ascii "cannot operate on dangling symlink " ++ quotedName path)
            else complain (ascii "cannot access " ++ quotedName path ++ ascii ": " ++ error.text)
        | .ok found => do
            let before := found.node.mode
            let mask := (← Work.process).mask
            let after := change mask found.node.isDirectory before
            let expected := change 0 found.node.isDirectory before
            let isSurprising := isStrict && after &&& (0o7777 - expected) != 0
            Work.changeMode found after
            let shown (mode : Nat) : Bytes :=
              modeDigits mode ++ ascii " (" ++ modeText mode ++ ascii ")"
            let tell := read.lastOf? ["v", "c"]
            if before != after && tell.isSome then
              Call.put (ascii "mode of " ++ quotedName path ++ ascii " changed from " ++
                shown before ++ ascii " to " ++ shown after ++ [Byte.newline])
            else if isVerbose then
              Call.put (ascii "mode of " ++ quotedName path ++ ascii " retained as " ++
                shown after ++ [Byte.newline])
            if isSurprising then
              call.complain (shownName path ++ ascii ": new permissions are " ++ modeText after ++
                ascii ", not " ++ modeText expected)
            match read.has "R", found.node with
            | true, .directory entries _ => do
                let results ← entries.mapM fun (name, _) =>
                  changeModeOf call read isStrict change fuel true (below path name)
                return results.all id && !isSurprising
            | _, _ => return !isSurprising

/-- A word that takes permissions away, though it looks like options. -/
def isModeOption (word : Bytes) : Bool :=
  match word with
  | Byte.hyphen :: letter :: _ => (ascii "rwxXstugoa,+=01234567").contains letter
  | _ => false

def changeMode (call : Call) : Work Nat := do
  let front := call.arguments.takeWhile (· != ascii "--")
  let modeWords := front.filter isModeOption
  let arguments := modeWords.foldl List.erase call.arguments
  let read ← { call with arguments }.parse
    [.of "R" "recursive" .nothing, .of "c" "changes" .nothing, .of "f" "silent" .nothing,
      .of "f" "quiet" .nothing, .of "v" "verbose" .nothing, .of "" "reference" .argument,
      .of "" "preserve-root" .nothing, .of "" "no-preserve-root" .nothing]
  let reference? := read.last? "reference"
  let isOption := !modeWords.isEmpty
  if isOption && reference?.isSome then
    call.misuse (ascii "cannot combine mode and --reference options")
  let isGiven := isOption || reference?.isSome
  let word? := if isOption then some (Bytes.join (Byte.ofChar ',') modeWords)
    else if isGiven then none else read.operands.head?
  let operands := if isGiven then read.operands else read.operands.tail
  if operands.isEmpty then
    match word?, isGiven with
    | some word, false => call.misuse (ascii "missing operand after " ++ quoted word)
    | _, _ => call.missOperand
  let change : Nat → Bool → Nat → Nat ←
    match word?, reference? with
    | some word, _ =>
        match newMode? word with
        | some change => pure change
        | none => call.misuse (ascii "invalid mode: " ++ quoted word)
    | none, reference? => do
        let path := reference?.getD []
        match find (← Work.files) (← Work.here) path with
        | .ok found => pure fun _ _ _ => found.node.mode
        | .error error =>
            call.abandon (ascii "failed to get attributes of " ++ quotedName path ++ ascii ": " ++
              error.text)
  return codeOf (← operands.mapM (changeModeOf call read isOption change treeDepth false))

end TradeLocal.Programs

import TradeLocal.Programs.Options

/-!
# Passing on what is read

`cat`, `tac`, `rev` and `tee` write what they read: as it is, with marks, or in reverse.
-/

namespace TradeLocal.Programs

open TradeLocal.Host

structure Concatenation where
  /-- The number of the last numbered line. -/
  number : Nat := 0
  atStart : Bool := true
  /-- Whether the last line was empty. -/
  wasEmpty : Bool := false

def seen (byte : UInt8) : Bytes :=
  let low := byte % 128
  let shown := if low < 32 then [94, low + 64] else if low == 127 then ascii "^?" else [low]
  if byte < 128 then shown else ascii "M-" ++ shown

def marked (has : String → Bool) (line : Bytes) : Bytes :=
  let hasNewline := line.getLast? == some Byte.newline
  let text := if hasNewline then line.dropLast else line
  let showsEnd := has "E"
  let showsReturn := showsEnd && hasNewline && text.getLast? == some 13 && !has "v"
  let text := if showsReturn then text.dropLast else text
  let shown := text.flatMap fun byte =>
    if byte == 9 then (if has "T" then ascii "^I" else [byte])
    else if has "v" then seen byte else [byte]
  shown ++ (if showsReturn then ascii "^M" else []) ++
    (if hasNewline then (if showsEnd then [Byte.dollar, Byte.newline] else [Byte.newline]) else [])

def numbered (has : String → Bool) (state : Concatenation) (line : Bytes) :
    Bytes × Concatenation :=
  let isEmpty := line == [Byte.newline]
  let skips := has "s" && isEmpty && state.wasEmpty && state.atStart
  if skips then ([], state)
  else
    let counts := state.atStart && (if has "b" then !isEmpty else has "n")
    let number := if counts then state.number + 1 else state.number
    let digits := Bytes.ofNat number
    let front :=
      if counts then List.replicate (6 - digits.length) Byte.space ++ digits ++ [9] else []
    (front ++ marked has line,
      { number, atStart := line.getLast? == some Byte.newline
        wasEmpty := isEmpty && state.atStart })

/-- Whether a file is written to from a later place than it is read from. -/
def isOutput (path : Bytes) : Work Bool := do
  let input? ←
    if path = [Byte.hyphen] then Work.opened? 0
    else
      match find (← Work.files) (← Work.here) path with
      | .ok found =>
          pure (some (0, { object := .node found.number, reads := true, writes := false }))
      | .error _ => pure none
  match input?, ← Work.opened? 1 with
  | some (_, input), some (_, output) =>
      match input.object, (← Work.machine).files.nodes with
      | .node number, nodes =>
          match nodes[number]? with
          | some (.file text _) =>
              let place := if output.appends then text.length else output.offset
              return output.object == .node number && input.offset < place
          | _ => return false
      | _, _ => return false
  | _, _ => return false

def concatenate (call : Call) : Work Nat := do
  let read ← call.parse
    [.of "A" "show-all" .nothing, .of "b" "number-nonblank" .nothing, .of "e" "" .nothing,
      .of "E" "show-ends" .nothing, .of "n" "number" .nothing, .of "s" "squeeze-blank" .nothing,
      .of "t" "" .nothing, .of "T" "show-tabs" .nothing, .of "u" "" .nothing,
      .of "v" "show-nonprinting" .nothing]
  let has (key : String) : Bool :=
    read.has key ||
      (read.has "A" && (key == "v" || key == "E" || key == "T")) ||
      (read.has "e" && (key == "v" || key == "E")) ||
      (read.has "t" && (key == "v" || key == "T"))
  let isPlain := ["b", "n", "s", "v", "E", "T"].all fun key => !has key
  let operands := if read.operands.isEmpty then [[Byte.hyphen]] else read.operands
  if (← Work.opened? 1).isNone then
    call.abandon (ascii "standard output: " ++ SystemError.text .badDescriptor)
  let mut state : Concatenation := {}
  let mut code := 0
  for path in operands do
    if ← isOutput path then
      call.complain (shownName path ++ ascii ": input file is output file")
      code := 1
    else
      match ← call.contents? path with
      | none => code := 1
      | some text =>
          if isPlain then call.putNow text
          else
            let (pieces, after) := (fullLines text).foldl
              (fun (pieces, state) line =>
                let (piece, state) := numbered has state line
                (piece :: pieces, state))
              (([] : List Bytes), state)
            state := after
            call.putNow pieces.reverse.flatten
  return if ← call.closeInput operands "closing standard input" then code else 1

def piecesAfter (separator : Bytes) : Nat → Bytes → Bytes → List Bytes
  | 0, piece, _ => if piece.isEmpty then [] else [piece.reverse]
  | _, piece, [] => if piece.isEmpty then [] else [piece.reverse]
  | fuel + 1, piece, byte :: rest =>
      if separator.isPrefixOf (byte :: rest) then
        (piece.reverse ++ separator) ::
          piecesAfter separator fuel [] ((byte :: rest).drop separator.length)
      else piecesAfter separator fuel (byte :: piece) rest

def piecesBefore (separator : Bytes) : Nat → Bytes → Bytes → List Bytes
  | 0, piece, _ => if piece.isEmpty then [] else [piece.reverse]
  | _, piece, [] => if piece.isEmpty then [] else [piece.reverse]
  | fuel + 1, piece, byte :: rest =>
      if separator.isPrefixOf (byte :: rest) then
        let others :=
          piecesBefore separator fuel separator.reverse ((byte :: rest).drop separator.length)
        if piece.isEmpty then others else piece.reverse :: others
      else piecesBefore separator fuel (byte :: piece) rest

def reverseLines (call : Call) : Work Nat := do
  let read ← call.parse
    [.of "b" "before" .nothing, .of "r" "regex" .nothing, .of "s" "separator" .argument]
  let piecesOf (separator text : Bytes) : List Bytes :=
    if read.has "b" then piecesBefore separator (text.length + 1) [] text
    else piecesAfter separator (text.length + 1) [] text
  let separator :=
    match read.last? "s" with
    | some [] | none => if read.has "s" then [0] else [Byte.newline]
    | some separator => separator
  let operands := if read.operands.isEmpty then [[Byte.hyphen]] else read.operands
  let mut code := 0
  for path in operands do
    match ← Call.contents path with
    | .ok text =>
        Call.put (piecesOf separator text).reverse.flatten
    | .error error => do
        if path ≠ [Byte.hyphen] && error != .isDirectory then
          call.complain (ascii "failed to open " ++ quotedName path ++ ascii " for reading: " ++
            error.text)
        else
          let reason := if error == .isDirectory then SystemError.invalidArgument else error
          let name := if path = [Byte.hyphen] then ascii "standard input" else path
          call.complain (shownName name ++ ascii ": read error: " ++ reason.text)
        code := 1
  return if ← call.closeInput operands then code else 1

def reverseBytes (call : Call) : Work Nat := do
  let read ← call.parse [.of "h" "help" .nothing, .of "V" "version" .nothing]
  let sources :=
    if read.operands.isEmpty then [(ascii "stdin", Work.readAll 0)]
    else read.operands.map fun path => (path, Work.readFile path)
  let mut code := 0
  for (path, source) in sources do
    match ← source with
    | .ok text =>
        Call.put ((fullLines text).flatMap fun line =>
          if line.getLast? == some Byte.newline then line.dropLast.reverse ++ [Byte.newline]
          else line.reverse)
    | .error error => do
        call.complain (ascii "cannot open " ++ path ++ ascii ": " ++ error.text)
        code := 1
  return code

def tee (call : Call) : Work Nat := do
  let read ← call.parse
    [.of "a" "append" .nothing, .of "i" "ignore-interrupts" .nothing, .of "p" "" .nothing,
      .of "" "output-error" .optional]
    fun _ given => do
      if given.key == ascii "output-error" then
        if let some argument := given.argument then
          let _ ← call.choose "--output-error"
            [["warn"], ["warn-nopipe"], ["exit"], ["exit-nopipe"]] argument
  let request : Work.Request := if read.has "a" then .appending else .writing
  let opened ← read.operands.mapM fun path => do
    match ← Work.openFile request path with
    | .ok number => return some number
    | .error error => do
        call.complainOf path error
        return none
  let input ← Work.readAll 0
  if let .error error := input then call.complain (ascii "read error: " ++ error.text)
  let text := input.toOption.getD []
  call.putNow text
  for number in opened.filterMap id do
    if let some file := (← Work.machine).opened[number]? then
      let _ ← Work.writeOpened number file text
  let isClosed ← call.closeInput [[Byte.hyphen]] "standard input"
  return if isClosed && input.isOk && opened.all Option.isSome then 0 else 1

end TradeLocal.Programs

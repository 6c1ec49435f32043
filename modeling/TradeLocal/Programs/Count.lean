import TradeLocal.Programs.Layout

/-!
# Counting

`wc` counts the lines, words and bytes of files; the numbers stand in columns that are as wide
as the sizes of the files make them.
-/

namespace TradeLocal.Programs

open TradeLocal.Host

structure Counts where
  lines : Nat := 0
  words : Nat := 0
  characters : Nat := 0
  bytes : Nat := 0
  width : Nat := 0

namespace Counts

def sum (left right : Counts) : Counts :=
  { lines := left.lines + right.lines, words := left.words + right.words
    characters := left.characters + right.characters, bytes := left.bytes + right.bytes
    width := max left.width right.width }

/-- How many words a text has.  What cannot be seen neither makes nor ends a word. -/
def wordsOf (text : Bytes) : Nat :=
  (text.foldl
    (fun (count, isInside) byte =>
      if Byte.isSpace byte then (count, false)
      else if isUnseen byte then (count, isInside)
      else (if isInside then count else count + 1, true))
    (0, false)).1

def columnsOf (line : Bytes) : Nat :=
  line.foldl
    (fun column byte =>
      if byte == 9 then column + 8 - column % 8
      else if isUnseen byte then column
      else column + 1)
    0

def ofText (text : Bytes) : Counts :=
  { lines := text.countP (· == Byte.newline), words := wordsOf text
    characters := text.length, bytes := text.length
    width := ((Bytes.splitOn Byte.newline text).map columnsOf).foldl max 0 }

end Counts

/-- The size of a file with contents of its own; nothing for other files. -/
def plainSize? (path : Bytes) : Work (Except SystemError (Option Nat)) := do
  let node? : Except SystemError Node ←
    if path = [Byte.hyphen] then
      match ← Work.opened? 0 with
      | some (_, { object := .node number, .. }) =>
          pure (match (← Work.files).node? number with
            | some node => .ok node
            | none => .error .badDescriptor)
      | some _ => pure (.ok (.device .null))
      | none => pure (.error .badDescriptor)
    else pure ((find (← Work.files) (← Work.here) path).map Found.node)
  return node?.map fun node =>
    match node with
    | .file text _ => some text.length
    | _ => none

def widthOfStreams : Nat := 7

def totalOf (call : Call) (argument : Option Bytes) : Work String :=
  match argument with
  | none => return "auto"
  | some argument => call.choose "--total" [["auto"], ["always"], ["only"], ["never"]] argument

def count (call : Call) : Work Nat := do
  let read ← call.parse
    [.of "c" "bytes" .nothing, .of "m" "chars" .nothing, .of "l" "lines" .nothing,
      .of "L" "max-line-length" .nothing, .of "w" "words" .nothing,
      .of "" "files0-from" .argument, .of "" "total" .argument]
    fun _ given => do
      if given.key == ascii "total" then
        let _ ← totalOf call given.argument
  let keys := ["l", "w", "m", "c", "L"].filter read.has
  let keys := if keys.isEmpty then ["l", "w", "c"] else keys
  let paths := read.files
  let sizes ← paths.mapM plainSize?
  let isSingle := paths.length == 1 && keys.length == 1
  let width :=
    if isSingle then 1
    else
      let known := sizes.filterMap fun size => size.toOption
      let total := (known.filterMap id).foldl (· + ·) 0
      let least := if known.any Option.isNone then widthOfStreams else 1
      max least (Bytes.ofNat total).length
  let mode ← totalOf call (read.last? "total")
  let numberOf (counts : Counts) (key : String) : Nat :=
    if key == "l" then counts.lines
    else if key == "w" then counts.words
    else if key == "m" then counts.characters
    else if key == "c" then counts.bytes
    else counts.width
  let write (counts : Counts) (name : Bytes) : Work Unit :=
    let columns := keys.map fun key =>
      let digits := Bytes.ofNat (numberOf counts key)
      List.replicate (width - digits.length) Byte.space ++ digits
    Call.put (Bytes.join Byte.space columns ++
      (if name.isEmpty then [] else Byte.space :: name) ++ [Byte.newline])
  let mut total : Counts := {}
  let mut code := 0
  for path in paths do
    let name := if read.operands.isEmpty then [] else path
    match ← Call.contents path with
    | .ok text => do
        let counts := Counts.ofText text
        total := total.sum counts
        unless mode == "only" do write counts name
    | .error error => do
        call.complainOf (if read.operands.isEmpty then ascii "standard input" else path) error
        code := 1
        let isOpened := error == .isDirectory || path = [Byte.hyphen]
        if isOpened && mode != "only" then write {} name
  if mode == "only" then
    Call.put (Bytes.join Byte.space (keys.map fun key => Bytes.ofNat (numberOf total key)) ++
      [Byte.newline])
  else if mode == "always" || (mode == "auto" && 1 < paths.length) then
    write total (ascii "total")
  return if ← call.closeInput paths then code else 1

end TradeLocal.Programs

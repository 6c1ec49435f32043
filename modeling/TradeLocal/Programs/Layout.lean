import TradeLocal.Numeral.Integer
import TradeLocal.Programs.Options
import TradeLocal.Regex.Reading

/-!
# Laying out lines

`nl` numbers lines, `fold` breaks them, and `paste` joins them.
-/

namespace TradeLocal.Programs

open TradeLocal.Host TradeLocal.Numeral

def Arguments.files (read : Arguments) : List Bytes :=
  if read.operands.isEmpty then [[Byte.hyphen]] else read.operands

def Call.allContents (call : Call) (paths : List Bytes) : Work (List Bytes × Bool) := do
  let results ← paths.mapM call.contents?
  return (results.filterMap id, results.all Option.isSome)

def readAmount (call : Call) (text : String) (least : Int) (word : Bytes) : Work Int := do
  match readInteger? (some 10) word with
  | some (value, []) =>
      if value < least then
        call.abandon (ascii text ++ quoted word ++ ascii ": Numerical result out of range")
      else return value
  | _ => call.abandon (ascii text ++ quoted word)

inductive Numbering where
  | all
  | filled
  | none
  | matching (regex : Regex)

def Numbering.read? (call : Call) (word : Bytes) : Work (Option Numbering) := do
  match word with
  | letter :: rest =>
      if letter == Byte.ofChar 'a' then return some .all
      else if letter == Byte.ofChar 't' then return some .filled
      else if letter == Byte.ofChar 'n' then return some .none
      else if letter == Byte.ofChar 'p' then
        match Regex.compile { isExtended := false } rest with
        | .error mistake => call.abandon mistake.text
        | .ok compiled => return some (.matching compiled.regex)
      else return Option.none
  | [] => return Option.none

structure NumberedLayout where
  header : Numbering := .none
  body : Numbering := .filled
  footer : Numbering := .none
  /-- What is repeated on a line between the sections of a page. -/
  delimiter : Bytes := ascii "\\:"
  first : Int := 1
  step : Int := 1
  /-- Of so many empty lines one counts. -/
  joined : Int := 1
  width : Nat := 6
  separator : Bytes := [9]
  format : Bytes := ascii "rn"
  keepsNumbers : Bool := false

namespace NumberedLayout

def shown (layout : NumberedLayout) (number : Int) : Bytes :=
  let text := Bytes.ofInt number
  let missing := layout.width - text.length
  if layout.format == ascii "ln" then text ++ List.replicate missing Byte.space
  else if layout.format == ascii "rz" then
    if number < 0 then Byte.hyphen :: List.replicate missing 48 ++ text.drop 1
    else List.replicate missing 48 ++ text
  else List.replicate missing Byte.space ++ text

def section? (layout : NumberedLayout) (line : Bytes) : Option Numbering :=
  let mark := layout.delimiter
  if mark.isEmpty then none
  else if line = mark then some layout.footer
  else if line = mark ++ mark then some layout.body
  else if line = mark ++ mark ++ mark then some layout.header
  else none

/-- Number lines, from a number on and with so many empty lines not counted so far. -/
def write (layout : NumberedLayout) : Numbering → Int → Int → List Bytes → List Bytes
  | _, _, _, [] => []
  | numbering, number, empty, line :: rest =>
      match layout.section? line with
      | some other =>
          [Byte.newline] ::
            layout.write other (if layout.keepsNumbers then number else layout.first) empty rest
      | none =>
          let (isCounted, empty) :=
            match numbering with
            | .none => (false, empty)
            | .filled => (!line.isEmpty, empty)
            | .matching regex => ((regex.find? { text := line }).isSome, empty)
            | .all =>
                if layout.joined ≤ 1 || !line.isEmpty then (true, if line.isEmpty then empty else 0)
                else if empty + 1 == layout.joined then (true, 0)
                else (false, empty + 1)
          let front :=
            if isCounted then layout.shown number ++ layout.separator
            else List.replicate (layout.width + layout.separator.length) Byte.space
          (front ++ line ++ [Byte.newline]) ::
            layout.write numbering (if isCounted then number + layout.step else number) empty rest

end NumberedLayout

def numberLines (call : Call) : Work Nat := do
  let styles := [("b", "body"), ("h", "header"), ("f", "footer")]
  let lowest := leastInteger
  let amounts : List (String × String × Int) :=
    [("v", "starting line number", lowest), ("i", "line number increment", lowest),
      ("l", "line number of blank lines", 1), ("w", "line number field width", 1)]
  let formats := ["ln", "rn", "rz"].map ascii
  let read ← call.parse
    [.of "b" "body-numbering" .argument, .of "d" "section-delimiter" .argument,
      .of "f" "footer-numbering" .argument, .of "h" "header-numbering" .argument,
      .of "i" "line-increment" .argument, .of "l" "join-blank-lines" .argument,
      .of "n" "number-format" .argument, .of "p" "no-renumber" .nothing,
      .of "s" "number-separator" .argument, .of "v" "starting-line-number" .argument,
      .of "w" "number-width" .argument]
    fun _ given => do
      let word := given.argument.getD []
      for (key, name) in styles do
        if given.key == ascii key && (← Numbering.read? call word).isNone then
          call.complain (ascii "invalid " ++ ascii name ++ ascii " numbering style: " ++ quoted word)
      for (key, name, least) in amounts do
        if given.key == ascii key then
          let _ ← readAmount call ("invalid " ++ name ++ ": ") least word
      if given.key == ascii "n" && !formats.contains word then
        call.complain (ascii "invalid line numbering format: " ++ quoted word)
  for given in read.options do
    if styles.any fun (key, _) => given.key == ascii key then
      if (← Numbering.read? call (given.argument.getD [])).isNone then call.referToHelp
  let standard : NumberedLayout := {}
  let style (key : String) (default : Numbering) : Work Numbering := do
    match read.last? key with
    | none => return default
    | some word => return (← Numbering.read? call word).getD default
  let amount (key : String) (default : Int) : Work Int := do
    match read.last? key with
    | none => return default
    | some word => readAmount call "" lowest word
  let format := (read.last? "n").getD standard.format
  unless read.options.all fun given =>
      given.key != ascii "n" || formats.contains (given.argument.getD []) do
    call.referToHelp
  let delimiter :=
    match read.last? "d" with
    | none => standard.delimiter
    | some [byte] => byte :: standard.delimiter.drop 1
    | some text => text
  let layout : NumberedLayout :=
    { header := ← style "h" standard.header, body := ← style "b" standard.body
      footer := ← style "f" standard.footer, delimiter, format
      first := ← amount "v" standard.first, step := ← amount "i" standard.step
      joined := ← amount "l" standard.joined, width := (← amount "w" standard.width).toNat
      separator := (read.last? "s").getD standard.separator, keepsNumbers := read.has "p" }
  let (texts, isComplete) ← call.allContents read.files
  Call.put (layout.write layout.body layout.first 0 (texts.flatMap lines)).flatten
  return if (← call.closeInput read.files) && isComplete then 0 else 1

def columnAfter (countsBytes : Bool) (column : Nat) (byte : UInt8) : Nat :=
  if countsBytes then column + 1
  else if byte == 8 then column - 1
  else if byte == 13 then 0
  else if byte == 9 then column + 8 - column % 8
  else column + 1

/-- Break a text into lines of at most so many columns.  The present line is held in reverse. -/
def foldText (countsBytes atSpaces : Bool) (width : Nat) : Nat → Bytes → Nat → Bytes → Bytes
  | 0, line, _, _ => line.reverse
  | _, line, _, [] => line.reverse
  | fuel + 1, line, column, byte :: rest =>
      if byte == Byte.newline then
        line.reverse ++ Byte.newline :: foldText countsBytes atSpaces width fuel [] 0 rest
      else
        let next := columnAfter countsBytes column byte
        if next ≤ width || line.isEmpty then
          foldText countsBytes atSpaces width fuel (byte :: line) next rest
        else
          let tail := line.takeWhile fun byte => !Byte.isBlank byte
          if atSpaces && tail.length < line.length then
            let column := tail.reverse.foldl (columnAfter countsBytes) 0
            (line.drop tail.length).reverse ++ Byte.newline ::
              foldText countsBytes atSpaces width fuel tail column (byte :: rest)
          else
            line.reverse ++ Byte.newline ::
              foldText countsBytes atSpaces width fuel [] 0 (byte :: rest)

def fold (call : Call) : Work Nat := do
  let isWidth (word : Bytes) : Bool :=
    match word with
    | Byte.hyphen :: digits => !digits.isEmpty && digits.all Byte.isDigit
    | _ => false
  let arguments := call.arguments.map fun word =>
    if isWidth word then ascii "-w" ++ word.drop 1 else word
  let read ← { call with arguments }.parse
    [.of "b" "bytes" .nothing, .of "s" "spaces" .nothing, .of "w" "width" .argument]
    fun _ given => do
      if given.key == ascii "w" then
        let _ ← readWidth (given.argument.getD [])
  let width := (← (read.last? "w").mapM readWidth).getD 80
  let (texts, isComplete) ← call.allContents read.files
  for text in texts do
    Call.put
      (foldText (read.has "b") (read.has "s") width.toNat (2 * text.length + 2) [] 0 text)
  return if (← call.closeInput read.files) && isComplete then 0 else 1
where
  readWidth (word : Bytes) : Work Int :=
    readAmount call "invalid number of columns: " 1 word

/-- The delimiters in a list; an escaped zero stands for none. -/
def delimiters : Bytes → List Bytes
  | Byte.backslash :: letter :: rest =>
      let meaning : Bytes :=
        if letter == Byte.ofChar 'n' then [Byte.newline]
        else if letter == Byte.ofChar 't' then [9]
        else if letter == 48 then []
        else if letter == Byte.ofChar 'b' then [8]
        else if letter == Byte.ofChar 'f' then [12]
        else if letter == Byte.ofChar 'r' then [13]
        else if letter == Byte.ofChar 'v' then [11]
        else [letter]
      meaning :: delimiters rest
  | byte :: rest => [byte] :: delimiters rest
  | [] => []

def joinWith (delimiters : List Bytes) (pieces : List Bytes) : Bytes :=
  let between := delimiters.toArray
  (pieces.zipIdx.flatMap fun (piece, index) =>
    if index == 0 then piece
    else (between[(index - 1) % max 1 between.size]?).getD [] ++ piece)

def everyOther (step : Nat) (first : Nat) (lines : List Bytes) : List Bytes :=
  lines.zipIdx.filterMap fun (line, index) =>
    if index % max 1 step == first then some line else none

/-- Join lines: those of each file, or the first of all files, the second, and so on. -/
def paste (call : Call) : Work Nat := do
  let read ← call.parse
    [.of "s" "serial" .nothing, .of "d" "delimiters" .argument,
      .of "z" "zero-terminated" .nothing]
  let list := (read.last? "d").getD [9]
  let back := (list.reverse.takeWhile (· == Byte.backslash)).length
  if back % 2 == 1 then
    call.abandon (ascii "delimiter list ends with an unescaped backslash: " ++ list)
  let between := if list.isEmpty then [[]] else delimiters list
  let separator : UInt8 := if read.has "z" then 0 else Byte.newline
  let linesOf (text : Bytes) : List Bytes :=
    if read.has "z" then
      let pieces := Bytes.splitOn 0 text
      if pieces.getLast? == some [] then pieces.dropLast else pieces
    else lines text
  let paths := read.files
  let isSerial := read.has "s"
  unless isSerial do
    for path in paths do
      if path ≠ [Byte.hyphen] then
        if let .error error := find (← Work.files) (← Work.here) path then
          call.complainOf path error
          Work.exit 1
    let isInput (path : Bytes) : Bool := path = [Byte.hyphen]
    if (← Work.opened? 0).isNone && paths.any isInput && !paths.all isInput then
      call.abandon (ascii "standard input is closed")
  let hyphens := (paths.filter (· = [Byte.hyphen])).length
  let input? ← if hyphens == 0 then pure (some []) else call.contents? [Byte.hyphen]
  let input := linesOf (input?.getD [])
  let mut seenHyphens := 0
  let mut columns : List (List Bytes) := []
  let mut isComplete := input?.isSome
  for path in paths do
    if path = [Byte.hyphen] then
      let own :=
        if isSerial then (if seenHyphens == 0 then input else [])
        else everyOther hyphens seenHyphens input
      columns := columns ++ [own]
      seenHyphens := seenHyphens + 1
    else
      match ← Call.contents path with
      | .ok text => columns := columns ++ [linesOf text]
      | .error error => do
          call.complainOf path error
          isComplete := false
          if !isSerial || error == .isDirectory then columns := columns ++ [[]]
  if isSerial then
    for column in columns do Call.put (joinWith between column ++ [separator])
  else
    let height := (columns.map List.length).foldl max 0
    let arrays := columns.map List.toArray
    for index in List.range height do
      Call.put (joinWith between (arrays.map fun column => (column[index]?).getD []) ++
        [separator])
  return if (← call.closeInput paths) && isComplete then 0 else 1

end TradeLocal.Programs

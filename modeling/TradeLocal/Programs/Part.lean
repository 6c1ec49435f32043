import TradeLocal.Programs.Layout

/-!
# Parts of files

`head` and `tail` write the first and the last lines of files, `cut` the parts of each line.
-/

namespace TradeLocal.Programs

open TradeLocal.Host TradeLocal.Numeral

/-- The letters for multiples, in the order of the powers they stand for. -/
def multipleLetters : Bytes := ascii "KMGTPEZYRQ"

def multiple? (suffix : Bytes) : Option Nat :=
  match suffix with
  | [] => some 1
  | letter :: rest =>
      if letter == Byte.ofChar 'b' && rest.isEmpty then some 512
      else
        let upper := if letter == Byte.ofChar 'k' || letter == Byte.ofChar 'm' then
          Byte.toUpper letter else letter
        match multipleLetters.findIdx? (· == upper) with
        | none => none
        | some index =>
            if rest.isEmpty || rest = ascii "iB" then some (Nat.pow 1024 (index + 1))
            else if rest = ascii "B" then some (Nat.pow 1000 (index + 1))
            else none

structure Amount where
  count : Nat
  sign? : Option UInt8

def amount (call : Call) (what : String) (word : Bytes) : Work Amount := do
  let sign? := word.head?.filter fun byte => byte == Byte.plus || byte == Byte.hyphen
  let text := if sign?.isSome then word.tail else word
  let refuse {α : Type} (ending : String) : Work α :=
    call.abandon (ascii "invalid number of " ++ ascii what ++ ascii ": " ++ quoted text ++
      ascii ending)
  match readNatural? (some 10) text with
  | none => refuse ""
  | some (value, suffix) =>
      match multiple? suffix with
      | none => refuse ""
      | some factor =>
          if greatestInteger * 2 + 1 < Int.ofNat (value * factor) then
            refuse ": Value too large for defined data type"
          else return { count := value * factor, sign? }

/-- The options for the start or the end of files.  A digit is read as an option of its own. -/
def partForms : List OptionForm :=
  [.of "n" "lines" .argument, .of "c" "bytes" .argument, .of "q" "quiet" .nothing,
    .of "q" "silent" .nothing, .of "v" "verbose" .nothing, .of "z" "zero-terminated" .nothing] ++
    (List.range 10).map fun digit => ⟨some (48 + digit.toUInt8), none, .nothing⟩

structure PartRequest where
  amount : Amount
  countsBytes : Bool
  read : Arguments

def amountOf? (call : Call) (given : Given) : Work (Option (Amount × Bool)) := do
  let countsBytes := given.key == ascii "c"
  if countsBytes || given.key == ascii "n" then
    let amount ← amount call (if countsBytes then "bytes" else "lines") (given.argument.getD [])
    return some (amount, countsBytes)
  else return none

def partRequest (call : Call) (forms : List OptionForm) (refuseDigit : UInt8 → Work Unit) :
    Work PartRequest := do
  let read ← call.parse forms fun _ given => do
    let _ ← amountOf? call given
    if let [letter] := given.key then
      if Byte.isDigit letter then refuseDigit letter
  let amounts := (← read.options.mapM (amountOf? call)).filterMap id
  let (amount, countsBytes) := amounts.getLast?.getD (⟨10, none⟩, false)
  return { amount, countsBytes, read }

/-- Write a part of each file, under headings if there are several.  Standard input that is
closed is reported in words of its own, and a directory may end the program. -/
def writeParts (call : Call) (request : PartRequest) (closedText : Bytes) (endsAtDirectory : Bool)
    (part : Bytes → Work (Except SystemError Bytes)) : Work Nat := do
  let paths := request.read.files
  let hasHeadings :=
    match request.read.lastOf? ["q", "v"] with
    | some key => key == ascii "v"
    | none => 1 < paths.length
  let mut isFirst := true
  let mut code := 0
  for path in paths do
    let result ← part path
    let isInput := path = [Byte.hyphen]
    let name := if isInput then ascii "standard input" else path
    let heading := (if isFirst then [] else [Byte.newline]) ++ ascii "==> " ++ name ++
      ascii " <==\n"
    match result with
    | .ok text => do
        if hasHeadings then Call.put heading
        isFirst := false
        Call.put text
    | .error error => do
        if isInput || error == .isDirectory then
          if hasHeadings then Call.put heading
          isFirst := false
          let isClosed := error == .badDescriptor
          call.complain ((if isClosed then closedText else ascii "error reading ") ++
            quotedName name ++ ascii ": " ++ error.text)
          if error == .isDirectory && endsAtDirectory then Work.exit 1
        else
          call.complain (ascii "cannot open " ++ quotedName path ++ ascii " for reading: " ++
            error.text)
        code := 1
  return if ← call.closeInput paths then code else 1

def piecesOf (request : PartRequest) (text : Bytes) : List Bytes :=
  if request.read.has "z" then piecesTo 0 text else fullLines text
where
  /-- The pieces of a text, each with the byte at its end. -/
  piecesTo (ending : UInt8) (text : Bytes) : List Bytes :=
    let pieces := Bytes.splitOn ending text
    pieces.dropLast.map (· ++ [ending]) ++ (pieces.drop (pieces.length - 1)).filter (!·.isEmpty)

def readLength : Nat := 8192

def readEnough (isEnough : Bytes → Bool) : Nat → List Bytes → Work (Except SystemError Bytes)
  | 0, read => return .ok read.reverse.flatten
  | fuel + 1, read => do
      match ← Work.read readLength 0 with
      | .error error => return .error error
      | .ok [] => return .ok read.reverse.flatten
      | .ok piece =>
          let read := piece :: read
          if isEnough read.flatten then return .ok read.reverse.flatten
          else readEnough isEnough fuel read

/-- Arguments in which a number in the first place is spelled as an option.  The letters behind
it say what is counted, and what else is wanted. -/
def spellCount (call : Call) (refuse : UInt8 → Work Unit) : Work (List Bytes) := do
  match call.arguments with
  | (Byte.hyphen :: rest) :: others => do
      let digits := rest.takeWhile Byte.isDigit
      if digits.isEmpty then return call.arguments
      else
        let letters := rest.drop digits.length
        for letter in letters do
          unless (ascii "bcklmqvz").contains letter do refuse letter
        let counting := letters.filter (ascii "bcklm").contains
        let option :=
          match counting.getLast? with
          | none => ascii "-n" ++ digits
          | some letter =>
              if letter == Byte.ofChar 'l' then ascii "-n" ++ digits
              else if letter == Byte.ofChar 'c' then ascii "-c" ++ digits
              else ascii "-c" ++ digits ++ [letter]
        let flags := letters.filter (ascii "qvz").contains
        return option :: flags.map (fun letter => [Byte.hyphen, letter]) ++ others
  | arguments => return arguments

def head (call : Call) : Work Nat := do
  let refuse (letter : UInt8) : Work Unit :=
    call.misuse (ascii "invalid trailing option -- " ++ [letter])
  let arguments ← spellCount call refuse
  let request ← partRequest { call with arguments } partForms refuse
  let read := request.read
  let amount := request.amount
  let take (text : Bytes) : Bytes :=
    match request.countsBytes, amount.sign? == some Byte.hyphen with
    | true, false => text.take amount.count
    | true, true => text.take (text.length - amount.count)
    | false, fromEnd =>
        let pieces := piecesOf request text
        (pieces.take (if fromEnd then pieces.length - amount.count else amount.count)).flatten
  let part (path : Bytes) : Work (Except SystemError Bytes) := do
    if path = [Byte.hyphen] && amount.sign? != some Byte.hyphen then
      let isEnough (text : Bytes) : Bool :=
        if request.countsBytes then amount.count ≤ text.length
        else amount.count ≤ text.countP (· == if read.has "z" then 0 else Byte.newline)
      if amount.count == 0 then return .ok []
      else
        match ← readEnough isEnough Pipe.writeLimit [] with
        | .error error => return .error error
        | .ok text => do
            let taken := take text
            if let some (_, file) := ← Work.opened? 0 then
              if let .node _ := file.object then
                Work.unread 0 (text.drop taken.length)
            return .ok taken
    else
      match ← Call.contents path with
      | .ok text => return .ok (take text)
      | .error error =>
          let isUnread := error == .isDirectory && amount.count == 0 &&
            amount.sign? != some Byte.hyphen
          return if isUnread then .ok [] else .error error
  writeParts call request (ascii "error reading ") false part

/-- An option for a number in the first place, with a plus or a hyphen in front and letters
behind. -/
def oldAmount? (word : Bytes) : Option (List Bytes) :=
  match word with
  | mark :: rest =>
      let digits := rest.takeWhile Byte.isDigit
      let behind := rest.drop digits.length
      let (letter, behind) :=
        match behind with
        | letter :: behind' =>
            if (ascii "bcl").contains letter then ([letter], behind') else ([], behind)
        | [] => ([], [])
      let isMarked := mark == Byte.plus || mark == Byte.hyphen
      let follows := behind = [Byte.ofChar 'f']
      if !isMarked || digits.isEmpty || !(behind.isEmpty || follows) then none
      else
        let number := mark :: digits
        let option :=
          if letter = ascii "b" then ascii "-c" ++ number ++ ascii "b"
          else if letter = ascii "c" then ascii "-c" ++ number
          else ascii "-n" ++ number
        some (if follows then [option, ascii "-f"] else [option])
  | [] => none

def tail (call : Call) : Work Nat := do
  let isOption (word : Bytes) : Bool := word.head? == some Byte.hyphen && 1 < word.length
  let arguments :=
    match call.arguments with
    | [] => []
    | first :: rest =>
        let isOld :=
          match rest with
          | [] => true
          | [word] => !isOption word || word = ascii "--"
          | [word, _] => word = ascii "--"
          | _ => false
        match if isOld then oldAmount? first else none with
        | some options => options ++ rest
        | none => call.arguments
  let forms := partForms ++
    [.of "f" "" .nothing, .of "" "follow" .optional, .of "F" "" .nothing,
      .of "s" "sleep-interval" .argument, .of "" "pid" .argument, .of "" "retry" .nothing,
      .of "" "max-unchanged-stats" .argument]
  let request ← partRequest { call with arguments } forms fun letter =>
    call.abandon (ascii "option used in invalid context -- " ++ [letter])
  let amounts := (← request.read.options.mapM (amountOf? call)).filterMap id
  let fromStart := amounts.any fun (amount, _) => amount.sign? == some Byte.plus
  let count := request.amount.count
  if count == 0 && !fromStart then return 0
  else
    let take (text : Bytes) : Bytes :=
      if request.countsBytes then
        text.drop (if fromStart then count - 1 else text.length - count)
      else
        let pieces := piecesOf request text
        (pieces.drop (if fromStart then count - 1 else pieces.length - count)).flatten
    let endsAtDirectory := request.countsBytes || (fromStart && count ≤ 1)
    writeParts call request (ascii "cannot fstat ") endsAtDirectory fun path =>
      return (← Call.contents path).map take

/-- A range of positions, counted from one; without an end it goes on. -/
structure Span where
  first : Nat
  last : Option Nat

def Span.contains (span : Span) (position : Nat) : Bool :=
  span.first ≤ position && span.last.all (position ≤ ·)

def spans (call : Call) (isFields : Bool) (text : Bytes) : Work (List Span) :=
  (splitList text).mapM fun word => do
    let numbered {α : Type} : Work α :=
      call.misuse (ascii (if isFields then "fields are numbered from 1"
        else "byte/character positions are numbered from 1"))
    let number (digits : Bytes) : Work Nat := do
      match Bytes.toNat? digits with
      | some 0 => numbered
      | some value =>
          if greatestInteger * 2 + 1 ≤ Int.ofNat value then
            call.misuse (ascii (if isFields then "field number " else "byte/character offset ") ++
              quoted digits ++ ascii " is too large")
          else return value
      | none =>
          call.misuse (ascii (if isFields then "invalid field value "
            else "invalid byte/character position ") ++ quoted digits)
    let first := word.takeWhile (· != Byte.hyphen)
    if first.length == word.length then
      if word.isEmpty then numbered
      else
        let position ← number word
        return ⟨position, some position⟩
    else
      let last := word.drop (first.length + 1)
      if first.isEmpty && last.isEmpty then
        call.misuse (ascii "invalid range with no endpoint: -")
      else
        let start ← if first.isEmpty then pure 1 else number first
        if last.isEmpty then return ⟨start, none⟩
        else
          let finish ← number last
          if finish < start then call.misuse (ascii "invalid decreasing range")
          else return ⟨start, some finish⟩
where
  /-- The words between commas and blanks. -/
  splitList (text : Bytes) : List Bytes :=
    Bytes.splitOn (Byte.ofChar ',')
      (text.map fun byte => if Byte.isBlank byte then Byte.ofChar ',' else byte)

structure Cutting where
  spans : List Span
  isComplement : Bool
  delimiter : UInt8
  outputDelimiter? : Option Bytes
  skipsOthers : Bool

namespace Cutting

def keeps (cutting : Cutting) (position : Nat) : Bool :=
  (cutting.spans.any (·.contains position)) != cutting.isComplement

def begins (cutting : Cutting) (position : Nat) : Bool :=
  if cutting.isComplement then !cutting.keeps (position - 1)
  else cutting.spans.any (fun span => span.first == position) &&
    !cutting.spans.any fun span => span.first < position && span.contains position

def bytes (cutting : Cutting) (line : Bytes) : Bytes :=
  (line.zipIdx.foldl
    (fun (done, hasWritten) (byte, index) =>
      let position := index + 1
      if !cutting.keeps position then (done, hasWritten)
      else
        let between :=
          if hasWritten && cutting.begins position then cutting.outputDelimiter?.getD [] else []
        (byte :: between.reverse ++ done, true))
    (([] : Bytes), false)).1.reverse

/-- The fields of a line that are kept; nothing if the line is not to be written. -/
def fields? (cutting : Cutting) (line : Bytes) : Option Bytes :=
  if !line.contains cutting.delimiter then if cutting.skipsOthers then none else some line
  else
    let kept := (Bytes.splitOn cutting.delimiter line).zipIdx.filterMap fun (field, index) =>
      if cutting.keeps (index + 1) then some field else none
    some (List.intercalate (cutting.outputDelimiter?.getD [cutting.delimiter]) kept)

end Cutting

def cut (call : Call) : Work Nat := do
  let read ← call.parse
    [.of "b" "bytes" .argument, .of "c" "characters" .argument, .of "f" "fields" .argument,
      .of "d" "delimiter" .argument, .of "n" "" .nothing, .of "s" "only-delimited" .nothing,
      .of "z" "zero-terminated" .nothing, .of "" "complement" .nothing,
      .of "" "output-delimiter" .argument]
    fun earlier given => do
      if isList given && earlier.any isList then
        call.misuse (ascii "only one list may be specified")
      if given.key == ascii "d" && 1 < (given.argument.getD []).length then
        call.misuse (ascii "the delimiter must be a single character")
  match read.options.find? isList with
  | none => call.misuse (ascii "you must specify a list of bytes, characters, or fields")
  | some list => do
      let isFields := list.key == ascii "f"
      if !isFields && read.has "d" then
        call.misuse (ascii
          "an input delimiter may be specified only when operating on fields")
      if !isFields && read.has "s" then
        call.misuse (ascii ("suppressing non-delimited lines makes sense\n" ++
          "\tonly when operating on fields"))
      let spans ← spans call isFields (list.argument.getD [])
      let cutting : Cutting :=
        { spans, isComplement := read.has "complement"
          delimiter := ((read.last? "d").map (·.headD 0)).getD 9
          outputDelimiter? := (read.last? "output-delimiter").map fun text =>
            if text.isEmpty then [0] else text
          skipsOthers := read.has "s" }
      let separator : UInt8 := if read.has "z" then 0 else Byte.newline
      let linesOf (text : Bytes) : List Bytes :=
        let pieces := Bytes.splitOn separator text
        if pieces.getLast? == some [] then pieces.dropLast else pieces
      let (texts, isComplete) ← call.allContents read.files
      let cutLine (line : Bytes) : Bytes :=
        let kept? := if isFields then cutting.fields? line else some (cutting.bytes line)
        match kept? with
        | some kept => kept ++ [separator]
        | none => []
      Call.put (texts.flatMap fun text => (linesOf text).flatMap cutLine)
      return if (← call.closeInput read.files) && isComplete then 0 else 1
where
  /-- Whether an option gives a list of ranges. -/
  isList (given : Given) : Bool :=
    [ascii "b", ascii "c", ascii "f"].contains given.key

end TradeLocal.Programs

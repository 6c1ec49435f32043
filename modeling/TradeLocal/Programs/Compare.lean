import TradeLocal.Programs.Part

/-!
# Comparing lines and files

`uniq` compares each line with the next, `comm` the lines of two sorted files, and `cmp` the
bytes of two files.
-/

namespace TradeLocal.Programs

open TradeLocal.Host TradeLocal.Numeral

def dropFields : Nat → Bytes → Bytes
  | 0, text => text
  | count + 1, text =>
      dropFields count ((text.dropWhile Byte.isBlank).dropWhile fun byte => !Byte.isBlank byte)

def countColumn (width count : Nat) : Bytes :=
  let digits := Bytes.ofNat count
  List.replicate (width - digits.length) Byte.space ++ digits

structure Uniqueness where
  key : Bytes → Bytes
  separator : UInt8
  showsSingle : Bool := true
  /-- Whether the last line of a group of equal lines is written. -/
  showsRepeated : Bool := true
  /-- Whether the lines of a group in front of the last are written. -/
  showsOthers : Bool := false
  counts : Bool := false
  /-- Whether groups with lines written are set apart: nothing, in front of each, or between. -/
  apart : String := "none"

namespace Uniqueness

/-- Write a line, the last of its group or not, with so many equal lines in front of it. -/
def put (uniqueness : Uniqueness) (isLast : Bool) (repeated : Nat) (line : Bytes) : Bytes :=
  let isShown :=
    if repeated == 0 then uniqueness.showsSingle
    else if isLast then uniqueness.showsRepeated
    else uniqueness.showsOthers
  if !isShown then []
  else
    (if uniqueness.counts then countColumn 7 (repeated + 1) ++ [Byte.space] else []) ++ line ++
      [uniqueness.separator]

def writeRest (uniqueness : Uniqueness) (hasWritten : Bool) (repeated : Nat) (line : Bytes) :
    List Bytes → Bytes
  | [] => uniqueness.put true repeated line
  | next :: rest =>
      if uniqueness.key next != uniqueness.key line then
        uniqueness.put true repeated line ++
          uniqueness.writeRest (hasWritten || repeated != 0) 0 next rest
      else
        let isSetApart := repeated == 0 &&
          (uniqueness.apart == "prepend" || (uniqueness.apart == "separate" && hasWritten))
        (if isSetApart then [uniqueness.separator] else []) ++
          if uniqueness.showsOthers then
            uniqueness.put false (repeated + 1) line ++
              uniqueness.writeRest hasWritten (repeated + 1) next rest
          else uniqueness.writeRest hasWritten (repeated + 1) line rest

def write (uniqueness : Uniqueness) : List Bytes → Bytes
  | [] => []
  | line :: rest => uniqueness.writeRest false 0 line rest

def writeGroups (uniqueness : Uniqueness) (apart : String) (lines : List Bytes) : Bytes :=
  let mark := [uniqueness.separator]
  let isFront := apart == "prepend" || apart == "both"
  let isBehind := apart == "append" || apart == "both"
  let (pieces, last?) := lines.foldl
    (fun (pieces, last?) line =>
      let isNew := last? != some (uniqueness.key line)
      let between := if isNew && (isFront || (last? : Option Bytes).isSome) then mark else []
      ((between ++ line ++ mark) :: pieces, some (uniqueness.key line)))
    (([] : List Bytes), none)
  pieces.reverse.flatten ++ if isBehind && last?.isSome then mark else []

end Uniqueness

def repeatedChoices : List (List String) := [["none"], ["prepend"], ["separate"]]
def groupChoices : List (List String) := [["prepend"], ["append"], ["separate"], ["both"]]

def uniqueNumbers : List (String × String) :=
  [("f", "invalid number of fields to skip"), ("s", "invalid number of bytes to skip"),
    ("w", "invalid number of bytes to compare")]

def unique (call : Call) : Work Nat := do
  let digits := (List.range 10).map fun digit => (48 + digit.toUInt8 : UInt8)
  let read ← call.parse
    ([.of "c" "count" .nothing, .of "d" "repeated" .nothing, .of "D" "" .nothing,
      .of "" "all-repeated" .optional, .of "f" "skip-fields" .argument, .of "" "group" .optional,
      .of "i" "ignore-case" .nothing, .of "s" "skip-chars" .argument, .of "u" "unique" .nothing,
      .of "z" "zero-terminated" .nothing, .of "w" "check-chars" .argument] ++
      digits.map fun digit => ⟨some digit, none, .nothing⟩)
    fun _ given => do
      for (key, text) in uniqueNumbers do
        if given.key == ascii key then
          let word := given.argument.getD []
          if (Bytes.toNat? word).isNone then call.abandon (word ++ ascii ": " ++ ascii text)
      if let some argument := given.argument then
        if given.key == ascii "group" then
          let _ ← call.choose "--group" groupChoices argument
        if given.key == ascii "all-repeated" then
          let _ ← call.choose "--all-repeated" repeatedChoices argument
  let number (key : String) : Option Nat := (read.last? key).bind Bytes.toNat?
  let oldFields := ofDigits 10 (read.options.filterMap fun given =>
    if given.key.all Byte.isDigit then given.key.head? else none)
  let isSkip (word : Bytes) : Bool :=
    word.head? == some Byte.plus && (Bytes.toNat? word.tail).isSome
  let skips := read.operands.filter isSkip
  let operands := read.operands.filter fun word => !isSkip word
  if let _ :: _ :: word :: _ := operands then call.refuseExtra word
  let showsAll := read.has "D" || read.has "all-repeated"
  let isGrouped := read.has "group"
  if isGrouped && (showsAll || ["c", "d", "u"].any read.has) then
    call.misuse (ascii "--group is mutually exclusive with -c/-d/-D/-u")
  if showsAll && read.has "c" then
    call.misuse (ascii "printing all duplicated lines and repeat counts is meaningless")
  let input := operands.headD [Byte.hyphen]
  let text ← Call.contents input
  if let .error error := text then
    if error != .isDirectory && input ≠ [Byte.hyphen] then
      call.complainOf input error
      Work.exit 1
  if let some output := operands[1]? then
    if output ≠ [Byte.hyphen] then
      match ← Work.openFile .writing output with
      | .ok number => Work.setDescriptor 1 number
      | .error error => do
          call.complainOf output error
          Work.exit 1
  match text with
  | .error error =>
      call.abandon (ascii "error reading " ++ quotedName input ++ ascii ": " ++ error.text)
  | .ok text => do
      let separator : UInt8 := if read.has "z" then 0 else Byte.newline
      let pieces := Bytes.splitOn separator text
      let all := if pieces.getLast? == some [] then pieces.dropLast else pieces
      let fields := (number "f").getD oldFields
      let bytes := ((skips.getLast?.bind fun word => Bytes.toNat? word.tail) <|> number "s").getD 0
      let key (line : Bytes) : Bytes :=
        let rest := (dropFields fields line).drop bytes
        let compared := match number "w" with
          | some width => rest.take width
          | none => rest
        if read.has "i" then compared.map Byte.toLower else compared
      let apart ← (read.last? "all-repeated").mapM (call.choose "--all-repeated" repeatedChoices)
      let uniqueness : Uniqueness :=
        { key, separator, showsSingle := !(read.has "d" || showsAll)
          showsRepeated := !read.has "u", showsOthers := showsAll, counts := read.has "c"
          apart := apart.getD "none" }
      if isGrouped then
        let apart ← (read.last? "group").mapM (call.choose "--group" groupChoices)
        Call.put (uniqueness.writeGroups (apart.getD "separate") all)
      else Call.put (uniqueness.write all)
      return 0

structure Merging where
  /-- The pieces of output, the latest first. -/
  done : List (Sum Bytes Bytes) := []
  counts : Nat × Nat × Nat := (0, 0, 0)
  /-- Whether it has been reported that a file is not sorted. -/
  reported : Bool × Bool := (false, false)

/-- Merge the lines of two files.  A file out of order is reported once, when a line of the
other one is left over. -/
def mergeLines (checks : Bool) (write : Nat → Bytes → Bytes) :
    Nat → Option Bytes → Option Bytes → Merging → List Bytes → List Bytes → Merging
  | 0, _, _, merging, _, _ => merging
  | _, _, _, merging, [], [] => merging
  | fuel + 1, before, beforeOther, merging, left, right =>
      let put (column : Nat) (line : Bytes) (merging : Merging) : Merging :=
        let (one, two, three) := merging.counts
        { merging with
          done := .inl (write column line) :: merging.done
          counts := if column == 1 then (one + 1, two, three)
            else if column == 2 then (one, two + 1, three) else (one, two, three + 1) }
      let checkLeft (merging : Merging) (line : Bytes) (next : List Bytes) : Merging :=
        match next with
        | following :: _ =>
            if checks && following < line && !merging.reported.1 then
              { merging with
                reported := (true, merging.reported.2)
                done := .inr (ascii "file 1 is not in sorted order") :: merging.done }
            else merging
        | [] => merging
      let checkRight (merging : Merging) (line : Bytes) (next : List Bytes) : Merging :=
        match next with
        | following :: _ =>
            if checks && following < line && !merging.reported.2 then
              { merging with
                reported := (merging.reported.1, true)
                done := .inr (ascii "file 2 is not in sorted order") :: merging.done }
            else merging
        | [] => merging
      match left, right with
      | [], [] => merging
      | line :: left, [] =>
          mergeLines checks write fuel (some line) beforeOther
            (checkLeft (put 1 line merging) line left) left []
      | [], line :: right =>
          mergeLines checks write fuel before (some line)
            (checkRight (put 2 line merging) line right) [] right
      | line :: left, other :: right =>
          if line = other then
            mergeLines checks write fuel (some line) (some other)
              (checkRight (checkLeft (put 3 line merging) line left) other right) left right
          else if line < other then
            mergeLines checks write fuel (some line) beforeOther
              (checkLeft (put 1 line merging) line left) left (other :: right)
          else
            mergeLines checks write fuel before (some other)
              (checkRight (put 2 other merging) other right) (line :: left) right

def compareSorted (call : Call) : Work Nat := do
  let read ← call.parse
    [.of "1" "" .nothing, .of "2" "" .nothing, .of "3" "" .nothing,
      .of "" "check-order" .nothing, .of "" "nocheck-order" .nothing,
      .of "" "output-delimiter" .argument, .of "" "total" .nothing,
      .of "z" "zero-terminated" .nothing]
    fun earlier given => do
      if given.key == ascii "output-delimiter" then
        for other in earlier do
          if other.key == given.key && other.argument != given.argument then
            call.abandon (ascii "multiple output delimiters specified")
  let checking? := read.lastOf? ["check-order", "nocheck-order"]
  match read.operands with
  | [] => call.missOperand
  | [word] => call.misuse (ascii "missing operand after " ++ quoted word)
  | _ :: _ :: word :: _ => call.refuseExtra word
  | [first, second] => do
      let separator : UInt8 := if read.has "z" then 0 else Byte.newline
      let linesOf (path : Bytes) : Work (List Bytes) := do
        match ← Call.contents path with
        | .ok text =>
            let pieces := Bytes.splitOn separator text
            return if pieces.getLast? == some [] then pieces.dropLast else pieces
        | .error error => do
            call.complainOf path error
            Work.exit 1
      let left ← linesOf first
      let right ← linesOf second
      let delimiter := match read.last? "output-delimiter" with
        | some [] => [0]
        | some text => text
        | none => [9]
      let write (column : Nat) (line : Bytes) : Bytes :=
        let one := !read.has "1"
        let two := !read.has "2"
        let three := !read.has "3"
        if column == 1 then if one then line ++ [separator] else []
        else if column == 2 then
          if two then (if one then delimiter else []) ++ line ++ [separator] else []
        else if three then
          (if one then delimiter else []) ++ (if two then delimiter else []) ++ line ++
            [separator]
        else []
      let strict := checking? == some (ascii "check-order")
      let merging := mergeLines (checking? != some (ascii "nocheck-order")) write
        (left.length + right.length + 1) none none {} left right
      let isUnpaired := merging.counts.1 != 0 || merging.counts.2.1 != 0
      let mut isSorted := true
      for piece in merging.done.reverse do
        match piece with
        | .inl text => Call.put text
        | .inr text =>
            if strict || isUnpaired then
              call.complain text
              isSorted := false
              if strict then Work.exit 1
      if read.has "total" then
        let (one, two, three) := merging.counts
        Call.put (Bytes.ofNat one ++ delimiter ++ Bytes.ofNat two ++ delimiter ++
          Bytes.ofNat three ++ delimiter ++ ascii "total" ++ [separator])
      if isSorted then return 0
      else
        call.complain (ascii "input is not in sorted order")
        return 1

def compareTrouble : Nat := 2

def octalColumn (byte : UInt8) : Bytes :=
  let digits := inBase 8 byte.toNat
  List.replicate (3 - digits.length) Byte.space ++ digits

def printedByte (byte : UInt8) : Bytes :=
  let low := byte % 128
  let shown := if low < 32 then [94, low + 64] else if low == 127 then ascii "^?" else [low]
  if byte < 128 then shown else ascii "M-" ++ shown

def byteMultiple? (suffix : Bytes) : Option Nat :=
  if suffix.head? == some (Byte.ofChar 'b') then none else multiple? suffix

def byteCount (call : Call) (option word : Bytes) (shown : Bytes) : Work Nat := do
  match readNatural? none word with
  | some (value, suffix) =>
      match byteMultiple? suffix with
      | some factor => return value * factor
      | none => refuse
  | none => refuse
where
  refuse {α : Type} : Work α :=
    call.misuse (ascii "invalid --" ++ option ++ ascii " value " ++ quoted shown)

def initialCounts (call : Call) (word : Bytes) : Work (Nat × Nat) := do
  let option := ascii "ignore-initial"
  let first := word.takeWhile (· != Byte.colon)
  let own ← byteCount call option first word
  if first.length == word.length then return (own, own)
  else return (own, ← byteCount call option (word.drop (first.length + 1)) word)

def compareBytes (call : Call) : Work Nat := do
  let help := call.name ++ ascii ": Try '" ++ call.name ++
    ascii " --help' for more information.\n"
  let call := { call with trouble := compareTrouble, helpText? := some help }
  let countOf (word : Bytes) : Work Nat := byteCount call (ascii "bytes") word word
  let read ← call.parse
    [.of "b" "print-bytes" .nothing, .of "i" "ignore-initial" .argument,
      .of "l" "verbose" .nothing, .of "n" "bytes" .argument, .of "s" "quiet" .nothing,
      .of "s" "silent" .nothing, .of "v" "version" .nothing]
    fun earlier given => do
      let isGiven (key : String) : Bool := (given :: earlier).any (·.key == ascii key)
      if isGiven "l" && isGiven "s" then
        call.misuse (ascii "options -l and -s are incompatible")
      let word := given.argument.getD []
      if given.key == ascii "i" then
        let _ ← initialCounts call word
      if given.key == ascii "n" then
        let _ ← countOf word
  match read.operands with
  | [] => call.misuse (ascii "missing operand after " ++ quoted call.name)
  | first :: rest => do
      let second := rest.headD [Byte.hyphen]
      let ignored ← (read.options.filter (·.key == ascii "i")).mapM fun given =>
        initialCounts call (given.argument.getD [])
      let added ← ((rest.drop 1).take 2).mapM fun word =>
        byteCount call (ascii "ignore-initial") word word
      if let some word := rest[3]? then call.refuseExtra word
      let initial := ((ignored.map Prod.fst) ++ added.take 1).foldl max 0
      let initialOther := ((ignored.map Prod.snd) ++ added.drop 1).foldl max 0
      let limits ← (read.options.filter (·.key == ascii "n")).mapM fun given =>
        countOf (given.argument.getD [])
      let report (path : Bytes) (error : SystemError) : Work Unit := do
        unless read.has "s" && error == .notFound do
          call.complain (path ++ ascii ": " ++ error.text)
        Work.exit compareTrouble
      for path in [first, second] do
        if path ≠ [Byte.hyphen] then
          if let .error error := find (← Work.files) (← Work.here) path then report path error
      let contents (path : Bytes) (skip : Nat) : Work Bytes := do
        match ← Call.contents path with
        | .ok text =>
            return match limits.min? with
              | some limit => (text.drop skip).take limit
              | none => text.drop skip
        | .error error => do
            report path error
            return []
      let left ← contents first initial
      let right ← contents second initialOther
      let pairs := (left.zip right).zipIdx
      let differences := pairs.filter fun ((byte, other), _) => byte != other
      let shorter? : Option Bytes :=
        if left.length < right.length then some first
        else if right.length < left.length then some second
        else none
      let common := min left.length right.length
      let reportEnd (path : Bytes) : Work Unit := do
        unless read.has "s" do
          let newlines := (left.take common).countP (· == Byte.newline)
          let isWhole := (left.take common).getLast? == some Byte.newline
          let place :=
            if common == 0 then ascii " which is empty"
            else if read.has "l" then ascii " after byte " ++ Bytes.ofNat common
            else ascii " after byte " ++ Bytes.ofNat common ++
              (if isWhole then ascii ", line " ++ Bytes.ofNat newlines
                else ascii ", in line " ++ Bytes.ofNat (newlines + 1))
          call.complain (ascii "EOF on " ++ path ++ place)
      if read.has "l" && !read.has "s" then
        let width := (Bytes.ofNat common).length
        for ((byte, other), index) in differences do
          let shown :=
            if read.has "b" then
              octalColumn byte ++ Byte.space :: printedByte byte ++
                List.replicate (4 - (printedByte byte).length) Byte.space ++
                Byte.space :: octalColumn other ++ Byte.space :: printedByte other
            else octalColumn byte ++ Byte.space :: octalColumn other
          Call.put (countColumn width (index + 1) ++ Byte.space :: shown ++ [Byte.newline])
        if let some path := shorter? then reportEnd path
        return if differences.isEmpty && shorter?.isNone then 0 else 1
      else
        match differences with
        | ((byte, other), index) :: _ => do
            unless read.has "s" do
              let line := (left.take index).countP (· == Byte.newline) + 1
              let shown :=
                if read.has "b" then
                  ascii " is " ++ octalColumn byte ++ Byte.space :: printedByte byte ++
                    Byte.space :: octalColumn other ++ Byte.space :: printedByte other
                else []
              Call.put (first ++ Byte.space :: second ++ ascii " differ: " ++
                ascii (if read.has "b" then "byte " else "char ") ++ Bytes.ofNat (index + 1) ++
                ascii ", line " ++ Bytes.ofNat line ++ shown ++ [Byte.newline])
            return 1
        | [] =>
            match shorter? with
            | none => return 0
            | some path => do
                reportEnd path
                return 1

end TradeLocal.Programs

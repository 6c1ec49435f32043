import TradeLocal.Programs.Remove

/-!
# Making files

`touch` makes files that are not there.  A time may be given for them, which is looked at and
not kept.
-/

namespace TradeLocal.Programs

open TradeLocal.Host

/-- The words that may stand in a time, of which the first three letters may do for those
longer. -/
def timeWords : List Bytes :=
  ["january", "february", "march", "april", "may", "june", "july", "august", "september", "sept",
    "october", "november", "december", "sunday", "monday", "tuesday", "tues", "wednesday",
    "wednes", "thursday", "thur", "thurs", "friday", "saturday", "year", "month", "fortnight",
    "week", "day", "hour", "minute", "min", "second", "sec", "tomorrow", "yesterday", "today",
    "now", "last", "this", "next", "first", "third", "fourth", "fifth", "sixth", "seventh",
    "eighth", "ninth", "tenth", "eleventh", "twelfth", "ago", "hence", "am", "pm", "utc", "gmt",
    "ut", "dst", "est", "edt", "cst", "cdt", "mst", "mdt", "pst", "pdt", "cet", "bst", "t",
    "z"].map ascii

def isTimeWord (word : Bytes) : Bool :=
  let lower := word.map Byte.toLower
  let single := if lower.getLast? == some (Byte.ofChar 's') then lower.dropLast else lower
  lower.length == 1 || timeWords.any fun known =>
    known == lower || known == single || (3 < known.length && known.take 3 == lower)

def runs (isOf : UInt8 → Bool) (text : Bytes) : List Bytes :=
  (text.splitBy fun left right => isOf left == isOf right)

def isDateNumber (word : Bytes) : Bool :=
  let within (text : Bytes) (least most : Nat) : Bool :=
    (Bytes.toNat? text).any fun value => least ≤ value && value ≤ most
  if word.contains Byte.hyphen then
    match Bytes.splitOn Byte.hyphen word with
    | [year, month, day] =>
        !year.isEmpty && !month.isEmpty && !day.isEmpty && within month 1 12 && within day 1 31 &&
          !((ascii "02") == month && 29 < (Bytes.toNat? day).getD 0)
    | _ => true
  else if word.contains Byte.colon then
    match Bytes.splitOn Byte.colon word with
    | hour :: minute :: rest =>
        within hour 0 24 && within minute 0 59 &&
          rest.all fun second => within (second.takeWhile Byte.isDigit) 0 60
    | _ => true
  else true

def isDate (text : Bytes) : Bool :=
  let isRest (byte : UInt8) : Bool := Byte.isBlank byte || (ascii ",()").contains byte
  (runs isRest text).all fun piece =>
    piece.all isRest || piece.all (fun byte => Byte.isDigit byte) ||
      ((runs Byte.isLetter piece).all fun part =>
        if part.all Byte.isLetter then isTimeWord part
        else part.all (fun byte => Byte.isDigit byte || (ascii "+-:./@").contains byte) &&
          isDateNumber part)

/-- Whether digits stand for a month, a day, an hour and a minute, with a year in front and a
second behind if they are given. -/
def isStamp (word : Bytes) : Bool :=
  let digits := word.takeWhile Byte.isDigit
  let two (place : Nat) : Nat := (Bytes.toNat? ((digits.drop place).take 2)).getD 0
  let start := digits.length - 8
  let month := two start
  let longest := if month == 2 then 29 else if [4, 6, 9, 11].contains month then 30 else 31
  let isRest (rest : Bytes) : Bool :=
    match rest with
    | [] => true
    | dot :: second =>
        dot == Byte.ofChar '.' && second.length == 2 &&
          (Bytes.toNat? second).any (· ≤ 60)
  [8, 10, 12].contains digits.length && isRest (word.drop digits.length) &&
    1 ≤ month && month ≤ 12 && 1 ≤ two (start + 2) && two (start + 2) ≤ longest &&
    two (start + 4) ≤ 23 && two (start + 6) ≤ 59

def touchOne (call : Call) (read : Arguments) (path : Bytes) : Work Bool := do
  let files ← Work.files
  let here ← Work.here
  let finding := if read.has "h" then findEntry else find
  if path = [Byte.hyphen] then return true
  else
    match finding files here path with
    | .ok _ => return true
    | .error missing =>
        let failTimes : Work Bool := call.check "setting times of" path (.error missing)
        if read.has "c" && missing == .notFound then return true
        else if read.has "c" || read.has "h" then failTimes
        else
          match ← Work.openFile Work.Request.appending path with
          | .ok _ => return true
          | .error .isDirectory => failTimes
          | .error error => call.check "cannot touch" path (.error error)

def touch (call : Call) : Work Nat := do
  let invalid (word : Bytes) : Work Unit :=
    call.abandon (ascii "invalid date format " ++ quoted word)
  let read ← call.parse
    [.of "a" "" .nothing, .of "c" "no-create" .nothing, .of "d" "date" .argument,
      .of "f" "" .nothing, .of "h" "no-dereference" .nothing, .of "m" "" .nothing,
      .of "r" "reference" .argument, .of "t" "" .argument, .of "" "time" .argument]
    fun _ given => do
      if given.key == ascii "t" then
        if let some word := given.argument then
          unless isStamp word do invalid word
      if given.key == ascii "time" then
        let _ ← call.choose "--time" [["atime", "access", "use"], ["mtime", "modify"]]
          (given.argument.getD [])
  if read.has "t" && (read.has "r" || read.has "d") then
    call.misuse (ascii "cannot specify times from more than one source")
  if let some path := read.last? "r" then
    let finding := if read.has "h" then findEntry else find
    if let .error error := finding (← Work.files) (← Work.here) path then
      call.abandon (ascii "failed to get attributes of " ++ quotedName path ++ ascii ": " ++
        error.text)
  if let some word := read.last? "d" then
    unless isDate word do invalid word
  if read.operands.isEmpty then call.misuse (ascii "missing file operand")
  return codeOf (← read.operands.mapM (touchOne call read))

end TradeLocal.Programs
